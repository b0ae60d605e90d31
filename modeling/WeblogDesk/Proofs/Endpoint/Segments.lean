/-
  WeblogDesk.Proofs.Endpoint.Segments

  The segments that a call adds to the base path are its names, one for one.

  A name that is taken whole (`IsWhole`) is one segment, also if it is empty or
  looks like an encoding itself.  So the path of a call is written as the stem of
  the base path with the encoded names behind it, joined by slashes
  (`text_eq_intercalate`).  A reader that cuts this text at its slashes finds the
  segments again (`splitAtSeparator_intercalate`), and decoding each of them gives
  back the name (`fromUTF8?_decode_segmentOf`).
-/

import WeblogDesk.Proofs.Endpoint.Containment
import WeblogDesk.Proofs.Endpoint.Requests

namespace WeblogDesk

open Url Url.Path

/-! ## Segments -/

namespace Url

/-- The segment of a name in a URL of the network. -/
def segmentOf (name : String) : List Char :=
  encode (segmentSet true) name.toList

/-- A segment is ASCII, and holds nothing that ends a segment or the path. -/
theorem mem_segmentOf {name : String} {c : Char} (h : c ∈ segmentOf name) :
    c.toNat < 128 ∧ c ≠ '/' ∧ c ≠ '?' ∧ c ≠ '#' ∧ c ≠ '\\' := by
  obtain ⟨hset, hslash, hback⟩ := mem_encode_segmentSet h
  have hcontrol : isControl c = false := (Bool.or_eq_false_iff.1 hset).1
  refine ⟨?_, hslash, ?_, ?_, hback⟩
  · simp only [isControl, Bool.or_eq_false_iff, decide_eq_false_iff_not] at hcontrol
    omega
  · rintro rfl
    exact absurd hset (by decide)
  · rintro rfl
    exact absurd hset (by decide)

/-- Decoding a segment gives the bytes of the name. -/
theorem decode_segmentOf (name : String) :
    decode (segmentOf name) = name.toUTF8.data.toList := by
  have hdecode := decode_encode (segmentSet_percent true) name.toList []
  rw [List.append_nil, decode, List.append_nil] at hdecode
  rw [segmentOf, hdecode, Session.toList_data_toUTF8]

/-- Read as text, a decoded segment is the name. -/
theorem fromUTF8?_decode_segmentOf (name : String) :
    String.fromUTF8? ⟨(decode (segmentOf name)).toArray⟩ = some name := by
  rw [decode_segmentOf]
  exact Http.fromUTF8?_toUTF8 name

/-! ## Segments joined by slashes -/

/-- A path is written as a slash, and its segments joined by slashes. -/
theorem Path.text_eq_intercalate {path : Path} (h : path ≠ []) :
    path.text = '/' :: ['/'].intercalate path := by
  induction path with
  | nil => exact absurd rfl h
  | cons segment rest ih =>
    rw [text_cons]
    cases rest with
    | nil => rw [List.intercalate_singleton, text, List.flatMap_nil, List.append_nil]
    | cons next others =>
      rw [ih (List.cons_ne_nil next others), List.intercalate_cons_cons, List.append_assoc]
      rfl

section Cutting

variable {separates : Char → Bool} {part : List Char}

/-- A text without separators is one part. -/
theorem splitAtSeparator_of_forall (h : ∀ c ∈ part, separates c = false) :
    splitAtSeparator separates part = [part] := by
  induction part with
  | nil => rfl
  | cons c part ih =>
    have hc : separates c = false := h c List.mem_cons_self
    simp [splitAtSeparator, hc, ih fun d hd => h d (List.mem_cons_of_mem c hd)]

/-- The first part ends at the first separator. -/
theorem splitAtSeparator_append (h : ∀ c ∈ part, separates c = false) {sep : Char}
    (hsep : separates sep = true) (rest : List Char) :
    splitAtSeparator separates (part ++ sep :: rest) =
      part :: splitAtSeparator separates rest := by
  induction part with
  | nil => simp [splitAtSeparator, hsep]
  | cons c part ih =>
    have hc : separates c = false := h c List.mem_cons_self
    simp [splitAtSeparator, hc, ih fun d hd => h d (List.mem_cons_of_mem c hd)]

/-- Parts that hold no separator are found again when they are joined by one. -/
theorem splitAtSeparator_intercalate {sep : Char} (hsep : separates sep = true)
    {parts : List (List Char)} (hne : parts ≠ [])
    (h : ∀ part ∈ parts, ∀ c ∈ part, separates c = false) :
    splitAtSeparator separates ([sep].intercalate parts) = parts := by
  induction parts with
  | nil => exact absurd rfl hne
  | cons part rest ih =>
    have hpart : ∀ c ∈ part, separates c = false := h part List.mem_cons_self
    cases rest with
    | nil => rw [List.intercalate_singleton, splitAtSeparator_of_forall hpart]
    | cons next others =>
      rw [List.intercalate_cons_cons, List.append_assoc, List.singleton_append,
        splitAtSeparator_append hpart hsep,
        ih (List.cons_ne_nil next others) fun other hother =>
          h other (List.mem_cons_of_mem part hother)]

end Cutting

end Url

/-! ## Calls -/

namespace Call

/-- The ids that a call is about. -/
def ids : Call → List String
  | .listPlanets => []
  | .deletePlanet id => [id]
  | .members weblog => [weblog]
  | .potentialMembers weblog => [weblog]
  | .updateMembers weblog _ => [weblog]
  | .attachUser weblog user _ => [weblog, user]
  | .inviteUser weblog user _ => [weblog, user]

/-- The names of a call, from the tree down. -/
def route (call : Call) : List String := call.tree ++ call.names

/-- A constant and a name behind it that is taken whole are one segment each. -/
theorem behind_of_isWhole {name : String} (h : IsWhole name.toList) (constant : String)
    (hplain : IsPlain constant.toList) :
    (Naming.of name.toList).behind constant.toList = [segmentOf constant, segmentOf name] := by
  have hconstant : segmentOf constant = constant.toList := hplain.2.2
  rw [h.naming, Naming.behind_segment, hconstant]
  rfl

/-- Below its tree, a call whose ids are taken whole adds its names. -/
theorem below_eq_map {call : Call} (h : ∀ id ∈ call.ids, IsWhole id.toList) :
    call.below = call.names.map segmentOf := by
  have hweblog {weblog : String} (hid : IsWhole weblog.toList) :=
    behind_of_isWhole hid "weblog" (by decide)
  have huser {user : String} (hid : IsWhole user.toList) :=
    behind_of_isWhole hid "user" (by decide)
  -- what is left of each call are constants
  cases call with
  | listPlanets => rfl
  | deletePlanet id => exact behind_of_isWhole (h id (by simp [ids])) _ (by decide)
  | members weblog => rw [below, hweblog (h weblog (by simp [ids]))]; rfl
  | potentialMembers weblog => rw [below, hweblog (h weblog (by simp [ids]))]; rfl
  | updateMembers weblog roles => rw [below, hweblog (h weblog (by simp [ids]))]; rfl
  | attachUser weblog user role =>
    rw [below, hweblog (h weblog (by simp [ids])), huser (h user (by simp [ids]))]
    cases role <;> rfl
  | inviteUser weblog user role =>
    rw [below, hweblog (h weblog (by simp [ids])), huser (h user (by simp [ids]))]
    cases role <;> rfl

theorem treePath_eq_map (call : Call) : call.treePath = call.tree.map segmentOf := by
  cases call <;> rfl

/-- What a call adds to the stem of the base path. -/
theorem treePath_append_below {call : Call} (h : ∀ id ∈ call.ids, IsWhole id.toList) :
    call.treePath ++ call.below = call.route.map segmentOf := by
  rw [treePath_eq_map, below_eq_map h, route, List.map_append]

theorem route_ne_nil (call : Call) : call.route ≠ [] := by
  cases call <;> simp [route, tree, adminTree, authoringTree]

end Call

/-! ## Clients -/

namespace Client

/-- If the ids of a call are taken whole, it has a URL, which is the base URL with one segment for
    each of its names behind the path, between slashes, and query and fragment stay behind it.  The
    segments are ASCII and hold nothing that ends a segment or the path, a reader that cuts the
    path at its slashes finds them again, and decoding each of them gives back the name. -/
theorem url_segments {idna : Idna} {text : String} {session : Option String} {client : Client}
    (hnew : Client.new idna text session = .ok client) (hhttp : client.base.isHttp = true)
    (call : Call) (hids : ∀ id ∈ call.ids, IsWhole id.toList) :
    let segments := call.route.map segmentOf
    let joined := ['/'].intercalate segments
    ∃ url, client.url call = .ok url ∧
      url.path.text = stemText client.base.path.text ++ '/' :: joined ∧
      url.render =
        String.ofList (client.base.scheme ++ ':' :: client.base.lead.text ++
          (stemText client.base.path.text ++ '/' :: joined) ++
          tailText client.base.query client.base.fragment) ∧
      (∀ segment ∈ segments, ∀ c ∈ segment,
        c.toNat < 128 ∧ c ≠ '/' ∧ c ≠ '?' ∧ c ≠ '#' ∧ c ≠ '\\') ∧
      splitAtSeparator (isSlash true) joined = segments ∧
      segments.map (fun segment => String.fromUTF8? ⟨(decode segment).toArray⟩) =
        call.route.map some := by
  intro segments joined
  have hne : segments ≠ [] := fun h => call.route_ne_nil (List.map_eq_nil_iff.1 h)
  have hascii : ∀ segment ∈ segments, ∀ c ∈ segment,
      c.toNat < 128 ∧ c ≠ '/' ∧ c ≠ '?' ∧ c ≠ '#' ∧ c ≠ '\\' := by
    intro segment hsegment c hc
    obtain ⟨name, -, rfl⟩ := List.mem_map.1 hsegment
    exact mem_segmentOf hc
  have hpath : Url.Path.text (stem client.base.path ++ call.treePath ++ call.below) =
      stemText client.base.path.text ++ '/' :: joined := by
    rw [List.append_assoc, Call.treePath_append_below hids, text_append,
      text_stem (slashFree_base hnew), text_eq_intercalate hne]
  refine ⟨_, url_eq hhttp call, hpath, ?_, hascii, ?_, ?_⟩
  · rw [← hpath]
    rfl
  · refine splitAtSeparator_intercalate rfl hne fun segment hsegment c hc => ?_
    obtain ⟨-, hslash, -, -, hback⟩ := hascii segment hsegment c hc
    simp [isSlash, hslash, hback]
  · rw [List.map_map]
    exact List.map_congr_left fun name _ => fromUTF8?_decode_segmentOf name

/-- A user whose id looks encoded already, on a weblog without a name. -/
theorem url_segments_of_escapes :
    ∃ client url,
      Client.new .asciiOnly "http://blog.example.com/tightblog/?lang=en#top" none = .ok client ∧
      client.base.isHttp = true ∧
      client.url (.attachUser "" "%2e/ü" .post) = .ok url ∧
      url.render =
        "http://blog.example.com/tightblog/tb-ui/authoring/rest/weblog//user/" ++
          "%252e%2F%C3%BC/role/POST/attach?lang=en#top" := by
  let base : Url :=
    { scheme := "http".toList
      lead := .authority ⟨[], "blog.example.com".toList, none⟩
      path := ["tightblog".toList, []]
      query := some "lang=en".toList
      fragment := some "top".toList }
  have hnew : Client.new .asciiOnly "http://blog.example.com/tightblog/?lang=en#top" none =
      .ok ⟨base, none⟩ := rfl
  have hhttp : base.isHttp = true := by decide
  have hids : ∀ id ∈ (Call.attachUser "" "%2e/ü" .post).ids, IsWhole id.toList := by decide
  obtain ⟨url, hurl, -, hrender, -⟩ := url_segments hnew hhttp _ hids
  refine ⟨⟨base, none⟩, url, hnew, hhttp, hurl, ?_⟩
  rw [hrender]
  decide

end Client
end WeblogDesk
