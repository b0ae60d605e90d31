/-
  WeblogDesk.Proofs.Endpoint.Containment

  No id moves a call out of its tree.

  A name that steps up takes the place of the constant in front of it, and every
  segment that a call adds is one that a reader of URLs goes down by.  So the
  URL of a call differs from the base URL in its path only, and that path begins
  with the text of the base path and the text of the tree.
-/

import WeblogDesk.Proofs.Endpoint.Construction
import WeblogDesk.Proofs.Endpoint.Place

namespace WeblogDesk

open Url Url.Path

/-! ## Texts of paths -/

namespace Url.Path

/-- The text of a path without one slash at the end; a slash alone stays. -/
def dropSlashText (text : List Char) : List Char :=
  if text ≠ ['/'] ∧ text.getLast? = some '/' then text.dropLast else text

/-- What the text of a base path contributes: all but one slash at the end, and nothing if only
    a slash is left. -/
def stemText (text : List Char) : List Char :=
  if dropSlashText text = ['/'] then [] else dropSlashText text

theorem text_append (path other : Path) : text (path ++ other) = text path ++ text other :=
  List.flatMap_append

theorem text_cons (segment : List Char) (path : Path) :
    text (segment :: path) = '/' :: (segment ++ text path) := by
  simp [text]

/-- Only the root is written as one slash. -/
theorem text_eq_slash_iff {path : Path} : text path = ['/'] ↔ path = [[]] := by
  constructor
  · intro h
    cases path with
    | nil => cases h
    | cons segment rest =>
      rw [text_cons, List.cons.injEq, List.append_eq_nil_iff] at h
      obtain ⟨-, rfl, hrest⟩ := h
      cases rest with
      | nil => rfl
      | cons next more => rw [text_cons] at hrest; cases hrest
  · rintro rfl
    rfl

theorem text_base (path : Path) :
    text (base path) = if text path = ['/'] then [] else text path := by
  unfold base
  by_cases h : path = [[]]
  · rw [if_pos h, if_pos (text_eq_slash_iff.2 h)]
    rfl
  · rw [if_neg h, if_neg fun ht => h (text_eq_slash_iff.1 ht)]

theorem text_concat (path : Path) (last : List Char) :
    text (path ++ [last]) = text path ++ '/' :: last := by
  rw [text_append, text_cons]
  exact congrArg (text path ++ '/' :: ·) (List.append_nil last)

theorem dropSlash_concat_nil {path : Path} (h : path ≠ []) :
    dropSlash (path ++ [[]]) = path := by
  have hlength : 0 < path.length := List.length_pos_iff.2 h
  simp [dropSlash, hlength]

theorem dropSlash_concat_of_ne {last : List Char} (h : last ≠ []) (path : Path) :
    dropSlash (path ++ [last]) = path ++ [last] := by
  simp [dropSlash, h]

/-- Leaving out an empty segment at the end is leaving out a slash at the end. -/
theorem text_dropSlash {path : Path} (h : SlashFree path) :
    text (dropSlash path) = dropSlashText (text path) := by
  rcases List.eq_nil_or_concat path with rfl | ⟨init, last, rfl⟩
  · rfl
  · rw [List.concat_eq_append] at h ⊢
    by_cases hlast : last = []
    · -- the text ends in a slash, and is nothing else only for the root
      subst hlast
      by_cases hinit : init = []
      · subst hinit
        rfl
      · have hroot : text (init ++ [[]]) ≠ ['/'] := by
          rw [Ne, text_eq_slash_iff]
          intro hconcat
          exact hinit (List.append_left_eq_self.1 hconcat)
        have hslash : (text (init ++ [[]])).getLast? = some '/' := by
          rw [text_concat, List.getLast?_concat]
        rw [dropSlash_concat_nil hinit, dropSlashText, if_pos ⟨hroot, hslash⟩, text_concat,
          List.dropLast_concat]
    · -- the text ends in a character of the last segment
      have hslash : (text (init ++ [last])).getLast? ≠ some '/' := by
        obtain ⟨front, c, rfl⟩ := (List.eq_nil_or_concat last).resolve_left hlast
        rw [text_concat, List.concat_eq_append, ← List.cons_append, ← List.append_assoc,
          List.getLast?_concat, Ne, Option.some.injEq]
        rintro rfl
        exact h (front.concat '/') (by simp) (by simp)
      rw [dropSlash_concat_of_ne hlast, dropSlashText, if_neg fun ht => hslash ht.2]

theorem text_stem {path : Path} (h : SlashFree path) : text (stem path) = stemText (text path) := by
  rw [stem, text_base, text_dropSlash h]
  rfl

/-! ## Segments that lead down -/

/-- Whether a reader of URLs, finding the segment in a path, goes down by it: it holds nothing
    that ends a segment or the path, and neither its dots nor its encodings are followed. -/
def LeadsDown (segment : List Char) : Prop :=
  Step.ofText segment = .down segment ∧
    ∀ c ∈ segment, c ≠ '/' ∧ c ≠ '\\' ∧ c ≠ '?' ∧ c ≠ '#'

/-- An encoded name that is not just dots leads down. -/
theorem leadsDown_encode {name : List Char} (hdot : name ≠ ['.']) (hdots : name ≠ ['.', '.']) :
    LeadsDown (encode (segmentSet true) name) := by
  have hinj {other : List Char} (hother : encode (segmentSet true) other = other)
      (h : encode (segmentSet true) name = other) : name = other :=
    encode_injective (segmentSet_percent true) (h.trans hother.symm)
  constructor
  · -- a reader sees one or two dots only where the name is one or two dots
    unfold Step.ofText
    rw [plainDots_encode, if_neg fun h => hdot (hinj (by decide) h),
      if_neg fun h => hdots (hinj (by decide) h),
      encode_of_forall fun c hc => (mem_encode_segmentSet hc).1]
  · intro c hc
    obtain ⟨hset, hslash, hback⟩ := mem_encode_segmentSet hc
    refine ⟨hslash, hback, ?_, ?_⟩
    · rintro rfl
      exact absurd hset (by decide)
    · rintro rfl
      exact absurd hset (by decide)

theorem IsPlain.leadsDown {name : List Char} (h : IsPlain name) : LeadsDown name := by
  have hdown := leadsDown_encode h.1.1 h.1.2
  rwa [h.2.2] at hdown

/-- A name behind a constant leads down, whatever the name is. -/
theorem leadsDown_behind {constant : List Char} (hplain : IsPlain constant) (name : List Char) :
    ∀ segment ∈ (Naming.of name).behind constant, LeadsDown segment := by
  have hempty : LeadsDown [] := IsPlain.leadsDown (by decide)
  unfold Naming.of
  split
  · simpa using hplain.leadsDown
  · split
    · simpa [encode] using ⟨hplain.leadsDown, hempty⟩
    · split
      · simpa using hempty
      · rename_i hdot hdots
        simpa using ⟨hplain.leadsDown, leadsDown_encode hdot hdots⟩

end Url.Path

/-! ## Calls -/

namespace Call

/-- The text of the tree of a call, with a slash at its end. -/
def treeText : Call → String
  | .listPlanets => "/tb-ui/admin/rest/"
  | .deletePlanet _ => "/tb-ui/admin/rest/"
  | _ => "/tb-ui/authoring/rest/"

theorem text_treePath (call : Call) : text call.treePath ++ ['/'] = call.treeText.toList := by
  have hadmin : text (adminTree.map (·.toList)) ++ ['/'] = "/tb-ui/admin/rest/".toList := by
    decide
  have hauthoring : text (authoringTree.map (·.toList)) ++ ['/'] =
      "/tb-ui/authoring/rest/".toList := by
    decide
  cases call
  case listPlanets => exact hadmin
  case deletePlanet => exact hadmin
  all_goals exact hauthoring

/-- All segments of a call below its tree lead down. -/
theorem leadsDown_below (call : Call) : ∀ segment ∈ call.below, LeadsDown segment := by
  have hplanets : IsPlain "planets".toList := by decide
  have hweblog : IsPlain "weblog".toList := by decide
  have huser : IsPlain "user".toList := by decide
  have hconstants {constants : Url.Path} (h : ∀ c ∈ constants, IsPlain c) :
      ∀ c ∈ constants, LeadsDown c := fun c hc => (h c hc).leadsDown
  cases call with
  | listPlanets => exact hconstants (by decide)
  | deletePlanet id => exact leadsDown_behind hplanets id.toList
  | members weblog =>
    exact List.forall_mem_append.2
      ⟨leadsDown_behind hweblog weblog.toList, hconstants (by decide)⟩
  | potentialMembers weblog =>
    exact List.forall_mem_append.2
      ⟨leadsDown_behind hweblog weblog.toList, hconstants (by decide)⟩
  | updateMembers weblog roles =>
    exact List.forall_mem_append.2
      ⟨leadsDown_behind hweblog weblog.toList, hconstants (by decide)⟩
  | attachUser weblog user role =>
    refine List.forall_mem_append.2 ⟨List.forall_mem_append.2 ⟨?_, ?_⟩, ?_⟩
    · exact leadsDown_behind hweblog weblog.toList
    · exact leadsDown_behind huser user.toList
    · exact hconstants (by cases role <;> decide)
  | inviteUser weblog user role =>
    refine List.forall_mem_append.2 ⟨List.forall_mem_append.2 ⟨?_, ?_⟩, ?_⟩
    · exact leadsDown_behind hweblog weblog.toList
    · exact leadsDown_behind huser user.toList
    · exact hconstants (by cases role <;> decide)

theorem below_ne_nil (call : Call) : call.below ≠ [] := by
  cases call with
  | listPlanets => simp [below]
  | deletePlanet id => cases h : Naming.of id.toList <;> simp [below, h, Naming.behind]
  | members weblog => simp [below]
  | potentialMembers weblog => simp [below]
  | updateMembers weblog roles => simp [below]
  | attachUser weblog user role => simp [below]
  | inviteUser weblog user role => simp [below]

end Call

/-! ## Clients -/

namespace Client

/-- No segment of the base path of a client holds a slash. -/
theorem slashFree_base {idna : Idna} {text : String} {session : Option String} {client : Client}
    (h : Client.new idna text session = .ok client) : SlashFree client.base.path :=
  slashFree_of_parse (parse_of_new h)

/-- Whatever the ids are, a call has a URL with everything but the path from the base URL.  The
    path begins with what the base path contributes and with the tree of the call, and all that
    follows leads further down. -/
theorem url_contained {idna : Idna} {text : String} {session : Option String} {client : Client}
    (hnew : Client.new idna text session = .ok client) (hhttp : client.base.isHttp = true)
    (call : Call) :
    ∃ url, client.url call = .ok url ∧
      url.scheme = client.base.scheme ∧
      url.lead = client.base.lead ∧
      url.query = client.base.query ∧
      url.fragment = client.base.fragment ∧
      ∃ first rest, (∀ segment ∈ first :: rest, LeadsDown segment) ∧
        url.path.text =
          stemText client.base.path.text ++ call.treeText.toList ++
            (first ++ Url.Path.text rest) := by
  refine ⟨_, url_eq hhttp call, rfl, rfl, rfl, rfl, ?_⟩
  obtain ⟨first, rest, hbelow⟩ := List.exists_cons_of_ne_nil call.below_ne_nil
  -- the slash in front of the first segment is counted to the tree
  refine ⟨first, rest, hbelow ▸ call.leadsDown_below, ?_⟩
  have hstem := text_stem (slashFree_base hnew)
  rw [text_append, text_append, hstem, hbelow, text_cons, ← call.text_treePath]
  simp only [List.append_assoc, List.cons_append, List.nil_append]

/-- Two ids that step up once their tabs and line breaks are dropped stay below the tree. -/
theorem url_contained_of_dots :
    ∃ client, Client.new .asciiOnly "http://blog.example.com/tightblog/" none = .ok client ∧
      client.base.isHttp = true ∧
      ∃ url, client.url (.attachUser "..\t" ".\r\n." .owner) = .ok url ∧
      ∃ first rest, (∀ segment ∈ first :: rest, LeadsDown segment) ∧
        url.path.text =
          "/tightblog/tb-ui/authoring/rest/".toList ++ (first ++ Url.Path.text rest) := by
  let base : Url :=
    { scheme := "http".toList
      lead := .authority ⟨[], "blog.example.com".toList, none⟩
      path := ["tightblog".toList, []]
      query := none
      fragment := none }
  have hnew : Client.new .asciiOnly "http://blog.example.com/tightblog/" none =
      .ok ⟨base, none⟩ := rfl
  have hhttp : base.isHttp = true := by decide
  obtain ⟨url, hurl, -, -, -, -, hpath⟩ :=
    url_contained hnew hhttp (.attachUser "..\t" ".\r\n." .owner)
  exact ⟨⟨base, none⟩, hnew, hhttp, url, hurl, hpath⟩

end Client
end WeblogDesk
