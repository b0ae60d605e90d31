/-
  WeblogDesk.Proofs.Planets.Acceptance

  Which texts are lists of planets.

  `Planet.Describes` says what the entries of an object have to be: each field of a
  planet's own is there as often as it may be, with a value of its kind, and the
  other entries are free.  The fields that were read are exactly those that the
  object holds (`Draft.foldlM_take_eq_some_iff`), so an object makes a planet if and
  only if it describes one, and a text lists planets if and only if it is an array
  of such objects.  One object that does not fails the list, and a page that reads
  it stays as it was.
-/

import WeblogDesk.Proofs.Planets.Json
import WeblogDesk.Proofs.Planets.Runs
import WeblogDesk.Proofs.Endpoint.Results

namespace WeblogDesk

open Json

namespace Planet

/-! ## Objects -/

/-- Whether the entries of an object describe a planet.  Of the fields that no planet has of its
    own, any may be there, any number of times and with any value. -/
structure Describes (entries : List (String × Value)) : Prop where
  /-- Once, a text. -/
  id : ∃ t, given entries "id" = [("id", .string t)]
  /-- Once, a text. -/
  title : ∃ t, given entries "title" = [("title", .string t)]
  /-- Once at most, a text. -/
  handle : given entries "handle" = [] ∨ ∃ t, given entries "handle" = [("handle", .string t)]
  /-- Once at most, a text or null. -/
  description : given entries "description" = [] ∨
    given entries "description" = [("description", .null)] ∨
    ∃ t, given entries "description" = [("description", .string t)]

/-- What is there once at most, and last, is there once. -/
theorem concat_eq_toList_iff {α β : Type} {front : List β} {last : β} {o : Option α} {f : α → β} :
    front ++ [last] = (o.map f).toList ↔ front = [] ∧ ∃ a, o = some a ∧ last = f a := by
  cases o with
  | none => simp
  | some a => simp [List.append_eq_singleton_iff]

/-- Fields that an object holds are those of the object without its last entry, with this entry
    taken. -/
theorem Draft.Holds.exists_take {d' : Draft} {entries : List (String × Value)} {key : String}
    {v : Value} (h : d'.Holds (entries ++ [(key, v)])) :
    ∃ d : Draft, d.Holds entries ∧ d.take key v = some d' := by
  obtain ⟨id, handle, title, description, gathered⟩ := d'
  obtain ⟨hid, hhandle, htitle, hdescription, hothers⟩ := h
  simp only [given_concat, others_concat] at hid hhandle htitle hdescription hothers
  by_cases hkey : key ∈ ownFields
  · -- the entry is the one that is there for its field, so none was there before
    simp only [ownFields, List.mem_cons, List.not_mem_nil, or_false] at hkey
    rcases hkey with rfl | rfl | rfl | rfl
    · obtain ⟨hnone, t, rfl, hv⟩ := concat_eq_toList_iff.1 hid
      cases hv
      refine ⟨⟨none, handle, title, description, gathered⟩, ?_, rfl⟩
      constructor <;> simp_all [ownFields]
    · obtain ⟨hnone, t, rfl, hv⟩ := concat_eq_toList_iff.1 hhandle
      cases hv
      refine ⟨⟨id, none, title, description, gathered⟩, ?_, rfl⟩
      constructor <;> simp_all [ownFields]
    · obtain ⟨hnone, t, rfl, hv⟩ := concat_eq_toList_iff.1 htitle
      cases hv
      refine ⟨⟨id, handle, none, description, gathered⟩, ?_, rfl⟩
      constructor <;> simp_all [ownFields]
    · obtain ⟨hnone, o, rfl, hv⟩ := concat_eq_toList_iff.1 hdescription
      cases hv
      refine ⟨⟨id, handle, title, none, gathered⟩, ?_, by cases o <;> rfl⟩
      constructor <;> simp_all [ownFields]
  · have hgathered : gathered = (key, v) :: (Planet.others entries).reverse := by
      rw [← List.reverse_inj, ← hothers]
      simp [hkey]
    refine ⟨⟨id, handle, title, description, (Planet.others entries).reverse⟩, ?_, ?_⟩
    · simp only [ownFields, List.mem_cons, List.not_mem_nil, or_false, not_or] at hkey
      constructor <;> simp_all
    · rw [take_of_notMem hkey, hgathered]

/-- The fields that are read from an object are those that it holds, if it holds none twice. -/
theorem Draft.foldlM_take_eq_some_iff {d : Draft} {entries : List (String × Value)} :
    entries.foldlM (fun (d : Draft) e => d.take e.1 e.2) Draft.empty = some d ↔
      d.Holds entries := by
  refine ⟨Draft.holds_of_foldlM, fun h => ?_⟩
  induction entries using List.reverseRecOn generalizing d with
  | nil =>
    obtain ⟨id, handle, title, description, gathered⟩ := d
    obtain ⟨hid, hhandle, htitle, hdescription, hothers⟩ := h
    simp_all [given, Planet.others, Draft.empty]
  | append_singleton entries e ih =>
    obtain ⟨before, hbefore, htake⟩ := h.exists_take
    rw [List.foldlM_append, ih hbefore]
    simpa using htake

/-- An object makes a planet exactly if it describes one. -/
theorem exists_ofEntries?_iff {entries : List (String × Value)} :
    (∃ p, ofEntries? entries = some p) ↔ Describes entries := by
  constructor
  · rintro ⟨p, h⟩
    obtain ⟨d, hholds, hid, htitle, -, -, -⟩ := exists_draft h
    constructor
    case id => exact ⟨p.id, by rw [hholds.id, hid]; rfl⟩
    case title => exact ⟨p.title, by rw [hholds.title, htitle]; rfl⟩
    case handle =>
      rw [hholds.handle]
      cases d.handle <;> simp
    case description =>
      rw [hholds.description]
      rcases d.description with _ | _ | t <;> simp
  · rintro ⟨⟨id, hid⟩, ⟨title, htitle⟩, hhandle, hdescription⟩
    obtain ⟨handle, hhandle⟩ : ∃ o : Option String,
        given entries "handle" = (o.map fun t => ("handle", Value.string t)).toList := by
      rcases hhandle with hnone | ⟨t, ht⟩
      · exact ⟨none, hnone⟩
      · exact ⟨some t, ht⟩
    obtain ⟨description, hdescription⟩ : ∃ o : Option (Option String),
        given entries "description" =
          (o.map fun o => ("description", o.elim Value.null Value.string)).toList := by
      rcases hdescription with hnone | hnull | ⟨t, ht⟩
      · exact ⟨none, hnone⟩
      · exact ⟨some none, hnull⟩
      · exact ⟨some (some t), ht⟩
    have hholds : Draft.Holds ⟨some id, handle, some title, description, (others entries).reverse⟩
        entries :=
      ⟨hid, hhandle, htitle, hdescription, (List.reverse_reverse _).symm⟩
    refine ⟨_, Option.bind_eq_some_iff.2 ⟨_, Draft.foldlM_take_eq_some_iff.2 hholds, rfl⟩⟩

/-! ## Lists -/

theorem exists_mapM_iff {α β : Type} {f : α → Option β} {xs : List α} :
    (∃ ys, xs.mapM f = some ys) ↔ ∀ x ∈ xs, ∃ y, f x = some y := by
  simp only [mapM_eq_some_iff]
  induction xs with
  | nil => simp
  | cons x xs ih =>
    rw [List.forall_mem_cons, ← ih]
    constructor
    · rintro ⟨_, h⟩
      obtain ⟨y, ys, hy, hys, -⟩ := List.forall₂_cons_left_iff.1 h
      exact ⟨⟨y, hy⟩, ys, hys⟩
    · rintro ⟨⟨y, hy⟩, ys, hys⟩
      exact ⟨y :: ys, .cons hy hys⟩

/-- A text lists planets exactly if it is an array of objects that each describe one. -/
theorem exists_listOfJson_iff {text : String} :
    (∃ planets, listOfJson text = .ok planets) ↔
      ∃ items, Value.parse text = .ok (.array items) ∧
        ∀ v ∈ items, ∃ entries, v = .object entries ∧ Describes entries := by
  have hobject (v : Value) :
      (∃ p, ofValue? v = some p) ↔ ∃ entries, v = .object entries ∧ Describes entries := by
    cases v <;> simp [ofValue?, exists_ofEntries?_iff]
  simp only [listOfJson_eq_ok_iff, ← hobject, ← exists_mapM_iff]
  rw [exists_comm]
  simp only [exists_and_left]

end Planet

/-! ## Pages -/

namespace PlanetPage

open Http Conversation

variable {server : Server} {past : List Exchange} {page : PlanetPage}

theorem load_of_ok {planets : List Planet}
    (h : (run server past page.client.listPlanets).1 = .ok planets) :
    (run server past page.load).1 = ({ page with planets }, .ok planets.length) := by
  simp only [load, run_bind, h, run_pure]

theorem load_of_error {failure : Failure}
    (h : (run server past page.client.listPlanets).1 = .error failure) :
    (run server past page.load).1 = (page, .error failure) := by
  simp only [load, run_bind, h, run_pure]

/-- What a page makes of a success whose body is a text: the planets that the text lists, or
    nothing if it lists none. -/
theorem load_of_text (hhttp : page.client.base.isHttp = true) {status : Nat} {text : String}
    (hanswer : server past (page.client.request .listPlanets) =
      .reply ⟨status, text.toUTF8, true⟩)
    (hsuccess : isSuccess status = true) :
    (∀ planets, Planet.listOfJson text = .ok planets →
        (run server past page.load).1 = ({ page with planets }, .ok planets.length)) ∧
      ((∀ planets, Planet.listOfJson text ≠ .ok planets) →
        (run server past page.load).1 = (page, .error (.decode .body))) := by
  obtain ⟨-, hsettled⟩ := page.client.carryOut_settled server past hhttp .listPlanets
  rw [hanswer] at hsettled
  constructor
  · intro planets hread
    exact load_of_ok ((hsettled.ok planets).2 ⟨_, rfl, hsuccess, rfl, text, rfl, hread⟩)
  · intro hread
    refine load_of_error
      ((hsettled.decode .body).2 ⟨_, rfl, hsuccess, fun planets hsays => ?_, rfl⟩)
    -- bytes are those of one text only
    obtain ⟨-, other, hbytes, hother⟩ := hsays
    have htext := fromUTF8?_eq_some_iff.2 hbytes
    rw [fromUTF8?_toUTF8] at htext
    cases htext
    exact hread planets hother

/-- A text is read as a list of planets if and only if it is an array of objects that each describe
    one.  A single item that does not fails the list, whatever the others are; and a page that
    reads such a list says that the body is at fault, and keeps its table and its dialog. -/
theorem load_accepts :
    (∀ text, (∃ planets, Planet.listOfJson text = .ok planets) ↔
      ∃ items, Value.parse text = .ok (.array items) ∧
        ∀ v ∈ items, ∃ entries, v = .object entries ∧ Planet.Describes entries) ∧
    (∀ text items, Value.parse text = .ok (.array items) → ∀ v ∈ items,
      (∀ entries, v = .object entries → ¬Planet.Describes entries) →
        ∀ planets, Planet.listOfJson text ≠ .ok planets) ∧
    ∀ (server : Server) (past : List Exchange) (page : PlanetPage) (status : Nat) (text : String),
      page.client.base.isHttp = true →
      server past (page.client.request .listPlanets) = .reply ⟨status, text.toUTF8, true⟩ →
      isSuccess status = true →
        (∀ planets, Planet.listOfJson text = .ok planets →
          (run server past page.load).1 = ({ page with planets }, .ok planets.length)) ∧
        ((∀ planets, Planet.listOfJson text ≠ .ok planets) →
          (run server past page.load).1 = (page, .error (.decode .body))) := by
  refine ⟨fun text => Planet.exists_listOfJson_iff, ?_, ?_⟩
  · intro text items hparse v hv hbroken planets hread
    obtain ⟨others, hothers, hobjects⟩ := Planet.exists_listOfJson_iff.1 ⟨planets, hread⟩
    cases hparse.symm.trans hothers
    obtain ⟨entries, rfl, hdescribes⟩ := hobjects v hv
    exact hbroken entries rfl hdescribes
  · intro server past page status text hhttp hanswer hsuccess
    exact load_of_text hhttp hanswer hsuccess

/-- A list of two planets, of which the second has null for a handle. -/
def nullHandle : String :=
  "[\x7b\"title\":\"A\",\"n\":1,\"id\":\"1\",\"n\":2\x7d," ++
    "\x7b\"id\":\"2\",\"handle\":null,\"title\":\"B\"\x7d]"

/-- A handle that is null fails the list, and an open dialog stays open over the table. -/
theorem load_accepts_no_null_handle :
    let kept : Planet := ⟨"0", "", "Z", none, Dict.empty⟩
    let page : PlanetPage := ⟨Client.onLocalhost, [kept], ⟨Labels.default, "Z", some "0", true⟩⟩
    (∀ planets, Planet.listOfJson nullHandle ≠ .ok planets) ∧
      (run (fun _ _ => .reply ⟨200, nullHandle.toUTF8, true⟩) [] page.load).1 =
        (page, .error (.decode .body)) := by
  intro kept page
  let second : List (String × Value) :=
    [("id", .string "2"), ("handle", .null), ("title", .string "B")]
  have hparse : Value.parse nullHandle = .ok (.array
      [.object [("title", .string "A"), ("n", .number (.integer 1)), ("id", .string "1"),
        ("n", .number (.integer 2))], .object second]) := by rfl
  have hbroken : ∀ entries, Value.object second = .object entries → ¬Planet.Describes entries := by
    rintro _ ⟨⟩ ⟨-, -, hhandle, -⟩
    simp [second, Planet.given] at hhandle
  have hread := load_accepts.2.1 nullHandle _ hparse (.object second) (by simp) hbroken
  have hhttp : page.client.base.isHttp = true := by rfl
  exact ⟨hread, (load_accepts.2.2 _ [] page 200 nullHandle hhttp rfl rfl).2 hread⟩

end PlanetPage
end WeblogDesk
