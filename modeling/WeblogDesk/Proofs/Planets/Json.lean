/-
  WeblogDesk.Proofs.Planets.Json

  Planets as JSON objects.

  `Planet.ofValue?` takes a planet from a value that was read; the reader of planets
  does the same as it reads (`decodes_read`).  So what a planet keeps of its object
  is a fact about the entries of the object (`Planet.Restates`), and a planet that
  is written again is read as it was.
-/

import Mathlib.Data.List.DropRight
import WeblogDesk.Planet
import WeblogDesk.Proofs.Json.Normal

namespace WeblogDesk

open Json

/-! ## Values of fields -/

namespace Json

variable {room : Nat} {s rest : List Char}

/-- The text or the null that a value is, if it is either. -/
def Value.optional? : Value → Option (Option String)
  | .null => some none
  | v => v.text?.map some

theorem Value.optional?_eq_some_iff {v : Value} {o : Option String} :
    v.optional? = some o ↔ v = o.elim .null .string := by
  cases v <;> cases o <;> simp [optional?, text?]

theorem skipBlanks_skipBlanks (s : List Char) : skipBlanks (skipBlanks s) = skipBlanks s :=
  List.dropWhile_idempotent _ _

theorem readText_skipBlanks (s : List Char) : readText (skipBlanks s) = readText s := by
  rw [readText, skipBlanks_skipBlanks, readText]

end Json

namespace Planet

theorem decodes_readOptional (room : Nat) :
    Decodes readOptional (readValue room) Value.optional? := by
  intro s o rest
  simp only [Value.optional?_eq_some_iff, exists_eq_right]
  rw [readOptional]
  -- the reader tells null from a text by its first letter, the value by what was read
  constructor
  · intro h
    split at h
    · next tail hblanks =>
      obtain ⟨_, hread, hfound⟩ := map_eq_ok_iff.1 h
      cases hfound
      refine (readValue_eq_scalar_iff (v := .null) trivial).2 ?_
      rw [hblanks]
      exact readScalar_eq_null_iff.2 ⟨tail, rfl, hread⟩
    · obtain ⟨⟨t, left⟩, hread, hfound⟩ := map_eq_ok_iff.1 h
      cases hfound
      rw [readText_skipBlanks] at hread
      exact (readText_eq_ok_iff room).1 hread
  · intro h
    cases o with
    | none =>
      obtain ⟨tail, hblanks, hread⟩ :=
        readScalar_eq_null_iff.1 ((readValue_eq_scalar_iff (v := .null) trivial).1 h)
      rw [hblanks]
      exact map_eq_ok_iff.2 ⟨rest, hread, rfl⟩
    | some t =>
      obtain ⟨tail, hblanks, -⟩ :=
        readScalar_eq_string_iff.1 ((readValue_eq_scalar_iff (v := .string t) trivial).1 h)
      have hread := (readText_eq_ok_iff room).2 h
      rw [← readText_skipBlanks, hblanks] at hread
      rw [hblanks]
      exact map_eq_ok_iff.2 ⟨(t, rest), hread, rfl⟩

/-- The value of a field that may be there once, after an older one. -/
def takeOnce {α : Type} (old new : Option α) : Option (Option α) :=
  if old.isSome then none else new.map some

theorem map_takeOnce_eq_some_iff {α β : Type} {old new : Option α} {put : Option α → β} {b : β} :
    (takeOnce old new).map put = some b ↔ old = none ∧ ∃ a, new = some a ∧ put (some a) = b := by
  cases old <;> cases new <;> simp [takeOnce]

/-- The fields with one more, by its value. -/
def Draft.take (d : Draft) (key : String) (v : Value) : Option Draft :=
  if key == "id" then (takeOnce d.id v.text?).map fun id => { d with id }
  else if key == "handle" then (takeOnce d.handle v.text?).map fun handle => { d with handle }
  else if key == "title" then (takeOnce d.title v.text?).map fun title => { d with title }
  else if key == "description" then
    (takeOnce d.description v.optional?).map fun description => { d with description }
  else some { d with others := (key, v) :: d.others }

/-- The planet that the entries of an object make. -/
def ofEntries? (entries : List (String × Value)) : Option Planet :=
  (entries.foldlM (fun (d : Draft) e => d.take e.1 e.2) Draft.empty).bind fun d => d.finish.toOption

/-- The planet that a value is, if it is one. -/
def ofValue? : Value → Option Planet
  | .object entries => ofEntries? entries
  | _ => none

section Reading

variable {room : Nat} {s rest : List Char}

theorem readOnce_eq_ok_iff {α : Type} {field : String} {value : Reader α} {old new : Option α} :
    readOnce field value old s = .ok (new, rest) ↔
      old = none ∧ ∃ a, behindColon value s = .ok (a, rest) ∧ new = some a := by
  rw [readOnce, behindColon]
  cases old with
  | some a => simp [throw, throwThe, MonadExceptOf.throw, bind, Except.bind]
  | none =>
    cases readColon s with
    | error f => simp [bind, Except.bind]
    | ok tail =>
      cases hvalue : value tail with
      | error f => simp [bind, Except.bind, hvalue]
      | ok found =>
        obtain ⟨a, left⟩ := found
        simp [bind, Except.bind, hvalue, pure, Except.pure, eq_comm, and_comm]

/-- A field that may be there once is taken as its value is decoded. -/
theorem field_agree {α : Type} {field : String} {value : Reader α} {decode : Value → Option α}
    (hdecodes : Decodes value (readValue room) decode) (old : Option α) (put : Option α → Draft)
    {d : Draft} :
    (do
        let (v, s) ← readOnce field value old s
        return (put v, s) : Except Fault (Draft × List Char)) = .ok (d, rest) ↔
      ∃ v, behindColon (readValue room) s = .ok (v, rest) ∧
        (takeOnce old (decode v)).map put = some d := by
  rw [bind_put_eq_ok_iff]
  simp only [readOnce_eq_ok_iff, hdecodes.behindColon _ _ _, map_takeOnce_eq_some_iff]
  constructor
  · rintro ⟨_, ⟨hnone, a, ⟨v, hread, hdecode⟩, rfl⟩, hput⟩
    exact ⟨v, hread, hnone, a, hdecode, hput⟩
  · rintro ⟨v, hread, hnone, a, hdecode, hput⟩
    exact ⟨some a, ⟨hnone, a, ⟨v, hread, hdecode⟩, rfl⟩, hput⟩

theorem takesEntries_readField :
    TakesEntries Draft.readField (behindColon (readValue fieldDepth)) Draft.take := by
  intro d key s d' rest
  unfold Draft.readField Draft.take
  split
  · exact field_agree (decodes_readText fieldDepth) d.id fun id => { d with id }
  split
  · exact field_agree (decodes_readText fieldDepth) d.handle fun handle => { d with handle }
  split
  · exact field_agree (decodes_readText fieldDepth) d.title fun title => { d with title }
  split
  · exact field_agree (decodes_readOptional fieldDepth) d.description
      fun description => { d with description }
  · simp only [Option.some.injEq]
    rw [← bind_assoc]
    exact bind_put_eq_ok_iff fun v => { d with others := (key, v) :: d.others }

/-- A planet is read as it is taken from the value that is read in its place. -/
theorem decodes_read : Decodes Planet.read (readValue (fieldDepth + 1)) ofValue? := by
  intro s p rest
  constructor
  · intro h
    rw [Planet.read] at h
    split at h
    · next tail hblanks =>
      obtain ⟨⟨draft, left⟩, hentries, h⟩ := bind_eq_ok_iff.1 h
      obtain ⟨planet, hfinish, h⟩ := bind_eq_ok_iff.1 h
      cases h
      obtain ⟨entries, hread, hfold⟩ := (readEntries_agree takesEntries_readField).1 hentries
      refine ⟨.object entries, readValue_eq_object_iff.2 ⟨tail, hblanks, hread⟩, ?_⟩
      rw [ofValue?, ofEntries?, hfold, Option.bind_some, hfinish]
      rfl
    · cases h
  · rintro ⟨v, hread, hplanet⟩
    cases v with
    | object entries =>
      obtain ⟨tail, hblanks, hgather⟩ := readValue_eq_object_iff.1 hread
      obtain ⟨draft, hfold, hfinish⟩ := Option.bind_eq_some_iff.1 hplanet
      have hentries := (readEntries_agree takesEntries_readField).2 ⟨entries, hgather, hfold⟩
      rw [Planet.read, hblanks]
      refine bind_eq_ok_iff.2 ⟨(draft, rest), hentries, bind_eq_ok_iff.2 ⟨p, ?_, rfl⟩⟩
      cases hok : draft.finish with
      | error f =>
        rw [hok] at hfinish
        cases hfinish
      | ok planet =>
        rw [hok] at hfinish
        cases hfinish
        rfl
    | _ => cases hplanet

/-- The planets that a value lists, if it does. -/
def listOfValue? : Value → Option (List Planet)
  | .array items => items.mapM ofValue?
  | _ => none

theorem decodes_readList : Decodes readList (readValue (fieldDepth + 2)) listOfValue? := by
  intro s planets rest
  constructor
  · intro h
    rw [readList] at h
    split at h
    · next tail hblanks =>
      obtain ⟨items, hread, hmap⟩ := (readItems_agree decodes_read).1 h
      exact ⟨.array items, readValue_eq_array_iff.2 ⟨tail, hblanks, hread⟩, hmap⟩
    · cases h
  · rintro ⟨v, hread, hlist⟩
    cases v with
    | array items =>
      obtain ⟨tail, hblanks, hitems⟩ := readValue_eq_array_iff.1 hread
      rw [readList, hblanks]
      exact (readItems_agree decodes_read).2 ⟨items, hitems, hlist⟩
    | _ => cases hlist

/-- The planets of a text are those that its value lists. -/
theorem listOfJson_eq_ok_iff {text : String} {planets : List Planet} :
    listOfJson text = .ok planets ↔
      ∃ items, Value.parse text = .ok (.array items) ∧ items.mapM ofValue? = some planets := by
  refine (readWhole_agree decodes_readList).trans ⟨?_, ?_⟩
  · rintro ⟨v, hparse, hlist⟩
    cases v with
    | array items => exact ⟨items, hparse, hlist⟩
    | _ => cases hlist
  · rintro ⟨items, hparse, hlist⟩
    exact ⟨.array items, hparse, hlist⟩

end Reading

/-! ## What a planet keeps of its object -/

/-- The fields that a planet has of its own, in the order in which they are written. -/
def ownFields : List String := ["id", "handle", "title", "description"]

/-- What stands in an object for one field. -/
def given (entries : List (String × Value)) (field : String) : List (String × Value) :=
  entries.filter fun e => e.1 == field

/-- What stands in an object for the fields that a planet does not have of its own. -/
def others (entries : List (String × Value)) : List (String × Value) :=
  entries.filter fun e => !ownFields.contains e.1

/-- All that taking an entry can come to. -/
theorem Draft.take_cases {d d' : Draft} {key : String} {v : Value} (h : d.take key v = some d') :
    (∃ t, key = "id" ∧ v = .string t ∧ d.id = none ∧ d' = { d with id := some t }) ∨
      (∃ t, key = "handle" ∧ v = .string t ∧ d.handle = none ∧ d' = { d with handle := some t }) ∨
      (∃ t, key = "title" ∧ v = .string t ∧ d.title = none ∧ d' = { d with title := some t }) ∨
      (∃ o, key = "description" ∧ v = o.elim .null .string ∧ d.description = none ∧
        d' = { d with description := some o }) ∨
      (key ∉ ownFields ∧ d' = { d with others := (key, v) :: d.others }) := by
  unfold Draft.take at h
  split at h
  · next hkey =>
    obtain ⟨hnone, t, hv, rfl⟩ := map_takeOnce_eq_some_iff.1 h
    exact .inl ⟨t, beq_iff_eq.1 hkey, Value.text?_eq_some_iff.1 hv, hnone, rfl⟩
  split at h
  · next hkey =>
    obtain ⟨hnone, t, hv, rfl⟩ := map_takeOnce_eq_some_iff.1 h
    exact .inr (.inl ⟨t, beq_iff_eq.1 hkey, Value.text?_eq_some_iff.1 hv, hnone, rfl⟩)
  split at h
  · next hkey =>
    obtain ⟨hnone, t, hv, rfl⟩ := map_takeOnce_eq_some_iff.1 h
    exact .inr (.inr (.inl ⟨t, beq_iff_eq.1 hkey, Value.text?_eq_some_iff.1 hv, hnone, rfl⟩))
  split at h
  · next hkey =>
    obtain ⟨hnone, o, hv, rfl⟩ := map_takeOnce_eq_some_iff.1 h
    exact .inr (.inr (.inr (.inl
      ⟨o, beq_iff_eq.1 hkey, Value.optional?_eq_some_iff.1 hv, hnone, rfl⟩)))
  · next hid hhandle htitle hdescription =>
    simp only [beq_iff_eq] at hid hhandle htitle hdescription
    refine .inr (.inr (.inr (.inr ⟨?_, (Option.some.inj h).symm⟩)))
    simp [ownFields, hid, hhandle, htitle, hdescription]

/-- Whether fields were read from the entries of an object. -/
structure Draft.Holds (d : Draft) (entries : List (String × Value)) : Prop where
  id : given entries "id" = (d.id.map fun t => ("id", Value.string t)).toList
  handle : given entries "handle" = (d.handle.map fun t => ("handle", Value.string t)).toList
  title : given entries "title" = (d.title.map fun t => ("title", Value.string t)).toList
  description : given entries "description" =
    (d.description.map fun o => ("description", o.elim Value.null Value.string)).toList
  others : Planet.others entries = d.others.reverse

theorem given_concat (entries : List (String × Value)) (e : String × Value) (field : String) :
    given (entries ++ [e]) field = given entries field ++ if e.1 == field then [e] else [] := by
  rw [given, List.filter_append, List.filter_singleton]
  cases e.1 == field <;> rfl

theorem others_concat (entries : List (String × Value)) (e : String × Value) :
    others (entries ++ [e]) =
      others entries ++ if ownFields.contains e.1 then [] else [e] := by
  rw [others, List.filter_append, List.filter_singleton]
  cases ownFields.contains e.1 <;> rfl

/-- One more entry is taken. -/
theorem Draft.Holds.take {d d' : Draft} {entries : List (String × Value)} {key : String} {v : Value}
    (h : d.Holds entries) (htake : d.take key v = some d') : d'.Holds (entries ++ [(key, v)]) := by
  rcases Draft.take_cases htake with ⟨t, rfl, rfl, hnone, rfl⟩ | ⟨t, rfl, rfl, hnone, rfl⟩ |
    ⟨t, rfl, rfl, hnone, rfl⟩ | ⟨o, rfl, rfl, hnone, rfl⟩ | ⟨hother, rfl⟩
  case inr.inr.inr.inr =>
    simp only [ownFields, List.mem_cons, List.not_mem_nil, or_false, not_or] at hother
    constructor <;> simp [given_concat, others_concat, ownFields, h.id, h.handle, h.title,
      h.description, h.others, hother]
  -- a field of its own was not there before, so it is there once now
  all_goals
    constructor <;> simp [given_concat, others_concat, ownFields, h.id, h.handle, h.title,
      h.description, h.others, hnone]

/-- Fields that were read are those of the object. -/
theorem Draft.holds_of_foldlM {d : Draft} {entries : List (String × Value)}
    (h : entries.foldlM (fun (d : Draft) e => d.take e.1 e.2) Draft.empty = some d) :
    d.Holds entries := by
  induction entries using List.reverseRecOn generalizing d with
  | nil =>
    cases h
    constructor <;> rfl
  | append_singleton entries e ih =>
    rw [List.foldlM_append] at h
    obtain ⟨mid, hmid, hlast⟩ := Option.bind_eq_some_iff.1 h
    obtain ⟨_, htake, hd⟩ := Option.bind_eq_some_iff.1 hlast
    cases hd
    exact (ih hmid).take htake

/-- What is written for a field of its own, by what the object gives for it. -/
def restated (entries : List (String × Value)) (field : String) : List (String × Value) :=
  match given entries field with
  | [] => if field = "handle" then [(field, .string "")] else []
  | [(_, .null)] => []
  | fields => fields

/-- Whether a planet is written as the object it came from: first the fields of its own, which the
    object has once at most, with an empty handle if there is none and without a description if
    there is none or null; then all other fields, tidied. -/
structure Restates (entries : List (String × Value)) (p : Planet) : Prop where
  once : ∀ field ∈ ownFields, (given entries field).length ≤ 1
  written : p.toJson = .object (ownFields.flatMap (restated entries) ++ p.extra.entries)
  own : ∀ field ∈ ownFields, p.extra.contains field = false
  extra : Value.Tidies (.object (others entries)) (.object p.extra.entries)

theorem finish_eq_some_iff {d : Draft} {p : Planet} :
    d.finish.toOption = some p ↔
      d.id = some p.id ∧ d.title = some p.title ∧ p.handle = d.handle.getD "" ∧
        p.description = d.description.join ∧
        p.extra = Dict.ofEntries (Value.normalizeEntries d.others.reverse) := by
  obtain ⟨id, handle, title, description, extra⟩ := p
  rw [Draft.finish]
  cases d.id with
  | none => simp [Except.toOption]
  | some t =>
    cases d.title with
    | none => simp [Except.toOption]
    | some u =>
      simp only [Except.toOption, Option.some.injEq, Planet.mk.injEq, eq_comm]
      tauto

variable {entries : List (String × Value)} {p : Planet}

/-- The planet that the entries of an object make. -/
theorem exists_draft (h : ofEntries? entries = some p) :
    ∃ d : Draft, d.Holds entries ∧ d.id = some p.id ∧ d.title = some p.title ∧
      p.handle = d.handle.getD "" ∧ p.description = d.description.join ∧
      p.extra = Dict.ofEntries (Value.normalizeEntries (others entries)) := by
  obtain ⟨d, hfold, hfinish⟩ := Option.bind_eq_some_iff.1 h
  have hholds := Draft.holds_of_foldlM hfold
  obtain ⟨hid, htitle, hhandle, hdescription, hextra⟩ := finish_eq_some_iff.1 hfinish
  rw [← hholds.others] at hextra
  exact ⟨d, hholds, hid, htitle, hhandle, hdescription, hextra⟩

theorem notMem_ownFields {key : String} {v : Value} (h : (key, v) ∈ others entries) :
    key ∉ ownFields := by
  simpa using (List.mem_filter.1 h).2

/-- What a planet keeps does not have the fields that it has of its own. -/
theorem notMem_ownFields_extra (h : ofEntries? entries = some p) {e : String × Value}
    (he : e ∈ p.extra.entries) : e.1 ∉ ownFields := by
  obtain ⟨d, -, -, -, -, -, hextra⟩ := exists_draft h
  rw [hextra] at he
  obtain ⟨v, hv, -⟩ := Value.exists_of_mem_ofEntries he
  exact notMem_ownFields hv

theorem restates_of_ofEntries? (h : ofEntries? entries = some p) : Restates entries p := by
  obtain ⟨d, hholds, hid, htitle, hhandle, hdescription, hextra⟩ := exists_draft h
  constructor
  case once =>
    simp only [ownFields, List.forall_mem_cons]
    rw [hholds.id, hholds.handle, hholds.title, hholds.description]
    refine ⟨?_, ?_, ?_, ?_, List.forall_mem_nil _⟩ <;>
      simp [Option.length_toList_le]
  case own =>
    intro field hfield
    cases hcontains : p.extra.contains field with
    | false => rfl
    | true =>
      obtain ⟨v, hv⟩ := Option.isSome_iff_exists.1 hcontains
      exact absurd hfield (notMem_ownFields_extra h (Dict.find?_eq_some_iff.1 hv))
  case extra =>
    rw [hextra]
    exact Value.tidies_normalize (.object (others entries))
  case written =>
    -- each field of its own is written from what was held for it
    have hwritten : restated entries "id" = [("id", .string p.id)] ∧
        restated entries "handle" = [("handle", .string p.handle)] ∧
        restated entries "title" = [("title", .string p.title)] ∧
        restated entries "description" =
          (p.description.map fun t => ("description", Value.string t)).toList := by
      refine ⟨?_, ?_, ?_, ?_⟩
      · rw [restated, hholds.id, hid]
        rfl
      · rw [restated, hholds.handle, hhandle]
        cases d.handle <;> rfl
      · rw [restated, hholds.title, htitle]
        rfl
      · rw [restated, hholds.description, hdescription]
        rcases d.description with _ | _ | t <;> rfl
    obtain ⟨hid, hhandle, htitle, hdescription⟩ := hwritten
    simp [toJson, ownFields, hid, hhandle, htitle, hdescription]

/-! ## Planets that are written -/

theorem take_of_notMem {key : String} (h : key ∉ ownFields) (d : Draft) (v : Value) :
    d.take key v = some { d with others := (key, v) :: d.others } := by
  simp only [ownFields, List.mem_cons, List.not_mem_nil, or_false, not_or] at h
  simp [Draft.take, h]

/-- Fields that no planet has of its own are all kept. -/
theorem foldlM_take_of_notMem {entries : List (String × Value)} (h : ∀ e ∈ entries, e.1 ∉ ownFields)
    (d : Draft) :
    entries.foldlM (fun (d : Draft) e => d.take e.1 e.2) d =
      some { d with others := entries.reverse ++ d.others } := by
  induction entries generalizing d with
  | nil => rfl
  | cons e rest ih =>
    obtain ⟨he, hrest⟩ := List.forall_mem_cons.1 h
    rw [List.foldlM_cons, take_of_notMem he]
    refine (ih hrest _).trans ?_
    simp

/-- A planet is taken back from what is written for it. -/
theorem ofValue?_toJson (h : ofEntries? entries = some p) : ofValue? p.toJson = some p := by
  have hothers : ∀ e ∈ p.extra.entries, e.1 ∉ ownFields := fun e he => notMem_ownFields_extra h he
  -- what a planet keeps is in its normal form already
  have hextra : Dict.ofEntries (Value.normalizeEntries p.extra.entries) = p.extra := by
    obtain ⟨d, -, -, -, -, -, hextra⟩ := exists_draft h
    have hnormal : ∀ e ∈ p.extra.entries, e.2.normalize = e.2 := by
      intro e he
      rw [hextra] at he
      obtain ⟨v, -, hv⟩ := Value.exists_of_mem_ofEntries he
      rw [hv, Value.normalize_normalize]
    rw [Value.normalizeEntries_eq_self hnormal, Dict.ofEntries_entries]
  have hown : ([("id", Value.string p.id), ("handle", .string p.handle),
      ("title", .string p.title)] ++
      (p.description.map fun t => ("description", Value.string t)).toList).foldlM
        (fun (d : Draft) e => d.take e.1 e.2) Draft.empty =
      some ⟨some p.id, some p.handle, some p.title, p.description.map some, []⟩ := by
    cases p.description <;> rfl
  rw [toJson, ofValue?, ofEntries?, List.foldlM_append, hown, Option.bind_eq_bind,
    Option.bind_some, foldlM_take_of_notMem hothers, Option.bind_some, finish_eq_some_iff]
  refine ⟨rfl, rfl, rfl, ?_, ?_⟩
  · cases p.description <;> rfl
  · rw [List.append_nil, List.reverse_reverse, hextra]

/-- What is written for a planet is within the bounds of the object it came from. -/
theorem within_toJson {P : Number → Prop} {room : Nat} (h : ofEntries? entries = some p)
    (hwithin : (Value.object entries).Within P (room + 1)) : p.toJson.Within P (room + 1) := by
  obtain ⟨d, -, -, -, -, -, hextra⟩ := exists_draft h
  cases hwithin with
  | object hentries =>
    rw [toJson]
    refine .object fun e he => ?_
    rcases List.mem_append.1 he with hown | he
    · -- the fields of its own are texts
      have htext : ∃ t, e.2 = .string t := by
        cases hdescription : p.description <;> simp [hdescription] at hown <;>
          rcases hown with rfl | rfl | rfl | rfl <;> exact ⟨_, rfl⟩
      obtain ⟨t, ht⟩ := htext
      rw [ht]
      exact .string t
    · rw [hextra] at he
      obtain ⟨v, hv, hvalue⟩ := Value.exists_of_mem_ofEntries he
      rw [hvalue]
      exact Value.within_normalize (hentries _ (List.mem_of_mem_filter hv))

/-! ## Lists -/

theorem mapM_eq_some_iff {α β : Type} {f : α → Option β} {xs : List α} {ys : List β} :
    xs.mapM f = some ys ↔ List.Forall₂ (fun x y => f x = some y) xs ys := by
  induction xs generalizing ys with
  | nil =>
    rw [List.forall₂_nil_left_iff]
    exact ⟨fun h => (Option.some.inj h).symm, fun h => by rw [h]; rfl⟩
  | cons x xs ih =>
    simp only [List.mapM_cons, Option.bind_eq_bind, Option.bind_eq_some_iff, Option.pure_def,
      Option.some.injEq, ih, List.forall₂_cons_left_iff]
    constructor
    · rintro ⟨y, hy, tail, htail, rfl⟩
      exact ⟨y, tail, hy, htail, rfl⟩
    · rintro ⟨y, tail, hy, htail, rfl⟩
      exact ⟨y, hy, tail, htail, rfl⟩

/-- Only objects are planets. -/
theorem exists_objects {items : List Value} {planets : List Planet}
    (h : List.Forall₂ (fun v p => ofValue? v = some p) items planets) :
    ∃ objects : List (List (String × Value)), items = objects.map .object ∧
      List.Forall₂ (fun entries p => ofEntries? entries = some p) objects planets := by
  induction h with
  | nil => exact ⟨[], rfl, .nil⟩
  | @cons v p items planets hv _ ih =>
    obtain ⟨objects, rfl, hobjects⟩ := ih
    cases v with
    | object entries => exact ⟨entries :: objects, rfl, .cons hv hobjects⟩
    | _ => cases hv

/-- Planets are taken back, each from what is written for it. -/
theorem forall_ofValue?_toJson {objects : List (List (String × Value))} {planets : List Planet}
    (h : List.Forall₂ (fun entries p => ofEntries? entries = some p) objects planets) :
    ∀ p ∈ planets, ofValue? p.toJson = some p := by
  induction h with
  | nil => exact List.forall_mem_nil _
  | cons hp _ ih => exact List.forall_mem_cons.2 ⟨ofValue?_toJson hp, ih⟩

/-- What is written for planets is within the bounds of the objects they came from. -/
theorem forall_within_toJson {P : Number → Prop} {room : Nat}
    {objects : List (List (String × Value))} {planets : List Planet}
    (h : List.Forall₂ (fun entries p => ofEntries? entries = some p) objects planets)
    (hwithin : ∀ entries ∈ objects, (Value.object entries).Within P (room + 1)) :
    ∀ v ∈ planets.map toJson, v.Within P (room + 1) := by
  induction h with
  | nil => exact List.forall_mem_nil _
  | cons hp _ ih =>
    obtain ⟨hfirst, hrest⟩ := List.forall_mem_cons.1 hwithin
    exact List.forall_mem_cons.2 ⟨within_toJson hp hfirst, ih hrest⟩

/-- A text of planets is a list of objects, and each planet is written as the object it came from,
    tidied.  If all numbers of the text are integers of 64 bits (`readNumber_eq_integer_iff` says
    which texts are), planets that are written are read as they were, all in one list and each on
    its own. -/
theorem listOfJson_restates {text : String} {planets : List Planet}
    (h : listOfJson text = .ok planets) :
    ∃ objects : List (List (String × Value)),
      Value.parse text = .ok (.array (objects.map .object)) ∧
      List.Forall₂ Restates objects planets ∧
      ((∀ n ∈ (Value.array (objects.map .object)).numbers, ∃ i, n = .integer i) →
        listOfJson (Value.array (planets.map toJson)).compact = .ok planets ∧
          ∀ p ∈ planets, readWhole read p.toJson.compact = .ok p) := by
  obtain ⟨items, hparse, hmap⟩ := listOfJson_eq_ok_iff.1 h
  obtain ⟨objects, rfl, hobjects⟩ := exists_objects (mapM_eq_some_iff.1 hmap)
  refine ⟨objects, hparse, hobjects.imp fun _ _ => restates_of_ofEntries?, fun hnumbers => ?_⟩
  -- all that was read is within its room, and so is all that is written
  obtain ⟨rest, hread, -⟩ := readWhole_eq_ok_iff.1 hparse
  have hwhole : (Value.array (objects.map .object)).Within Number.IsWhole (fieldDepth + 2) := by
    refine (within_of_readValue hread).imp fun n hn hrange => ?_
    obtain ⟨i, rfl⟩ := hnumbers n hn
    exact ⟨i, rfl, hrange i rfl⟩
  cases hwhole with
  | array hitems =>
    have hwritten : ∀ v ∈ planets.map toJson, v.Within Number.IsWhole (fieldDepth + 1) :=
      forall_within_toJson hobjects (List.forall_mem_map.1 hitems)
    have hback := forall_ofValue?_toJson hobjects
    refine ⟨listOfJson_eq_ok_iff.2 ⟨_, readWhole_compact_of_within (.array hwritten), ?_⟩,
      fun p hp => (readWhole_agree decodes_read).2 ⟨p.toJson, ?_, hback p hp⟩⟩
    · exact mapM_eq_some_iff.2 (List.forall₂_map_left_iff.2 (List.forall₂_same.2 hback))
    · exact readWhole_compact_of_within (hwritten _ (List.mem_map_of_mem hp))

/-- A text of one planet, without a handle and with a null for its description, in which two fields
    are there twice. -/
def repeatedFields : String :=
  "[\x7b\"n\":1,\"title\":\"T\",\"id\":\"1\",\"description\":null," ++
    "\"m\":\x7b\"b\":-2,\"a\":[true],\"b\":3\x7d,\"n\":2\x7d]"

/-- What is written for this planet. -/
def lastFields : String :=
  "\x7b\"id\":\"1\",\"handle\":\"\",\"title\":\"T\"," ++
    "\"m\":\x7b\"a\":[true],\"b\":3\x7d,\"n\":2\x7d"

/-- Of fields that are there twice the last one is written, behind the fields of its own. -/
theorem listOfJson_restates_repeated :
    ∃ p, listOfJson repeatedFields = .ok [p] ∧ p.toJson.compact = lastFields ∧
      readWhole read lastFields = .ok p := by
  have hwritten : (listOfJson repeatedFields).toOption.map (·.map (·.toJson.compact)) =
      some [lastFields] := by
    decide +kernel
  have hnumbers : (Value.parse repeatedFields).toOption.map Value.numbers =
      some [.integer 1, .integer (-2), .integer 3, .integer 2] := by
    decide +kernel
  cases h : listOfJson repeatedFields with
  | error f =>
    rw [h] at hwritten
    cases hwritten
  | ok planets =>
    obtain ⟨objects, hparse, -, hback⟩ := listOfJson_restates h
    rw [h] at hwritten
    rw [hparse] at hnumbers
    obtain ⟨p, rfl, hp⟩ := List.map_eq_singleton_iff.1 (Option.some.inj hwritten)
    have hread := (hback ?_).2 p List.mem_cons_self
    · rw [hp] at hread
      exact ⟨p, rfl, hp, hread⟩
    · rw [Option.some.inj hnumbers]
      simp

end Planet
end WeblogDesk
