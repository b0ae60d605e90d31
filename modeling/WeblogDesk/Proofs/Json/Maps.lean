/-
  WeblogDesk.Proofs.Json.Maps

  Maps of members, told from the objects that write them.

  `Value.Names` says which values are a role: its wire name, or an object with that
  name as its one key and `null` behind it.  The reader of a map takes the entries of
  an object one by one (`decodes_readDict`), so it fails at the first value that is
  none, and otherwise each key keeps its last value (`dictOfValue?_object_eq_some_iff`).
  With that `RoleMap.ofJson` is a fact about the value of the text alone.
-/

import WeblogDesk.Client
import WeblogDesk.Proofs.Json.Roles
import WeblogDesk.Proofs.Json.Values

namespace WeblogDesk

open Json

variable {room : Nat} {s rest : List Char}

/-! ## Roles as values -/

/-- Whether a value is a role: its wire name, or an object that takes the name to `null`. -/
def Json.Value.Names (v : Value) (role : Role) : Prop :=
  v = .string role.wireName ∨ v = .object [(role.wireName, .null)]

/-- The role that a value is, if it is one. -/
def Role.ofValue? : Value → Option Role
  | .string name => Role.ofWireName? name
  | .object [(name, .null)] => Role.ofWireName? name
  | _ => none

namespace Role

theorem ofValue?_eq_some_iff {v : Value} {role : Role} :
    ofValue? v = some role ↔ v.Names role := by
  unfold ofValue? Value.Names
  split
  · next name => simp [ofWireName?_eq_some_iff]
  · next name => simp [ofWireName?_eq_some_iff]
  · next hstring hobject =>
    refine iff_of_false nofun ?_
    rintro (rfl | rfl)
    · exact hstring _ rfl
    · exact hobject _ rfl

theorem ofJsonName_eq_ok_iff {name : String} {role : Role} :
    ofJsonName name = .ok role ↔ name = role.wireName := by
  rw [← ofWireName?_eq_some_iff, ofJsonName]
  cases ofWireName? name <;> simp

/-- What has to be `null` is read as the value is. -/
theorem readUnit_eq_ok_iff (room : Nat) :
    Role.readUnit s = .ok rest ↔ readValue room s = .ok (.null, rest) := by
  rw [readValue_eq_scalar_iff (v := .null) trivial, readScalar_eq_null_iff, Role.readUnit]
  generalize skipBlanks s = u
  constructor
  · intro h
    split at h
    · next tail => exact ⟨tail, rfl, h⟩
    · cases h
  · rintro ⟨tail, rfl, hread⟩
    exact hread

/-- The inside of a role that is written as an object is its one entry. -/
theorem readTagged_eq_ok_iff (room : Nat) {role : Role} :
    readTagged s = .ok (role, rest) ↔
      readEntries (gatherEntry (behindColon (readValue room))) [] s =
        .ok ([(role.wireName, .null)], rest) := by
  rw [readEntries_gather_singleton_iff, readTagged]
  simp only [behindColon_eq_ok_iff, ← readUnit_eq_ok_iff]
  constructor
  · intro h
    split at h
    · next text hblanks =>
      obtain ⟨⟨name, tail⟩, hkey, h⟩ := bind_eq_ok_iff.1 h
      obtain ⟨found, hname, h⟩ := bind_eq_ok_iff.1 h
      obtain ⟨behind, hcolon, h⟩ := bind_eq_ok_iff.1 h
      obtain ⟨left, hunit, h⟩ := bind_eq_ok_iff.1 h
      split at h
      · cases h
      · next hclose =>
        cases h
        rw [ofJsonName_eq_ok_iff] at hname
        exact ⟨text, tail, left, hblanks, hname ▸ hkey, ⟨behind, hcolon, hunit⟩, hclose⟩
      · cases h
    · cases h
  · rintro ⟨text, tail, left, hblanks, hkey, ⟨behind, hcolon, hunit⟩, hclose⟩
    rw [hblanks]
    refine bind_eq_ok_iff.2 ⟨_, hkey, bind_eq_ok_iff.2 ⟨role, ofJsonName_eq_ok_iff.2 rfl, ?_⟩⟩
    refine bind_eq_ok_iff.2 ⟨behind, hcolon, bind_eq_ok_iff.2 ⟨left, hunit, ?_⟩⟩
    rw [hclose]
    rfl

/-- A role is read from a name in quotes, or from the inside of an object. -/
theorem read_eq_ok_iff {role : Role} :
    Role.read s = .ok (role, rest) ↔
      (∃ tail, skipBlanks s = '"' :: tail ∧ readString tail = .ok (role.wireName, rest)) ∨
        ∃ tail, skipBlanks s = '\x7b' :: tail ∧ readTagged tail = .ok (role, rest) := by
  rw [Role.read]
  generalize skipBlanks s = u
  constructor
  · intro h
    split at h
    · cases h
    · next tail =>
      obtain ⟨⟨name, left⟩, hkey, h⟩ := bind_eq_ok_iff.1 h
      obtain ⟨found, hname, h⟩ := bind_eq_ok_iff.1 h
      cases h
      rw [ofJsonName_eq_ok_iff] at hname
      exact .inl ⟨tail, rfl, hname ▸ hkey⟩
    · next tail => exact .inr ⟨tail, rfl, h⟩
    · cases h
  · rintro (⟨tail, rfl, hkey⟩ | ⟨tail, rfl, hread⟩)
    · exact bind_eq_ok_iff.2 ⟨_, hkey, bind_eq_ok_iff.2 ⟨role, ofJsonName_eq_ok_iff.2 rfl, rfl⟩⟩
    · exact hread

/-- A role is read as the value is that is read in its place. -/
theorem decodes_read (room : Nat) : Decodes Role.read (readValue (room + 1)) ofValue? := by
  intro s role rest
  have hstring : readValue (room + 1) s = .ok (.string role.wireName, rest) ↔
      ∃ tail, skipBlanks s = '"' :: tail ∧ readString tail = .ok (role.wireName, rest) :=
    (readValue_eq_scalar_iff (v := .string role.wireName) trivial).trans readScalar_eq_string_iff
  have hobject : readValue (room + 1) s = .ok (.object [(role.wireName, .null)], rest) ↔
      ∃ tail, skipBlanks s = '\x7b' :: tail ∧ readTagged tail = .ok (role, rest) := by
    simp only [readValue_eq_object_iff, readTagged_eq_ok_iff room, List.reverse_singleton]
  rw [read_eq_ok_iff, ← hstring, ← hobject]
  simp only [ofValue?_eq_some_iff, Value.Names, and_or_left, exists_or, exists_eq_right]

end Role

/-! ## Maps as objects -/

section Maps

variable {α : Type} {item : Reader α} {decode : Value → Option α}

/-- A map with one more entry, if its value is right. -/
def takeMember (decode : Value → Option α) (d : Dict α) (key : String) (v : Value) :
    Option (Dict α) :=
  (decode v).map (d.insert key)

/-- The map that a value writes, if it is an object whose values are right. -/
def dictOfValue? (decode : Value → Option α) : Value → Option (Dict α)
  | .object entries => entries.foldlM (fun d e => takeMember decode d e.1 e.2) Dict.empty
  | _ => none

theorem takesEntries_readMember (h : Decodes item (readValue room) decode) :
    TakesEntries (readMember item) (behindColon (readValue room)) (takeMember decode) := by
  intro d key s d' rest
  have hmember : readMember item d key s = .ok (d', rest) ↔
      ∃ a, behindColon item s = .ok (a, rest) ∧ d.insert key a = d' := by
    rw [readMember, ← bind_assoc]
    exact bind_put_eq_ok_iff (d.insert key)
  simp only [hmember, h.behindColon _ _ _, takeMember, Option.map_eq_some_iff]
  constructor
  · rintro ⟨a, ⟨v, hread, hdecode⟩, hinsert⟩
    exact ⟨v, hread, a, hdecode, hinsert⟩
  · rintro ⟨v, hread, a, hdecode, hinsert⟩
    exact ⟨a, ⟨v, hread, hdecode⟩, hinsert⟩

/-- A map is read as it is taken from the value that is read in its place. -/
theorem decodes_readDict (h : Decodes item (readValue room) decode) :
    Decodes (readDict item) (readValue (room + 1)) (dictOfValue? decode) := by
  intro s d rest
  have htakes := takesEntries_readMember h
  rw [readDict]
  constructor
  · intro hread
    split at hread
    · next tail hblanks =>
      obtain ⟨entries, hgather, hfold⟩ := (readEntries_agree htakes).1 hread
      exact ⟨.object entries, readValue_eq_object_iff.2 ⟨tail, hblanks, hgather⟩, hfold⟩
    · cases hread
  · rintro ⟨v, hread, hdict⟩
    cases v with
    | object entries =>
      obtain ⟨tail, hblanks, hgather⟩ := readValue_eq_object_iff.1 hread
      rw [hblanks]
      exact (readEntries_agree htakes).2 ⟨entries, hgather, hdict⟩
    | _ => cases hdict

/-- A map that was taken has every value right, and takes each key to its last value. -/
theorem of_foldlM_takeMember {entries : List (String × Value)} {d d' : Dict α}
    (h : entries.foldlM (fun d e => takeMember decode d e.1 e.2) d = some d') :
    (∀ e ∈ entries, ∃ a, decode e.2 = some a) ∧
      ∀ key, d'.find? key =
        ((Dict.lookup key entries.reverse).bind decode).or (d.find? key) := by
  -- from the last entry, which replaces what those before it gave its key
  induction entries using List.reverseRecOn generalizing d' with
  | nil =>
    cases h
    exact ⟨List.forall_mem_nil _, fun key => rfl⟩
  | append_singleton entries e ih =>
    rw [List.foldlM_append, Option.bind_eq_bind, Option.bind_eq_some_iff] at h
    obtain ⟨before, hbefore, hlast⟩ := h
    simp only [List.foldlM_cons, List.foldlM_nil, bind_pure, takeMember,
      Option.map_eq_some_iff] at hlast
    obtain ⟨a, hdecode, rfl⟩ := hlast
    obtain ⟨hvalues, hfind⟩ := ih hbefore
    refine ⟨List.forall_mem_append.2 ⟨hvalues, ?_⟩, fun key => ?_⟩
    · exact List.forall_mem_singleton.2 ⟨a, hdecode⟩
    · -- the last entry is the first that is found from the end
      obtain ⟨k, v⟩ := e
      rw [Dict.find?_insert, List.reverse_concat, Dict.lookup, hfind]
      split
      · rw [Option.bind_some, hdecode, Option.some_or]
      · rfl

/-- Entries whose values are right make a map. -/
theorem exists_foldlM_takeMember {entries : List (String × Value)}
    (h : ∀ e ∈ entries, ∃ a, decode e.2 = some a) (d : Dict α) :
    ∃ d', entries.foldlM (fun d e => takeMember decode d e.1 e.2) d = some d' := by
  induction entries generalizing d with
  | nil => exact ⟨d, rfl⟩
  | cons e rest ih =>
    obtain ⟨⟨a, hdecode⟩, hrest⟩ := List.forall_mem_cons.1 h
    obtain ⟨d', hd'⟩ := ih hrest (d.insert e.1 a)
    refine ⟨d', ?_⟩
    rw [List.foldlM_cons, takeMember, hdecode]
    exact hd'

/-- What a value is taken to: an object whose values are all right, repeated keys included, gives
    the map that takes each key to its last value. -/
theorem dictOfValue?_object_eq_some_iff {entries : List (String × Value)} {d : Dict α} :
    dictOfValue? decode (.object entries) = some d ↔
      (∀ e ∈ entries, ∃ a, decode e.2 = some a) ∧
        ∀ key, d.find? key = (Dict.lookup key entries.reverse).bind decode := by
  have hfind {d : Dict α} (h : dictOfValue? decode (.object entries) = some d) (key : String) :
      d.find? key = (Dict.lookup key entries.reverse).bind decode := by
    rw [(of_foldlM_takeMember h).2, Dict.find?_empty, Option.or_none]
  constructor
  · intro h
    exact ⟨(of_foldlM_takeMember h).1, hfind h⟩
  · rintro ⟨hvalues, hd⟩
    obtain ⟨made, hmade⟩ := exists_foldlM_takeMember hvalues Dict.empty
    have heq : made = d := Dict.ext_find? fun key => (hfind hmade key).trans (hd key).symm
    exact heq ▸ hmade

/-- A text is read as the map that its value is taken to. -/
theorem readWhole_readDict_eq_ok_iff (h : Decodes item (readValue room) decode) {text : String}
    {d : Dict α} :
    readWhole (readDict item) text = .ok d ↔
      ∃ entries, readWhole (readValue (room + 1)) text = .ok (.object entries) ∧
        dictOfValue? decode (.object entries) = some d := by
  rw [readWhole_agree (decodes_readDict h)]
  constructor
  · rintro ⟨v, hparse, hdict⟩
    cases v with
    | object entries => exact ⟨entries, hparse, hdict⟩
    | _ => cases hdict
  · rintro ⟨entries, hparse, hdict⟩
    exact ⟨.object entries, hparse, hdict⟩

end Maps

/-! ## Members and potential members -/

/-- The maps of roles that texts write. -/
theorem RoleMap.ofJson_eq_ok_iff {text : String} {roles : RoleMap} :
    ofJson text = .ok roles ↔
      ∃ entries, Value.parse text = .ok (.object entries) ∧
        dictOfValue? Role.ofValue? (.object entries) = some roles :=
  readWhole_readDict_eq_ok_iff (Role.decodes_read 125)

/-- The maps of labels that texts write. -/
theorem PotentialMembers.ofJson_eq_ok_iff {text : String} {users : PotentialMembers} :
    ofJson text = .ok users ↔
      ∃ entries, Value.parse text = .ok (.object entries) ∧
        (∀ e ∈ entries, ∃ label, e.2 = .string label) ∧
        ∀ user, users.find? user = (Dict.lookup user entries.reverse).bind Value.text? := by
  simp only [← Value.text?_eq_some_iff, ← dictOfValue?_object_eq_some_iff]
  exact readWhole_readDict_eq_ok_iff (decodes_readText 126)

/-- Whatever the user ids are, the body of an update is read as the roles that it was written for.
    And whatever the text is, it is read as a map of roles if and only if it is an object in which
    every value is a role, also one that a later entry with its key replaces; then each user has
    the role of his last entry. -/
theorem RoleMap.ofJson_survives :
    (∀ (client : Client) (url : Url) (weblog : String) (roles : RoleMap),
      ∃ body, (client.requestTo url (.updateMembers weblog roles)).body = some body ∧
        ofJson body = .ok roles) ∧
    ∀ text,
      ((∃ roles, ofJson text = .ok roles) ↔
        ∃ entries, Value.parse text = .ok (.object entries) ∧
          ∀ e ∈ entries, ∃ role, e.2.Names role) ∧
      ∀ roles, ofJson text = .ok roles →
        ∃ entries, Value.parse text = .ok (.object entries) ∧
          ∀ user role, roles.find? user = some role ↔
            ∃ v, Dict.lookup user entries.reverse = some v ∧ v.Names role := by
  refine ⟨fun client url weblog roles => ⟨roles.toJson.compact, rfl, ofJson_compact roles⟩,
    fun text => ⟨⟨?_, ?_⟩, fun roles h => ?_⟩⟩
  · rintro ⟨roles, h⟩
    obtain ⟨entries, hparse, hdict⟩ := ofJson_eq_ok_iff.1 h
    refine ⟨entries, hparse, ?_⟩
    simp only [← Role.ofValue?_eq_some_iff]
    exact (dictOfValue?_object_eq_some_iff.1 hdict).1
  · rintro ⟨entries, hparse, hvalues⟩
    simp only [← Role.ofValue?_eq_some_iff] at hvalues
    obtain ⟨roles, hroles⟩ := exists_foldlM_takeMember hvalues Dict.empty
    exact ⟨roles, ofJson_eq_ok_iff.2 ⟨entries, hparse, hroles⟩⟩
  · obtain ⟨entries, hparse, hdict⟩ := ofJson_eq_ok_iff.1 h
    refine ⟨entries, hparse, fun user role => ?_⟩
    rw [(dictOfValue?_object_eq_some_iff.1 hdict).2, Option.bind_eq_some_iff]
    simp only [Role.ofValue?_eq_some_iff]

end WeblogDesk
