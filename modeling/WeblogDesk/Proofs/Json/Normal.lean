/-
  WeblogDesk.Proofs.Json.Normal

  The normal form of values.

  `Value.Tidies` says what a normal form may change: of the entries with one key it
  keeps the last, and it puts keys in order, at every level.  The normal form of a
  value does no more than that (`tidies_normalize`), is one of its own, and keeps
  within the bounds of the value.
-/

import Mathlib.Data.List.Forall2
import WeblogDesk.Proofs.Dict
import WeblogDesk.Proofs.Json.Values

namespace WeblogDesk
namespace Json
namespace Value

/-- What holds of a value if it holds of all its members holds of all values. -/
theorem induction {P : Value → Prop} (scalar : ∀ v : Value, v.IsScalar → P v)
    (array : ∀ items : List Value, (∀ v ∈ items, P v) → P (.array items))
    (object : ∀ entries : List (String × Value), (∀ e ∈ entries, P e.2) → P (.object entries)) :
    ∀ v, P v
  | .null => scalar .null trivial
  | .bool b => scalar (.bool b) trivial
  | .number n => scalar (.number n) trivial
  | .string s => scalar (.string s) trivial
  | .array items => array items fun v hv =>
    have hlt : sizeOf v < sizeOf (Value.array items) :=
      Nat.lt_of_lt_of_le (List.sizeOf_lt_of_mem hv) (by simp)
    induction scalar array object v
  | .object entries => object entries fun e he =>
    have hlt : sizeOf e.2 < sizeOf (Value.object entries) := by
      have hentry := List.sizeOf_lt_of_mem he
      rw [Prod.mk.sizeOf_spec] at hentry
      rw [Value.object.sizeOf_spec]
      omega
    induction scalar array object e.2
termination_by v => sizeOf v
decreasing_by all_goals exact hlt

/-- Whether a value says what another one says, with the last entry of each key and with its keys in
    order, at every level. -/
inductive Tidies : Value → Value → Prop
  | scalar {v : Value} (h : v.IsScalar) : Tidies v v
  | array {items tidied : List Value} (h : List.Forall₂ Tidies items tidied) :
      Tidies (.array items) (.array tidied)
  | object {entries tidied : List (String × Value)}
      (sorted : tidied.Pairwise fun a b => a.1 < b.1)
      (h : ∀ key, Option.Rel Tidies (Dict.lookup key entries.reverse) (Dict.lookup key tidied)) :
      Tidies (.object entries) (.object tidied)

/-! ## What the normal form changes -/

theorem normalize_scalar {v : Value} (h : v.IsScalar) : v.normalize = v := by
  cases v <;> first | rfl | exact h.elim

theorem normalizeItems_eq_map (items : List Value) :
    normalizeItems items = items.map normalize := by
  induction items with
  | nil => rfl
  | cons v rest ih => rw [normalizeItems, ih, List.map_cons]

theorem normalizeEntries_eq_map (entries : List (String × Value)) :
    normalizeEntries entries = entries.map fun e => (e.1, e.2.normalize) := by
  induction entries with
  | nil => rfl
  | cons e rest ih => rw [normalizeEntries, ih, List.map_cons]

/-- The last entry of a key is what the normal form has for it. -/
theorem find?_ofEntries_normalizeEntries (entries : List (String × Value)) (key : String) :
    (Dict.ofEntries (normalizeEntries entries)).find? key =
      (Dict.lookup key entries.reverse).map normalize := by
  rw [Dict.ofEntries_eq_overlay, Dict.find?_overlay, Dict.find?_empty, Option.or_none,
    normalizeEntries_eq_map, ← List.map_reverse, Dict.lookup_map]

/-- The normal form of a value tidies it. -/
theorem tidies_normalize (v : Value) : Tidies v v.normalize := by
  induction v using induction with
  | scalar v h =>
    rw [normalize_scalar h]
    exact .scalar h
  | array items ih =>
    rw [normalize, normalizeItems_eq_map]
    refine .array (List.forall₂_map_right_iff.2 ?_)
    exact List.forall₂_same.2 ih
  | object entries ih =>
    refine .object (Dict.ofEntries (normalizeEntries entries)).sorted fun key => ?_
    have hfind := find?_ofEntries_normalizeEntries entries key
    rw [Dict.find?] at hfind
    rw [hfind]
    cases hlast : Dict.lookup key entries.reverse with
    | none => exact .none
    | some v => exact .some (ih (key, v) (List.mem_reverse.1 (Dict.mem_of_lookup hlast)))

/-- Lists that are related to one list are the same if its members are each related to one. -/
theorem eq_of_forall₂ {items tidied tidied' : List Value}
    (hone : ∀ v ∈ items, ∀ w w', Tidies v w → Tidies v w' → w = w')
    (h : List.Forall₂ Tidies items tidied) (h' : List.Forall₂ Tidies items tidied') :
    tidied = tidied' := by
  induction h generalizing tidied' with
  | nil => exact (List.forall₂_nil_left_iff.1 h').symm
  | cons hw _ ih =>
    obtain ⟨w', rest', hw', hrest', rfl⟩ := List.forall₂_cons_left_iff.1 h'
    obtain ⟨hfirst, hrest⟩ := List.forall_mem_cons.1 hone
    rw [hfirst _ _ hw hw', ih hrest hrest']

/-- The same of options. -/
theorem eq_of_rel {o tidied tidied' : Option Value}
    (hone : ∀ v, o = some v → ∀ w w', Tidies v w → Tidies v w' → w = w')
    (h : Option.Rel Tidies o tidied) (h' : Option.Rel Tidies o tidied') : tidied = tidied' := by
  cases h with
  | none => cases h' with
    | none => rfl
  | some hw => cases h' with
    | some hw' => rw [hone _ rfl _ _ hw hw']

/-- There is one way only to tidy a value. -/
theorem Tidies.unique {v w w' : Value} (h : Tidies v w) (h' : Tidies v w') : w = w' := by
  induction v using induction generalizing w w' with
  | scalar v hv =>
    cases h with
    | scalar => cases h' with
      | scalar => rfl
      | array | object => exact hv.elim
    | array | object => exact hv.elim
  | array items ih =>
    cases h with
    | scalar hv => exact hv.elim
    | array hitems =>
      cases h' with
      | scalar hv => exact hv.elim
      | array hitems' => rw [eq_of_forall₂ (fun v hv _ _ => ih v hv) hitems hitems']
  | object entries ih =>
    cases h with
    | scalar hv => exact hv.elim
    | @object _ tidied sorted hlast =>
      cases h' with
      | scalar hv => exact hv.elim
      | @object _ tidied' sorted' hlast' =>
        have hsame : (⟨tidied, sorted⟩ : Dict Value) = ⟨tidied', sorted'⟩ := by
          refine Dict.ext_find? fun key => ?_
          rw [Dict.find?, Dict.find?]
          refine eq_of_rel (fun v hv _ _ => ?_) (hlast key) (hlast' key)
          exact ih (key, v) (List.mem_reverse.1 (Dict.mem_of_lookup hv))
        have hentries : tidied = tidied' := congrArg Dict.entries hsame
        rw [hentries]

/-- The normal form of a value is the one value that tidies it. -/
theorem tidies_iff {v w : Value} : Tidies v w ↔ w = v.normalize :=
  ⟨fun h => h.unique (tidies_normalize v), fun h => h ▸ tidies_normalize v⟩

/-! ## Normal forms -/

/-- The normal forms of entries are their own if those of their values are. -/
theorem normalizeEntries_eq_self {entries : List (String × Value)}
    (h : ∀ e ∈ entries, e.2.normalize = e.2) : normalizeEntries entries = entries := by
  rw [normalizeEntries_eq_map]
  refine (List.map_congr_left fun e he => ?_).trans (List.map_id entries)
  rw [h e he]
  rfl

/-- What a map of normal forms holds. -/
theorem exists_of_mem_ofEntries {entries : List (String × Value)} {e : String × Value}
    (h : e ∈ (Dict.ofEntries (normalizeEntries entries)).entries) :
    ∃ v, (e.1, v) ∈ entries ∧ e.2 = v.normalize := by
  have hmem := Dict.mem_ofEntries h
  rw [normalizeEntries_eq_map] at hmem
  obtain ⟨⟨key, v⟩, hv, rfl⟩ := List.mem_map.1 hmem
  exact ⟨v, hv, rfl⟩

/-- A normal form is its own. -/
theorem normalize_normalize (v : Value) : v.normalize.normalize = v.normalize := by
  induction v using induction with
  | scalar v h => rw [normalize_scalar h, normalize_scalar h]
  | array items ih =>
    simp only [normalize, normalizeItems_eq_map, List.map_map]
    exact congrArg array (List.map_congr_left ih)
  | object entries ih =>
    have hnormal : ∀ e ∈ (Dict.ofEntries (normalizeEntries entries)).entries,
        e.2.normalize = e.2 := by
      intro e he
      obtain ⟨v, hv, hvalue⟩ := exists_of_mem_ofEntries he
      rw [hvalue, ih _ hv]
    rw [normalize, normalize, normalizeEntries_eq_self hnormal, Dict.ofEntries_entries]

/-- Whether the keys of each object in a value are in order, none of them repeated. -/
inductive IsNormal : Value → Prop
  | scalar {v : Value} (h : v.IsScalar) : IsNormal v
  | array {items : List Value} (h : ∀ v ∈ items, IsNormal v) : IsNormal (.array items)
  | object {entries : List (String × Value)} (sorted : entries.Pairwise fun a b => a.1 < b.1)
      (h : ∀ e ∈ entries, IsNormal e.2) : IsNormal (.object entries)

theorem isNormal_normalize (v : Value) : v.normalize.IsNormal := by
  induction v using induction with
  | scalar v h =>
    rw [normalize_scalar h]
    exact .scalar h
  | array items ih =>
    rw [normalize, normalizeItems_eq_map]
    exact .array (List.forall_mem_map.2 ih)
  | object entries ih =>
    refine .object (Dict.ofEntries (normalizeEntries entries)).sorted fun e he => ?_
    obtain ⟨v, hv, hvalue⟩ := exists_of_mem_ofEntries he
    rw [hvalue]
    exact ih _ hv

/-- A value is its own normal form if its keys are in order. -/
theorem IsNormal.normalize_eq {v : Value} (h : v.IsNormal) : v.normalize = v := by
  induction h with
  | scalar h => exact normalize_scalar h
  | array h ih =>
    rw [normalize, normalizeItems_eq_map]
    exact congrArg Value.array ((List.map_congr_left ih).trans (List.map_id _))
  | object sorted h ih =>
    rw [normalize, normalizeEntries_eq_self ih, Dict.entries_ofEntries sorted]

/-- The normal form of a value is within the bounds of the value. -/
theorem within_normalize {P : Number → Prop} {room : Nat} {v : Value} (h : v.Within P room) :
    v.normalize.Within P room := by
  induction h with
  | null => exact .null
  | bool b => exact .bool b
  | number hn => exact .number hn
  | string s => exact .string s
  | array h ih =>
    rw [normalize, normalizeItems_eq_map]
    exact .array (List.forall_mem_map.2 ih)
  | object h ih =>
    rw [normalize]
    refine .object fun e he => ?_
    obtain ⟨v, hv, hvalue⟩ := exists_of_mem_ofEntries he
    rw [hvalue]
    exact ih _ hv

end Value
end Json
end WeblogDesk
