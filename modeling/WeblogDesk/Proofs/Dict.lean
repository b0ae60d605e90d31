/-
  WeblogDesk.Proofs.Dict

  Maps as lists of entries, and several insertions at once.

  The entries of a map rebuild it, so a map that is written entry by entry and
  inserted again as it is read comes back.  `overlay` inserts a list of entries
  one after the other: the last one of each key counts, and as long as all of
  them have keys that are there the keys stay.
-/

import Mathlib.Data.List.Induction
import WeblogDesk.Dict

namespace WeblogDesk
namespace Dict

variable {α : Type}

/-- A map is its entries. -/
theorem ext_entries {d d' : Dict α} (h : d.entries = d'.entries) : d = d' := by
  cases d
  cases d'
  cases h
  rfl

/-! ## Several insertions -/

/-- The map with some entries inserted one after the other. -/
def overlay (d : Dict α) (es : List (String × α)) : Dict α :=
  es.foldl (fun d e => d.insert e.1 e.2) d

theorem overlay_concat (d : Dict α) (es : List (String × α)) (e : String × α) :
    d.overlay (es ++ [e]) = (d.overlay es).insert e.1 e.2 := by
  rw [overlay, List.foldl_append]
  rfl

theorem ofEntries_eq_overlay (es : List (String × α)) : ofEntries es = empty.overlay es := rfl

/-- The last entry of a key counts, and what was there before if there is none. -/
theorem find?_overlay (d : Dict α) (es : List (String × α)) (key : String) :
    (d.overlay es).find? key = (lookup key es.reverse).or (d.find? key) := by
  induction es using List.reverseRecOn with
  | nil => rfl
  | append_singleton es e ih =>
    obtain ⟨k, v⟩ := e
    rw [overlay_concat, find?_insert, List.reverse_concat, lookup]
    split
    · rfl
    · exact ih

theorem mem_of_lookup {key : String} {value : α} {es : List (String × α)}
    (h : lookup key es = some value) : (key, value) ∈ es := by
  induction es with
  | nil => cases h
  | cons e rest ih =>
    obtain ⟨k, v⟩ := e
    rw [lookup] at h
    split at h
    · next heq =>
      cases h
      rw [heq]
      exact List.mem_cons_self
    · exact List.mem_cons_of_mem _ (ih h)

theorem isSome_lookup_iff {key : String} {es : List (String × α)} :
    (lookup key es).isSome = true ↔ key ∈ es.map (·.1) := by
  induction es with
  | nil => simp [lookup]
  | cons e rest ih =>
    obtain ⟨k, v⟩ := e
    rw [lookup, List.map_cons, List.mem_cons, ← ih]
    split
    · next heq => exact iff_of_true rfl (.inl heq)
    · next hne => exact (or_iff_right hne).symm

theorem lookup_map {β : Type} (f : α → β) (key : String) (es : List (String × α)) :
    lookup key (es.map fun e => (e.1, f e.2)) = (lookup key es).map f := by
  induction es with
  | nil => rfl
  | cons e rest ih =>
    obtain ⟨k, v⟩ := e
    rw [List.map_cons, lookup, lookup, ih]
    split <;> rfl

/-! ## Entries that rebuild the map -/

theorem insertEntry_of_lt {key : String} {value : α} {es : List (String × α)}
    (h : ∀ e ∈ es, e.1 < key) : insertEntry key value es = es ++ [(key, value)] := by
  induction es with
  | nil => rfl
  | cons e rest ih =>
    obtain ⟨k, v⟩ := e
    have hk : k < key := h (k, v) List.mem_cons_self
    have hne : key ≠ k := by
      rintro rfl
      exact String.lt_irrefl _ hk
    rw [insertEntry, if_neg (String.lt_asymm hk), if_neg hne,
      ih fun e he => h e (List.mem_cons_of_mem _ he)]
    rfl

/-- Inserting entries in the order of their keys keeps them as they are. -/
theorem entries_ofEntries {es : List (String × α)} (h : es.Pairwise (fun a b => a.1 < b.1)) :
    (ofEntries es).entries = es := by
  induction es using List.reverseRecOn with
  | nil => rfl
  | append_singleton es e ih =>
    obtain ⟨hes, -, hlast⟩ := List.pairwise_append.1 h
    rw [ofEntries_eq_overlay, overlay_concat, ← ofEntries_eq_overlay]
    -- the last key is beyond all keys before it
    show insertEntry e.1 e.2 (ofEntries es).entries = es ++ [e]
    rw [ih hes]
    exact insertEntry_of_lt fun a ha => hlast a ha e List.mem_cons_self

/-- The entries of a map rebuild it. -/
theorem ofEntries_entries (d : Dict α) : ofEntries d.entries = d :=
  ext_entries (entries_ofEntries d.sorted)

/-! ## Keys -/

theorem lookup_eq_none_of_lt {key : String} {es : List (String × α)} (h : ∀ e ∈ es, key < e.1) :
    lookup key es = none := by
  induction es with
  | nil => rfl
  | cons e rest ih =>
    obtain ⟨k, v⟩ := e
    have hk : key < k := h (k, v) List.mem_cons_self
    have hne : key ≠ k := by
      rintro rfl
      exact String.lt_irrefl _ hk
    rw [lookup, if_neg hne]
    exact ih fun e he => h e (List.mem_cons_of_mem _ he)

/-- A key that is there takes its own place. -/
theorem map_fst_insertEntry {key : String} {value : α} {es : List (String × α)}
    (hsorted : es.Pairwise (fun a b => a.1 < b.1)) (h : (lookup key es).isSome = true) :
    (insertEntry key value es).map (·.1) = es.map (·.1) := by
  induction es with
  | nil => simp [lookup] at h
  | cons e rest ih =>
    obtain ⟨k, v⟩ := e
    obtain ⟨hk, hrest⟩ := List.pairwise_cons.1 hsorted
    rw [lookup] at h
    rw [insertEntry]
    split
    · -- a key below the first one would be below all of them
      rename_i hlt
      have hne : key ≠ k := by
        rintro rfl
        exact String.lt_irrefl _ hlt
      rw [if_neg hne, lookup_eq_none_of_lt fun e he => String.lt_trans hlt (hk e he)] at h
      simp at h
    · split
      · rename_i heq
        rw [heq]
        rfl
      · rename_i hne
        rw [if_neg hne] at h
        rw [List.map_cons, ih hrest h]
        rfl

theorem keys_insert {d : Dict α} {key : String} (h : d.contains key = true) (value : α) :
    (d.insert key value).keys = d.keys :=
  map_fst_insertEntry d.sorted h

/-- The least key is the one that is not above any other. -/
theorem leastKey?_eq_some_iff {d : Dict α} {key : String} :
    d.leastKey? = some key ↔ key ∈ d.keys ∧ ∀ other ∈ d.keys, key ≤ other := by
  have hsorted : d.keys.Pairwise (· < ·) := List.pairwise_map.2 d.sorted
  rw [leastKey?]
  cases hkeys : d.keys with
  | nil => simp
  | cons first rest =>
    rw [hkeys] at hsorted
    have hfirst : ∀ other ∈ first :: rest, first ≤ other := by
      intro other hother
      rcases List.mem_cons.1 hother with rfl | hother
      · exact String.le_refl _
      · exact String.not_lt.1 (String.lt_asymm ((List.pairwise_cons.1 hsorted).1 other hother))
    rw [List.head?_cons, Option.some_inj]
    constructor
    · rintro rfl
      exact ⟨List.mem_cons_self, hfirst⟩
    · rintro ⟨hmem, hleast⟩
      exact String.le_antisymm (hfirst key hmem) (hleast first List.mem_cons_self)

theorem leastKey?_eq_none_iff {d : Dict α} : d.leastKey? = none ↔ d.keys = [] :=
  List.head?_eq_none_iff

/-- No key is less than the empty one. -/
theorem leastKey?_eq_empty_iff {d : Dict α} : d.leastKey? = some "" ↔ "" ∈ d.keys := by
  rw [leastKey?_eq_some_iff, and_iff_left_iff_imp]
  intro _ other _
  refine String.not_lt.1 fun hlt => ?_
  exact List.not_lt_nil _ (String.lt_iff.1 hlt)

/-! ## Maps as functions -/

theorem lookup_eq_some_iff {key : String} {value : α} {es : List (String × α)}
    (hsorted : es.Pairwise (fun a b => a.1 < b.1)) :
    lookup key es = some value ↔ (key, value) ∈ es := by
  induction es with
  | nil => simp [lookup]
  | cons e rest ih =>
    obtain ⟨k, v⟩ := e
    obtain ⟨hk, hrest⟩ := List.pairwise_cons.1 hsorted
    rw [lookup, List.mem_cons, Prod.mk.injEq]
    split
    · -- no entry behind the first one has its key
      rename_i heq
      subst heq
      have hbehind : (key, value) ∉ rest := fun hmem =>
        absurd (hk (key, value) hmem) (String.lt_irrefl key)
      simp [hbehind, eq_comm]
    · rename_i hne
      simp [hne, ih hrest]

theorem find?_eq_some_iff {d : Dict α} {key : String} {value : α} :
    d.find? key = some value ↔ (key, value) ∈ d.entries :=
  lookup_eq_some_iff d.sorted

/-- The entries of a map are among those it is made of. -/
theorem mem_ofEntries {es : List (String × α)} {e : String × α} (h : e ∈ (ofEntries es).entries) :
    e ∈ es := by
  have hfind := find?_eq_some_iff.2 h
  rw [ofEntries_eq_overlay, find?_overlay, find?_empty, Option.or_none] at hfind
  exact List.mem_reverse.1 (mem_of_lookup hfind)

theorem contains_iff_mem_keys {d : Dict α} {key : String} :
    d.contains key = true ↔ key ∈ d.keys := by
  rw [contains, Option.isSome_iff_exists, keys, List.mem_map]
  constructor
  · rintro ⟨value, h⟩
    exact ⟨(key, value), find?_eq_some_iff.1 h, rfl⟩
  · rintro ⟨⟨_, value⟩, hmem, rfl⟩
    exact ⟨value, find?_eq_some_iff.2 hmem⟩

/-- Maps that take every key to the same are the same. -/
theorem ext_find? {d d' : Dict α} (h : ∀ key, d.find? key = d'.find? key) : d = d' := by
  have hnodup (d : Dict α) : d.entries.Nodup := by
    refine List.Pairwise.imp ?_ d.sorted
    rintro a _ hlt rfl
    exact String.lt_irrefl a.1 hlt
  have hmem (e : String × α) : e ∈ d.entries ↔ e ∈ d'.entries := by
    rw [← find?_eq_some_iff, ← find?_eq_some_iff, h]
  -- the order of the entries is that of their keys
  refine ext_entries (List.Perm.eq_of_pairwise ?_ d.sorted d'.sorted
    ((List.perm_ext_iff_of_nodup (hnodup d) (hnodup d')).2 hmem))
  intro a b _ _ hab hba
  exact absurd hba (String.lt_asymm hab)

/-- Inserting a map takes its keys to its values and leaves the others. -/
theorem find?_overlay_entries (d d' : Dict α) (key : String) :
    (d.overlay d'.entries).find? key = (d'.find? key).or (d.find? key) := by
  have hreverse : lookup key d'.entries.reverse = d'.find? key := by
    have hfind := find?_overlay empty d'.entries key
    rw [← ofEntries_eq_overlay, ofEntries_entries, find?_empty, Option.or_none] at hfind
    exact hfind.symm
  rw [find?_overlay, hreverse]

/-! ## Some of the entries -/

/-- The map with those entries only that are kept. -/
def filter (keep : String → α → Bool) (d : Dict α) : Dict α :=
  ⟨d.entries.filter fun e => keep e.1 e.2, d.sorted.filter _⟩

theorem find?_filter (keep : String → α → Bool) (d : Dict α) (key : String) :
    (d.filter keep).find? key = (d.find? key).filter (keep key) := by
  ext value
  rw [find?_eq_some_iff, filter, List.mem_filter, Option.filter_eq_some_iff, find?_eq_some_iff]

end Dict
end WeblogDesk
