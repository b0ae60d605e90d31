/-
  WeblogDesk.Dict

  Maps from strings, sorted by code point.

  A `Dict` is a list of entries with strictly increasing keys, so equal maps are
  equal values and the first entry has the least key.  `find?` is the view of the
  operations: one lemma for each says what it does to it.
-/

namespace WeblogDesk

/-- A map from strings, its entries in the order of their keys. -/
structure Dict (α : Type) where
  /-- The entries, least key first. -/
  entries : List (String × α)
  /-- No key is repeated and the keys increase. -/
  sorted : entries.Pairwise (fun a b => a.1 < b.1) := by simp
  deriving Repr

namespace Dict

variable {α : Type}

/-- The map without entries. -/
def empty : Dict α := ⟨[], .nil⟩

instance : Inhabited (Dict α) := ⟨empty⟩

instance [DecidableEq α] : DecidableEq (Dict α) := fun a b =>
  if h : a.entries = b.entries then
    isTrue (by cases a; cases b; cases h; rfl)
  else isFalse (fun e => h (e ▸ rfl))

/-- The list of entries with one more, in its place. -/
def insertEntry (key : String) (value : α) : List (String × α) → List (String × α)
  | [] => [(key, value)]
  | (k, v) :: rest =>
    if key < k then (key, value) :: (k, v) :: rest
    else if key = k then (key, value) :: rest
    else (k, v) :: insertEntry key value rest

theorem mem_insertEntry {key : String} {value : α} {es : List (String × α)} {e : String × α}
    (h : e ∈ insertEntry key value es) : e = (key, value) ∨ e ∈ es := by
  induction es with
  | nil => simpa [insertEntry] using h
  | cons p rest ih =>
    obtain ⟨k, v⟩ := p
    simp only [insertEntry] at h
    split at h
    · simpa using h
    · split at h
      · rcases List.mem_cons.1 h with h | h
        · exact .inl h
        · exact .inr (List.mem_cons_of_mem _ h)
      · rcases List.mem_cons.1 h with h | h
        · exact .inr (h ▸ List.mem_cons_self)
        · exact (ih h).imp id (List.mem_cons_of_mem _)

/-- Inserting in place keeps the keys increasing. -/
theorem pairwise_insertEntry {key : String} {value : α} {es : List (String × α)}
    (h : es.Pairwise (fun a b => a.1 < b.1)) :
    (insertEntry key value es).Pairwise (fun a b => a.1 < b.1) := by
  induction es with
  | nil => simp [insertEntry]
  | cons p rest ih =>
    obtain ⟨k, v⟩ := p
    obtain ⟨hk, hrest⟩ := List.pairwise_cons.1 h
    simp only [insertEntry]
    split
    · rename_i hlt
      refine List.pairwise_cons.2 ⟨fun e he => ?_, h⟩
      rcases List.mem_cons.1 he with rfl | he
      · exact hlt
      · exact String.lt_trans hlt (hk e he)
    · rename_i hnlt
      split
      · rename_i heq
        subst heq
        exact List.pairwise_cons.2 ⟨hk, hrest⟩
      · rename_i hne
        have hkey : k < key :=
          (Decidable.em (k < key)).elim id fun hn =>
            absurd (String.le_antisymm (String.not_lt.1 hn) (String.not_lt.1 hnlt)) hne
        refine List.pairwise_cons.2 ⟨fun e he => ?_, ih hrest⟩
        rcases mem_insertEntry he with rfl | he
        · exact hkey
        · exact hk e he

/-- The map with `key` taken to `value`. -/
def insert (d : Dict α) (key : String) (value : α) : Dict α :=
  ⟨insertEntry key value d.entries, pairwise_insertEntry d.sorted⟩

/-- The value of the first entry with the key. -/
def lookup (key : String) : List (String × α) → Option α
  | [] => none
  | (k, v) :: rest => if key = k then some v else lookup key rest

/-- What the map takes `key` to. -/
def find? (d : Dict α) (key : String) : Option α :=
  lookup key d.entries

/-- Whether the map has the key. -/
def contains (d : Dict α) (key : String) : Bool :=
  (d.find? key).isSome

/-- The keys, least first. -/
def keys (d : Dict α) : List String :=
  d.entries.map (·.1)

/-- The least key. -/
def leastKey? (d : Dict α) : Option String :=
  d.keys.head?

/-- The map of a list of entries; the last entry of a key counts. -/
def ofEntries (es : List (String × α)) : Dict α :=
  es.foldl (fun d e => d.insert e.1 e.2) empty

theorem lookup_insertEntry (key : String) (value : α) (es : List (String × α)) (k : String) :
    lookup k (insertEntry key value es) = if k = key then some value else lookup k es := by
  induction es with
  | nil => simp [insertEntry, lookup]
  | cons p rest ih =>
    obtain ⟨k', v⟩ := p
    simp only [insertEntry]
    split
    · simp [lookup]
    · split
      · rename_i heq
        subst heq
        simp only [lookup]
        split <;> rfl
      · rename_i hne
        simp only [lookup, ih]
        by_cases h1 : k = k' <;> by_cases h2 : k = key <;> simp_all

@[simp] theorem find?_empty (key : String) : (empty : Dict α).find? key = none := rfl

/-- Inserting changes what the one key is taken to. -/
theorem find?_insert (d : Dict α) (key : String) (value : α) (k : String) :
    (d.insert key value).find? k = if k = key then some value else d.find? k :=
  lookup_insertEntry key value d.entries k

end Dict
end WeblogDesk
