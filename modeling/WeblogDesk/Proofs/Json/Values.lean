/-
  WeblogDesk.Proofs.Json.Values

  Values that are read, and values that are read back.

  What a value is read as is told by its first character (`readValue_eq_array_iff`
  and its likes).  `Value.Within` bounds how deep arrays and objects are nested and
  says something of each number: every value that is read is within its room, with
  integers of 64 bits (`within_of_readValue`), and every value within its room whose
  numbers are such integers is read back from what is written for it
  (`readValue_write`).
-/

import WeblogDesk.Proofs.Json.Members
import WeblogDesk.Proofs.Json.Numbers
import WeblogDesk.Proofs.Json.Objects

namespace WeblogDesk
namespace Json

variable {room : Nat} {s rest : List Char} {v : Value}

/-! ## Reading -/

/-- Reads what follows a key: a colon and a value. -/
def behindColon {α : Type} (value : Reader α) : Reader α := fun s => do
  value (← readColon s)

theorem behindColon_eq_ok_iff {α : Type} {value : Reader α} {a : α} :
    behindColon value s = .ok (a, rest) ↔
      ∃ tail, readColon s = .ok tail ∧ value tail = .ok (a, rest) :=
  bind_eq_ok_iff

/-- What is decoded as it is read is decoded so behind a colon. -/
theorem Decodes.behindColon {α β : Type} {item : Reader α} {value : Reader β}
    {decode : β → Option α} (h : Decodes item value decode) :
    Decodes (behindColon item) (behindColon value) decode := by
  intro s x rest
  simp only [behindColon_eq_ok_iff, h _ _ _]
  constructor
  · rintro ⟨tail, hcolon, v, hread, hdecode⟩
    exact ⟨v, ⟨tail, hcolon, hread⟩, hdecode⟩
  · rintro ⟨v, ⟨tail, hcolon, hread⟩, hdecode⟩
    exact ⟨tail, hcolon, v, hread, hdecode⟩

/-- What is put around something that is read is read with it. -/
theorem bind_put_eq_ok_iff {α β : Type} {x : Except Fault (α × List Char)} (put : α → β) {b : β} :
    (do
        let (a, s) ← x
        return (put a, s) : Except Fault (β × List Char)) = .ok (b, rest) ↔
      ∃ a, x = .ok (a, rest) ∧ put a = b := by
  rw [bind_eq_ok_iff]
  constructor
  · rintro ⟨⟨a, left⟩, hread, hput⟩
    cases hput
    exact ⟨a, hread, rfl⟩
  · rintro ⟨a, hread, rfl⟩
    exact ⟨(a, rest), hread, rfl⟩

/-- The entries of an object are values behind colons. -/
theorem readValue_of_brace {tail : List Char} (h : skipBlanks s = '\x7b' :: tail) :
    readValue (room + 1) s =
      (readEntries (gatherEntry (behindColon (readValue room))) [] tail).map
        fun found => (.object found.1.reverse, found.2) := by
  rw [readValue, h]
  refine congrArg (fun step => (readEntries step [] tail).map
    fun found => (Value.object found.1.reverse, found.2)) ?_
  funext gathered key s
  rw [gatherEntry, behindColon]
  cases readColon s with
  | error f => rfl
  | ok tail =>
    simp only [bind, Except.bind]
    cases readValue room tail <;> rfl

theorem readValue_of_bracket {tail : List Char} (h : skipBlanks s = '[' :: tail) :
    readValue (room + 1) s =
      (readItems (readValue room) tail).map fun found => (.array found.1, found.2) := by
  rw [readValue, h]
  rfl

/-- What has no members is not opened. -/
theorem readValue_of_ne (harray : ∀ tail, skipBlanks s ≠ '[' :: tail)
    (hobject : ∀ tail, skipBlanks s ≠ '\x7b' :: tail) :
    readValue (room + 1) s = readScalar (skipBlanks s) := by
  rw [readValue]
  split
  · next tail hblanks => exact absurd hblanks (harray tail)
  · next tail hblanks => exact absurd hblanks (hobject tail)
  · rfl

/-- A value that has no members. -/
def Value.IsScalar : Value → Prop
  | .array _ => False
  | .object _ => False
  | _ => True

/-- All that can be read without members. -/
theorem readScalar_cases (h : readScalar s = .ok (v, rest)) :
    (∃ tail, s = 'n' :: tail ∧ v = .null ∧ readWord ['u', 'l', 'l'] tail = .ok rest) ∨
      (∃ b, v = .bool b) ∨
      (∃ n, v = .number n ∧ readNumber s = .ok (n, rest)) ∨
      ∃ t tail, s = '"' :: tail ∧ v = .string t ∧ readString tail = .ok (t, rest) := by
  unfold readScalar at h
  split at h
  · cases h
  · next tail =>
    obtain ⟨_, hread, hv⟩ := map_eq_ok_iff.1 h
    cases hv
    exact .inl ⟨tail, rfl, rfl, hread⟩
  · obtain ⟨_, -, hv⟩ := map_eq_ok_iff.1 h
    cases hv
    exact .inr (.inl ⟨true, rfl⟩)
  · obtain ⟨_, -, hv⟩ := map_eq_ok_iff.1 h
    cases hv
    exact .inr (.inl ⟨false, rfl⟩)
  · next tail =>
    obtain ⟨⟨t, _⟩, hread, hv⟩ := map_eq_ok_iff.1 h
    cases hv
    exact .inr (.inr (.inr ⟨t, tail, rfl, rfl, hread⟩))
  · split at h
    · obtain ⟨⟨n, _⟩, hread, hv⟩ := map_eq_ok_iff.1 h
      cases hv
      exact .inr (.inr (.inl ⟨n, rfl, hread⟩))
    · cases h

theorem isScalar_of_readScalar (h : readScalar s = .ok (v, rest)) : v.IsScalar := by
  rcases readScalar_cases h with ⟨_, -, rfl, -⟩ | ⟨b, rfl⟩ | ⟨n, rfl, -⟩ | ⟨t, _, -, rfl, -⟩ <;>
    trivial

theorem readScalar_eq_string_iff {t : String} :
    readScalar s = .ok (.string t, rest) ↔
      ∃ tail, s = '"' :: tail ∧ readString tail = .ok (t, rest) := by
  constructor
  · intro h
    rcases readScalar_cases h with ⟨_, -, hv, -⟩ | ⟨b, hv⟩ | ⟨n, hv, -⟩ | ⟨_, tail, hs, hv, hread⟩
    all_goals cases hv
    exact ⟨tail, hs, hread⟩
  · rintro ⟨tail, rfl, hread⟩
    exact map_eq_ok_iff.2 ⟨(t, rest), hread, rfl⟩

theorem readScalar_eq_null_iff :
    readScalar s = .ok (.null, rest) ↔
      ∃ tail, s = 'n' :: tail ∧ readWord ['u', 'l', 'l'] tail = .ok rest := by
  constructor
  · intro h
    rcases readScalar_cases h with ⟨tail, hs, -, hread⟩ | ⟨b, hv⟩ | ⟨n, hv, -⟩ | ⟨t, _, -, hv, -⟩
    · exact ⟨tail, hs, hread⟩
    all_goals cases hv
  · rintro ⟨tail, rfl, hread⟩
    exact map_eq_ok_iff.2 ⟨rest, hread, rfl⟩

/-! ## Values by their first character -/

/-- All that reading a value can come to where there is room. -/
theorem readValue_cases (h : readValue (room + 1) s = .ok (v, rest)) :
    (∃ tail items, skipBlanks s = '[' :: tail ∧
        readItems (readValue room) tail = .ok (items, rest) ∧ v = .array items) ∨
      (∃ tail entries, skipBlanks s = '\x7b' :: tail ∧
        readEntries (gatherEntry (behindColon (readValue room))) [] tail =
          .ok (entries.reverse, rest) ∧ v = .object entries) ∨
      readScalar (skipBlanks s) = .ok (v, rest) := by
  by_cases harray : ∃ tail, skipBlanks s = '[' :: tail
  · obtain ⟨tail, hblanks⟩ := harray
    rw [readValue_of_bracket hblanks] at h
    obtain ⟨⟨items, _⟩, hread, hv⟩ := map_eq_ok_iff.1 h
    cases hv
    exact .inl ⟨tail, items, hblanks, hread, rfl⟩
  by_cases hobject : ∃ tail, skipBlanks s = '\x7b' :: tail
  · obtain ⟨tail, hblanks⟩ := hobject
    rw [readValue_of_brace hblanks] at h
    obtain ⟨⟨gathered, _⟩, hread, hv⟩ := map_eq_ok_iff.1 h
    cases hv
    refine .inr (.inl ⟨tail, gathered.reverse, hblanks, ?_, rfl⟩)
    rw [List.reverse_reverse]
    exact hread
  · rw [readValue_of_ne (not_exists.1 harray) (not_exists.1 hobject)] at h
    exact .inr (.inr h)

/-- A value without members is read in every room as it is read without any. -/
theorem readValue_eq_scalar_iff (hv : v.IsScalar) :
    readValue room s = .ok (v, rest) ↔ readScalar (skipBlanks s) = .ok (v, rest) := by
  cases room with
  | zero => exact Iff.rfl
  | succ room =>
    constructor
    · intro h
      rcases readValue_cases h with ⟨_, _, -, -, rfl⟩ | ⟨_, _, -, -, rfl⟩ | hread
      · exact hv.elim
      · exact hv.elim
      · exact hread
    · intro h
      -- nothing without members begins with a bracket or a brace
      rw [readValue_of_ne]
      · exact h
      · intro tail hblanks
        rw [hblanks] at h
        cases h
      · intro tail hblanks
        rw [hblanks] at h
        cases h

theorem readValue_eq_array_iff {items : List Value} :
    readValue (room + 1) s = .ok (.array items, rest) ↔
      ∃ tail, skipBlanks s = '[' :: tail ∧ readItems (readValue room) tail = .ok (items, rest) := by
  constructor
  · intro h
    rcases readValue_cases h with ⟨tail, _, hblanks, hread, hv⟩ | ⟨_, _, -, -, hv⟩ | hread
    · cases hv
      exact ⟨tail, hblanks, hread⟩
    · cases hv
    · exact (isScalar_of_readScalar hread).elim
  · rintro ⟨tail, hblanks, hread⟩
    rw [readValue_of_bracket hblanks]
    exact map_eq_ok_iff.2 ⟨(items, rest), hread, rfl⟩

theorem readValue_eq_object_iff {entries : List (String × Value)} :
    readValue (room + 1) s = .ok (.object entries, rest) ↔
      ∃ tail, skipBlanks s = '\x7b' :: tail ∧
        readEntries (gatherEntry (behindColon (readValue room))) [] tail =
          .ok (entries.reverse, rest) := by
  constructor
  · intro h
    rcases readValue_cases h with ⟨_, _, -, -, hv⟩ | ⟨tail, _, hblanks, hread, hv⟩ | hread
    · cases hv
    · cases hv
      exact ⟨tail, hblanks, hread⟩
    · exact (isScalar_of_readScalar hread).elim
  · rintro ⟨tail, hblanks, hread⟩
    rw [readValue_of_brace hblanks]
    refine map_eq_ok_iff.2 ⟨(entries.reverse, rest), hread, ?_⟩
    rw [List.reverse_reverse]

/-- Text is read as the values are that are strings. -/
theorem readText_eq_ok_iff (room : Nat) {t : String} :
    readText s = .ok (t, rest) ↔ readValue room s = .ok (.string t, rest) := by
  rw [readValue_eq_scalar_iff (v := .string t) trivial, readScalar_eq_string_iff, readText]
  generalize skipBlanks s = u
  constructor
  · intro h
    split at h
    · next tail => exact ⟨tail, rfl, h⟩
    · cases h
  · rintro ⟨tail, rfl, hread⟩
    exact hread

/-- The text that a value is, if it is one. -/
def Value.text? : Value → Option String
  | .string t => some t
  | _ => none

theorem Value.text?_eq_some_iff {v : Value} {t : String} : v.text? = some t ↔ v = .string t := by
  cases v <;> simp [text?]

theorem decodes_readText (room : Nat) : Decodes readText (readValue room) Value.text? := by
  intro s t rest
  simp only [Value.text?_eq_some_iff, exists_eq_right, readText_eq_ok_iff room]

/-! ## Bounds -/

/-- Whether at most `room` arrays and objects are open at once, and every number is as it should
    be. -/
inductive Value.Within (P : Number → Prop) : Nat → Value → Prop
  | null {room : Nat} : Within P room .null
  | bool {room : Nat} (b : Bool) : Within P room (.bool b)
  | number {room : Nat} {n : Number} (h : P n) : Within P room (.number n)
  | string {room : Nat} (s : String) : Within P room (.string s)
  | array {room : Nat} {items : List Value} (h : ∀ v ∈ items, Within P room v) :
      Within P (room + 1) (.array items)
  | object {room : Nat} {entries : List (String × Value)} (h : ∀ e ∈ entries, Within P room e.2) :
      Within P (room + 1) (.object entries)

/-- Whether a number has 64 bits, if it is an integer. -/
def Number.InRange (n : Number) : Prop :=
  ∀ i, n = .integer i → -2 ^ 63 ≤ i ∧ i < 2 ^ 64

theorem inRange_of_readNumber {n : Number} (h : readNumber s = .ok (n, rest)) : n.InRange := by
  rintro i rfl
  exact (readNumber_eq_integer_iff.1 h).2.2

theorem within_of_readScalar (h : readScalar s = .ok (v, rest)) :
    v.Within Number.InRange room := by
  rcases readScalar_cases h with ⟨_, -, rfl, -⟩ | ⟨b, rfl⟩ | ⟨n, rfl, hread⟩ | ⟨t, _, -, rfl, -⟩
  · exact .null
  · exact .bool b
  · exact .number (inRange_of_readNumber hread)
  · exact .string t

/-- Every value that is read is within its room, and its integers have 64 bits. -/
theorem within_of_readValue (h : readValue room s = .ok (v, rest)) :
    v.Within Number.InRange room := by
  induction room generalizing s v rest with
  | zero => exact within_of_readScalar h
  | succ room ih =>
    cases v with
    | array items =>
      obtain ⟨tail, -, hread⟩ := readValue_eq_array_iff.1 h
      obtain ⟨_, rfl, hitems⟩ := exists_items hread
      refine .array fun v hv => ?_
      obtain ⟨_, _, hitem⟩ := hitems v hv
      exact ih hitem
    | object entries =>
      obtain ⟨tail, -, hread⟩ := readValue_eq_object_iff.1 h
      have hwithin : ∀ e ∈ entries.reverse, e.2.Within Number.InRange room := by
        refine readEntriesFrom_induct
          (P := fun gathered => ∀ e ∈ gathered, e.2.Within Number.InRange room)
          (List.forall_mem_nil _) ?_ hread
        intro gathered key s _ rest hgathered hentry
        obtain ⟨v, hvalue, rfl⟩ := gatherEntry_eq_ok_iff.1 hentry
        obtain ⟨tail, -, hv⟩ := behindColon_eq_ok_iff.1 hvalue
        exact List.forall_mem_cons.2 ⟨ih hv, hgathered⟩
      exact .object fun e he => hwithin e (List.mem_reverse.2 he)
    | null => exact .null
    | bool b => exact .bool b
    | number n =>
      exact within_of_readScalar ((readValue_eq_scalar_iff (v := .number n) trivial).1 h)
    | string t => exact .string t

mutual

/-- The numbers in a value. -/
def Value.numbers : Value → List Number
  | .number n => [n]
  | .array items => Value.numbersOfItems items
  | .object entries => Value.numbersOfEntries entries
  | _ => []

/-- The numbers in items. -/
def Value.numbersOfItems : List Value → List Number
  | [] => []
  | v :: rest => v.numbers ++ Value.numbersOfItems rest

/-- The numbers in the values of entries. -/
def Value.numbersOfEntries : List (String × Value) → List Number
  | [] => []
  | (_, v) :: rest => v.numbers ++ Value.numbersOfEntries rest

end

theorem numbersOfItems_eq_flatMap (items : List Value) :
    Value.numbersOfItems items = items.flatMap Value.numbers := by
  induction items with
  | nil => rfl
  | cons v rest ih => rw [Value.numbersOfItems, ih, List.flatMap_cons]

theorem numbersOfEntries_eq_flatMap (entries : List (String × Value)) :
    Value.numbersOfEntries entries = entries.flatMap fun e => e.2.numbers := by
  induction entries with
  | nil => rfl
  | cons e rest ih => rw [Value.numbersOfEntries, ih, List.flatMap_cons]

/-- What is known of each number in a value is known within its bounds. -/
theorem Value.Within.imp {P Q : Number → Prop} (h : v.Within P room)
    (hnumbers : ∀ n ∈ v.numbers, P n → Q n) : v.Within Q room := by
  induction h with
  | null => exact .null
  | bool b => exact .bool b
  | number hn => exact .number (hnumbers _ (List.mem_singleton_self _) hn)
  | string s => exact .string s
  | array _ ih =>
    rw [Value.numbers, numbersOfItems_eq_flatMap] at hnumbers
    exact .array fun v hv => ih v hv fun n hn => hnumbers n (List.mem_flatMap.2 ⟨v, hv, hn⟩)
  | object _ ih =>
    rw [Value.numbers, numbersOfEntries_eq_flatMap] at hnumbers
    exact .object fun e he => ih e he fun n hn => hnumbers n (List.mem_flatMap.2 ⟨e, he, hn⟩)

/-! ## Items that are written -/

section Items

variable {α : Type} {item : Reader α} {write : α → List Char}

/-- Whether an item is read back from its text, up to the comma or bracket behind it. -/
def ReadsBack (item : Reader α) (write : α → List Char) (x : α) : Prop :=
  (∃ c cs, write x = c :: cs ∧ Text.isJsonBlank c = false ∧ c ≠ ']') ∧
    ∀ c rest, c = ',' ∨ c = ']' → item (write x ++ c :: rest) = .ok (x, c :: rest)

theorem skipBlanks_cons {c : Char} (hc : Text.isJsonBlank c = false) (cs : List Char) :
    skipBlanks (c :: cs) = c :: cs :=
  List.dropWhile_cons_of_neg (by simp [hc])

theorem nextItem_first {x : α} (h : ReadsBack item write x) (rest : List Char) :
    nextItem true (write x ++ rest) = .ok (.inr (write x ++ rest)) := by
  obtain ⟨⟨c, cs, hwrite, hblank, hbracket⟩, -⟩ := h
  rw [hwrite, List.cons_append, nextItem, skipBlanks_cons hblank]
  simp [hbracket]

theorem nextItem_next {x : α} (h : ReadsBack item write x) (rest : List Char) :
    nextItem false (',' :: (write x ++ rest)) = .ok (.inr (write x ++ rest)) := by
  obtain ⟨⟨c, cs, hwrite, hblank, hbracket⟩, -⟩ := h
  have hcomma : skipBlanks (',' :: (c :: (cs ++ rest))) = ',' :: c :: (cs ++ rest) := rfl
  rw [hwrite, List.cons_append, nextItem, hcomma]
  simp [hbracket, skipBlanks_cons hblank]

/-- What follows an item begins with a comma or with the closing bracket. -/
theorem exists_flatMap_bracket (parts : List (List Char)) (rest : List Char) :
    ∃ c tail, (c = ',' ∨ c = ']') ∧ parts.flatMap (',' :: ·) ++ ']' :: rest = c :: tail := by
  cases parts with
  | nil => exact ⟨']', rest, .inr rfl, rfl⟩
  | cons part parts => exact ⟨',', _, .inl rfl, rfl⟩

/-- The items behind the first one are read up to the closing bracket. -/
theorem readItemsFrom_flatMap {xs : List α} (h : ∀ x ∈ xs, ReadsBack item write x) {fuel : Nat}
    (hfuel : xs.length < fuel) (gathered : List α) (rest : List Char) :
    readItemsFrom item fuel false gathered ((xs.map write).flatMap (',' :: ·) ++ ']' :: rest) =
      .ok (gathered.reverse ++ xs, rest) := by
  induction xs generalizing fuel gathered with
  | nil =>
    obtain ⟨fuel, rfl⟩ := Nat.exists_eq_add_one_of_ne_zero (Nat.ne_zero_of_lt hfuel)
    rw [List.append_nil]
    rfl
  | cons x xs ih =>
    obtain ⟨fuel, rfl⟩ := Nat.exists_eq_add_one_of_ne_zero (Nat.ne_zero_of_lt hfuel)
    rw [List.length_cons] at hfuel
    obtain ⟨hx, hxs⟩ := List.forall_mem_cons.1 h
    obtain ⟨c, tail, hc, htail⟩ := exists_flatMap_bracket (xs.map write) rest
    have hrest := ih hxs (show xs.length < fuel by omega) (x :: gathered)
    rw [htail] at hrest
    rw [List.map_cons, List.flatMap_cons, List.cons_append, List.cons_append, List.append_assoc,
      htail, readItemsFrom_succ, nextItem_next hx]
    dsimp only
    rw [hx.2 c tail hc]
    dsimp only
    rw [hrest, List.reverse_cons, List.append_assoc]
    rfl

/-- The items of an array are read back from behind its bracket. -/
theorem readItems_joinComma {xs : List α} (h : ∀ x ∈ xs, ReadsBack item write x)
    (rest : List Char) :
    readItems item (joinComma (xs.map write) ++ ']' :: rest) = .ok (xs, rest) := by
  rw [readItems]
  cases xs with
  | nil => rfl
  | cons x xs =>
    obtain ⟨hx, hxs⟩ := List.forall_mem_cons.1 h
    have hcount := length_le_flatMap (xs.map write)
    obtain ⟨c, tail, hc, htail⟩ := exists_flatMap_bracket (xs.map write) rest
    rw [List.map_cons, joinComma_cons, List.append_assoc]
    -- each item takes a character, so the length of the text is fuel enough
    have hfuel : xs.length <
        (write x ++ ((xs.map write).flatMap (',' :: ·) ++ ']' :: rest)).length := by
      simp only [List.length_append, List.length_cons, List.length_map] at hcount ⊢
      omega
    have hrest := readItemsFrom_flatMap hxs hfuel [x] rest
    rw [htail] at hrest ⊢
    rw [readItemsFrom_succ, nextItem_first hx]
    dsimp only
    rw [hx.2 c tail hc]
    exact hrest

end Items

/-! ## Reading back -/

/-- Whether a number is an integer of 64 bits. -/
def Number.IsWhole (n : Number) : Prop :=
  ∃ i, n = .integer i ∧ -2 ^ 63 ≤ i ∧ i < 2 ^ 64

/-- An integer is written from its sign or from a digit on. -/
theorem exists_text_integer (i : Int) :
    ∃ c cs, (Number.integer i).text = c :: cs ∧ (c = '-' ∨ c.isDigit = true) := by
  rw [Number.text_integer]
  split
  · obtain ⟨d, more, hdigits, hd⟩ := exists_toDigits i.toNat
    exact ⟨d, more, hdigits, .inr hd⟩
  · exact ⟨'-', _, rfl, .inl rfl⟩

/-- What begins with a sign or a digit is read as a number. -/
theorem readScalar_of_number {c : Char} (hc : c = '-' ∨ c.isDigit = true) (cs : List Char) :
    readScalar (c :: cs) =
      (readNumber (c :: cs)).map fun (n, tail) => (Value.number n, tail) := by
  unfold readScalar
  split
  case h_1 heq => cases heq
  case h_6 heq =>
    cases heq
    rw [if_pos (by simpa using hc)]
  -- no other value begins with a sign or a digit
  all_goals
    next heq =>
      cases heq
      exact absurd hc (by decide)

theorem not_blank_of_number {c : Char} (hc : c = '-' ∨ c.isDigit = true) :
    Text.isJsonBlank c = false ∧ c ≠ ']' := by
  constructor
  · cases hblank : Text.isJsonBlank c with
    | false => rfl
    | true =>
      simp only [Text.isJsonBlank, Bool.or_eq_true, beq_iff_eq] at hblank
      rcases hblank with ((rfl | rfl) | rfl) | rfl <;> exact absurd hc (by decide)
  · rintro rfl
    exact absurd hc (by decide)

/-- What is written for a value begins neither with a blank nor with a closing bracket. -/
theorem exists_write (h : v.Within Number.IsWhole room) :
    ∃ c cs, v.write = c :: cs ∧ Text.isJsonBlank c = false ∧ c ≠ ']' := by
  cases h with
  | null => exact ⟨'n', _, rfl, rfl, by decide⟩
  | bool b =>
    cases b with
    | true => exact ⟨'t', _, rfl, rfl, by decide⟩
    | false => exact ⟨'f', _, rfl, rfl, by decide⟩
  | number hn =>
    obtain ⟨i, rfl, -⟩ := hn
    obtain ⟨c, cs, htext, hc⟩ := exists_text_integer i
    exact ⟨c, cs, htext, not_blank_of_number hc⟩
  | string s => exact ⟨'"', _, rfl, rfl, by decide⟩
  | array => exact ⟨'[', _, rfl, rfl, by decide⟩
  | object => exact ⟨'\x7b', _, rfl, rfl, by decide⟩

theorem writeItems_eq_map (items : List Value) :
    Value.writeItems items = items.map Value.write := by
  induction items with
  | nil => rfl
  | cons v rest ih => rw [Value.writeItems, ih, List.map_cons]

theorem endsNumber_of_comma {c : Char} (hc : c = ',' ∨ c = ']' ∨ c = '\x7d') (rest : List Char) :
    EndsNumber (c :: rest) := by
  rcases hc with rfl | rfl | rfl <;> exact ⟨by decide, by decide, by decide, by decide⟩

/-- A value that is nested no deeper than its room, with integers of 64 bits as its numbers, is
    read back from what is written for it. -/
theorem readValue_write (h : v.Within Number.IsWhole room) (hrest : EndsNumber rest) :
    readValue room (v.write ++ rest) = .ok (v, rest) := by
  induction h generalizing rest with
  | null => exact (readValue_eq_scalar_iff (v := .null) trivial).2 rfl
  | bool b =>
    cases b with
    | true => exact (readValue_eq_scalar_iff (v := .bool true) trivial).2 rfl
    | false => exact (readValue_eq_scalar_iff (v := .bool false) trivial).2 rfl
  | number hn =>
    obtain ⟨i, rfl, hrange⟩ := hn
    obtain ⟨c, cs, htext, hc⟩ := exists_text_integer i
    have hread := readNumber_eq_integer_iff.2 ⟨rfl, hrest, hrange⟩
    rw [readValue_eq_scalar_iff (v := .number (.integer i)) trivial, Value.write]
    rw [htext, List.cons_append] at hread ⊢
    rw [skipBlanks_cons (not_blank_of_number hc).1, readScalar_of_number hc, hread]
    rfl
  | string s =>
    rw [Value.write, quote_append, readValue_eq_scalar_iff (v := .string s) trivial,
      readScalar_eq_string_iff]
    exact ⟨_, rfl, readString_flatMap s rest⟩
  | @array room items hitems ih =>
    rw [Value.write, writeItems_eq_map, readValue_eq_array_iff]
    refine ⟨joinComma (items.map Value.write) ++ ']' :: rest,
      by simp [skipBlanks, Text.isJsonBlank], ?_⟩
    refine readItems_joinComma (fun v hv => ⟨exists_write (hitems v hv), fun c tail hc => ?_⟩) rest
    exact ih v hv (endsNumber_of_comma (hc.imp_right .inl) tail)
  | @object room entries hentries ih =>
    rw [Value.write, writeEntries_eq_map, readValue_eq_object_iff]
    have hgathers : ∀ e ∈ entries, Gathers (gatherEntry (behindColon (readValue room)))
        (fun e => e.1) (fun e => e.2.write) (fun gathered e => e :: gathered) e := by
      intro e he gathered c tail hc
      have hvalue := ih e he (endsNumber_of_comma (hc.imp_right .inr) tail)
      exact gatherEntry_eq_ok_iff.2 ⟨e.2, behindColon_eq_ok_iff.2 ⟨_, rfl, hvalue⟩, rfl⟩
    have hread := readEntries_joinComma hgathers [] rest
    rw [List.foldl_flip_cons_eq_append, List.map_id_fun', List.append_nil] at hread
    exact ⟨joinComma (entries.map fun e => writeEntry e.1 e.2.write) ++ '\x7d' :: rest,
      by simp [skipBlanks, Text.isJsonBlank], hread⟩

/-- A whole text is read back as the value that it was written for. -/
theorem readWhole_compact_of_within (h : v.Within Number.IsWhole room) :
    readWhole (readValue room) v.compact = .ok v := by
  have hread : readValue room (v.write ++ []) = .ok (v, []) := readValue_write h trivial
  rw [List.append_nil] at hread
  rw [readWhole_eq_ok_iff, Value.compact, String.toList_ofList]
  exact ⟨[], hread, rfl⟩

end Json
end WeblogDesk
