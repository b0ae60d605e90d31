/-
  WeblogDesk.Proofs.Json.Objects

  Objects that are written are read back.

  `readEntries_joinComma` reads the entries of an object that was written
  without blanks.  How a value is written and what is gathered from it are
  parameters: all it asks for is that a value is read up to the comma or the brace
  behind it.
-/

import WeblogDesk.Proofs.Json.Strings

namespace WeblogDesk
namespace Json

/-! ## Parts between commas -/

theorem joinComma_cons (part : List Char) (rest : List (List Char)) :
    joinComma (part :: rest) = part ++ rest.flatMap (',' :: ·) := by
  induction rest generalizing part with
  | nil => simp [joinComma]
  | cons next rest ih =>
    show part ++ ',' :: joinComma (next :: rest) = _
    rw [ih, List.flatMap_cons]
    rfl

theorem length_le_flatMap (parts : List (List Char)) :
    parts.length ≤ (parts.flatMap (',' :: ·)).length := by
  induction parts with
  | nil => exact Nat.le_refl _
  | cons part rest ih =>
    rw [List.flatMap_cons, List.length_append, List.length_cons, List.length_cons]
    omega

theorem writeEntries_eq_map (entries : List (String × Value)) :
    Value.writeEntries entries = entries.map fun e => writeEntry e.1 e.2.write := by
  induction entries with
  | nil => rfl
  | cons e rest ih =>
    rw [Value.writeEntries, ih]
    rfl

/-! ## Entries -/

theorem writeEntry_append (key : String) (value rest : List Char) :
    writeEntry key value ++ rest =
      '"' :: (key.toList.flatMap escapeChar ++ '"' :: ':' :: (value ++ rest)) := by
  rw [writeEntry, List.append_assoc, quote_append]
  rfl

variable {σ ε : Type} {step : σ → String → Reader σ} {key : ε → String} {value : ε → List Char}
  {gather : σ → ε → σ}

/-- Whether an entry is gathered from its text, up to the comma or brace behind it. -/
def Gathers (step : σ → String → Reader σ) (key : ε → String) (value : ε → List Char)
    (gather : σ → ε → σ) (e : ε) : Prop :=
  ∀ s c rest, c = ',' ∨ c = '\x7d' →
    step s (key e) (':' :: (value e ++ c :: rest)) = .ok (gather s e, c :: rest)

/-- The first entry is read from behind the brace. -/
theorem readEntriesFrom_first {e : ε} (h : Gathers step key value gather e) (fuel : Nat) (s : σ)
    {c : Char} (hc : c = ',' ∨ c = '\x7d') (rest : List Char) :
    readEntriesFrom step (fuel + 1) true s (writeEntry (key e) (value e) ++ c :: rest) =
      readEntriesFrom step fuel false (gather s e) (c :: rest) := by
  have hgather := h s c rest hc
  rw [writeEntry_append, readEntriesFrom.eq_def]
  simp [skipBlanks, Text.isJsonBlank, readString_flatMap, hgather]

/-- Every other entry is read from behind its comma. -/
theorem readEntriesFrom_next {e : ε} (h : Gathers step key value gather e) (fuel : Nat) (s : σ)
    {c : Char} (hc : c = ',' ∨ c = '\x7d') (rest : List Char) :
    readEntriesFrom step (fuel + 1) false s (',' :: (writeEntry (key e) (value e) ++ c :: rest)) =
      readEntriesFrom step fuel false (gather s e) (c :: rest) := by
  have hgather := h s c rest hc
  rw [writeEntry_append, readEntriesFrom.eq_def]
  simp [skipBlanks, Text.isJsonBlank, readString_flatMap, hgather]

/-- What follows an entry begins with a comma or with the closing brace. -/
theorem exists_flatMap_append (parts : List (List Char)) (rest : List Char) :
    ∃ c tail, (c = ',' ∨ c = '\x7d') ∧ parts.flatMap (',' :: ·) ++ '\x7d' :: rest = c :: tail := by
  cases parts with
  | nil => exact ⟨'\x7d', rest, .inr rfl, rfl⟩
  | cons part parts => exact ⟨',', _, .inl rfl, rfl⟩

/-- The entries behind the first one are read up to the closing brace. -/
theorem readEntriesFrom_flatMap {es : List ε} (h : ∀ e ∈ es, Gathers step key value gather e)
    {fuel : Nat} (hfuel : es.length < fuel) (s : σ) (rest : List Char) :
    readEntriesFrom step fuel false s
        ((es.map fun e => writeEntry (key e) (value e)).flatMap (',' :: ·) ++ '\x7d' :: rest) =
      .ok (es.foldl gather s, rest) := by
  -- one step for each entry, and one for the brace
  induction es generalizing fuel s with
  | nil =>
    obtain ⟨fuel, rfl⟩ := Nat.exists_eq_add_one_of_ne_zero (Nat.ne_zero_of_lt hfuel)
    rfl
  | cons e es ih =>
    obtain ⟨fuel, rfl⟩ := Nat.exists_eq_add_one_of_ne_zero (Nat.ne_zero_of_lt hfuel)
    rw [List.length_cons] at hfuel
    obtain ⟨c, tail, hc, htail⟩ :=
      exists_flatMap_append (es.map fun e => writeEntry (key e) (value e)) rest
    have hrest := ih (fun a ha => h a (List.mem_cons_of_mem _ ha))
      (show es.length < fuel by omega) (gather s e)
    rw [htail] at hrest
    rw [List.map_cons, List.flatMap_cons, List.cons_append, List.cons_append, List.append_assoc,
      htail, readEntriesFrom_next (h e List.mem_cons_self) fuel s hc, hrest]
    rfl

/-- The entries of an object are read back from behind its brace. -/
theorem readEntries_joinComma {es : List ε} (h : ∀ e ∈ es, Gathers step key value gather e)
    (s : σ) (rest : List Char) :
    readEntries step s
        (joinComma (es.map fun e => writeEntry (key e) (value e)) ++ '\x7d' :: rest) =
      .ok (es.foldl gather s, rest) := by
  rw [readEntries]
  cases es with
  | nil => rfl
  | cons e es =>
    have hcount := length_le_flatMap (es.map fun e => writeEntry (key e) (value e))
    obtain ⟨c, tail, hc, htail⟩ :=
      exists_flatMap_append (es.map fun e => writeEntry (key e) (value e)) rest
    rw [List.map_cons, joinComma_cons, List.append_assoc]
    -- each entry takes a character, so the length of the text is fuel enough
    have hfuel : es.length <
        (writeEntry (key e) (value e) ++
          ((es.map fun e => writeEntry (key e) (value e)).flatMap (',' :: ·) ++
            '\x7d' :: rest)).length := by
      simp only [List.length_append, List.length_cons, List.length_map] at hcount ⊢
      omega
    have hrest := readEntriesFrom_flatMap (fun a ha => h a (List.mem_cons_of_mem _ ha)) hfuel
      (gather s e) rest
    rw [htail] at hrest ⊢
    rw [readEntriesFrom_first (h e List.mem_cons_self) _ s hc, hrest]
    rfl

end Json
end WeblogDesk
