/-
  WeblogDesk.Proofs.Json.Strings

  Strings that are written are read back.

  A character is written as itself or as an escape, and `readStringTail` reads
  either back, whatever follows: `readStringTail_escapeChar`.  So every string in
  quotes is read back, with the rest of the text left over.
-/

import WeblogDesk.Json.Reader

namespace WeblogDesk
namespace Json

open Text

/-! ## Escapes -/

/-- Characters that belong to an escape are passed over. -/
theorem readStringTail_skip (used rest : List Char) :
    readStringTail used.length (used ++ rest) = readStringTail 0 rest := by
  induction used with
  | nil => rfl
  | cons c used ih =>
    rw [List.length_cons, List.cons_append, readStringTail]
    exact ih

/-- An escape is read as the character it stands for. -/
theorem readStringTail_escape (used : List Char) {c : Char} {rest : List Char}
    (h : readEscape (used ++ rest) = .ok (c, used.length)) :
    readStringTail 0 ('\\' :: (used ++ rest)) =
      (readStringTail 0 rest).map fun r => (c :: r.1, r.2) := by
  rw [readStringTail, h]
  simp only [readStringTail_skip]
  cases readStringTail 0 rest <;> rfl

theorem readStringTail_plain {c : Char} (hquote : c ≠ '"') (hslash : c ≠ '\\')
    (hcontrol : ¬c.toNat < 0x20) (rest : List Char) :
    readStringTail 0 (c :: rest) = (readStringTail 0 rest).map fun r => (c :: r.1, r.2) := by
  rw [readStringTail]
  · rw [if_neg hcontrol]
    cases readStringTail 0 rest <;> rfl
  · exact hquote
  · exact hslash

theorem utf8Size_lowerHex {n : Nat} (h : n < 16) : (lowerHex n).utf8Size = 1 := by
  revert n
  decide

/-- Four digits are read as the number that they write. -/
theorem readUnit_lowerHex {a b c d : Nat} (ha : a < 16) (hb : b < 16) (hc : c < 16) (hd : d < 16)
    (rest : List Char) :
    readUnit (lowerHex a :: lowerHex b :: lowerHex c :: lowerHex d :: rest) =
      .ok (((a * 16 + b) * 16 + c) * 16 + d) := by
  -- four digits are four bytes, so the text is long enough
  simp [readUnit, utf8Size_lowerHex, hexValue?_lowerHex, ha, hb, hc, hd]

/-- A control character is read from its number. -/
theorem readEscape_control {c : Char} (h : c.toNat < 0x20) (rest : List Char) :
    readEscape
        (['u', '0', '0', lowerHex (c.toNat / 16), lowerHex (c.toNat % 16)] ++ rest) =
      .ok (c, 5) := by
  have hunit :
      readUnit ('0' :: '0' :: lowerHex (c.toNat / 16) :: lowerHex (c.toNat % 16) :: rest) =
        .ok c.toNat := by
    have hdigits := readUnit_lowerHex (a := 0) (b := 0) (c := c.toNat / 16) (d := c.toNat % 16)
      (by omega) (by omega) (by omega) (by omega) rest
    have hvalue : ((0 * 16 + 0) * 16 + c.toNat / 16) * 16 + c.toNat % 16 = c.toNat := by omega
    rw [hvalue] at hdigits
    exact hdigits
  -- a control character is no half of a pair
  have hlow : ¬(0xDC00 ≤ c.toNat ∧ c.toNat ≤ 0xDFFF) := by omega
  have hhigh : c.toNat < 0xD800 := by omega
  simp only [List.cons_append, List.nil_append, readEscape, hunit]
  simp [hlow, hhigh]

/-! ## Strings -/

/-- A character is read back from what is written for it. -/
theorem readStringTail_escapeChar (c : Char) (rest : List Char) :
    readStringTail 0 (escapeChar c ++ rest) =
      (readStringTail 0 rest).map fun r => (c :: r.1, r.2) := by
  unfold escapeChar
  simp only [beq_iff_eq]
  -- first the characters with an escape of their own, then controls, then the others
  split
  · subst c
    exact readStringTail_escape ['"'] rfl
  split
  · subst c
    exact readStringTail_escape ['\\'] rfl
  split
  · subst c
    exact readStringTail_escape ['b'] rfl
  split
  · subst c
    exact readStringTail_escape ['f'] rfl
  split
  · subst c
    exact readStringTail_escape ['n'] rfl
  split
  · subst c
    exact readStringTail_escape ['r'] rfl
  split
  · subst c
    exact readStringTail_escape ['t'] rfl
  split
  · rename_i hcontrol
    exact readStringTail_escape _ (readEscape_control hcontrol rest)
  · rename_i hquote hslash _ _ _ _ _ hcontrol
    exact readStringTail_plain hquote hslash hcontrol rest

/-- Characters are read back up to the closing quote. -/
theorem readStringTail_flatMap (cs rest : List Char) :
    readStringTail 0 (cs.flatMap escapeChar ++ '"' :: rest) = .ok (cs, rest) := by
  induction cs with
  | nil => rfl
  | cons c cs ih =>
    rw [List.flatMap_cons, List.append_assoc, readStringTail_escapeChar, ih]
    rfl

theorem quote_append (s : String) (rest : List Char) :
    quote s ++ rest = '"' :: (s.toList.flatMap escapeChar ++ '"' :: rest) := by
  simp [quote]

/-- A string is shorter than its text: an escape takes up more than the character it stands for, and
    the closing quote belongs to the text. -/
theorem length_of_readStringTail {skip : Nat} {s cs rest : List Char}
    (h : readStringTail skip s = .ok (cs, rest)) : cs.length + rest.length < s.length := by
  fun_induction readStringTail skip s generalizing cs rest with
  | case1 => cases h
  | case2 skip c left ih => exact Nat.lt_succ_of_lt (ih h)
  | case3 left =>
    cases h
    simp
  | case4 left f hescape => cases h
  | case5 left c used hescape f hread ih => cases h
  | case6 left c used hescape tail after hread ih =>
    cases h
    have hshorter := ih hread
    simp only [List.length_cons]
    omega
  | case7 => cases h
  | case8 => cases h
  | case9 c left _ _ _ tail after hread ih =>
    cases h
    have hshorter := ih hread
    simp only [List.length_cons]
    omega

theorem readString_flatMap (s : String) (rest : List Char) :
    readString (s.toList.flatMap escapeChar ++ '"' :: rest) = .ok (s, rest) := by
  rw [readString, readStringTail_flatMap]
  simp only [String.ofList_toList]

end Json
end WeblogDesk
