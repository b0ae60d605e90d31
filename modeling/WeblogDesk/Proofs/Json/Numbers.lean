/-
  WeblogDesk.Proofs.Json.Numbers

  Integers that are written and integers that are read.

  Digits without a leading zero are the digits of the number that they give
  (`toDigits_ofDigitChars`), so an integer of 64 bits has one text: a number is read
  as an integer exactly where this text stands (`readNumber_eq_integer_iff`).  All
  other numbers are read as doubles, `-0` among them.
-/

import Mathlib.Algebra.Group.Int.Defs
import Mathlib.Data.List.Induction
import Mathlib.Data.List.TakeWhile
import WeblogDesk.Json.Reader

namespace WeblogDesk
namespace Json

/-! ## Digits -/

theorem digitValue_lt {c : Char} (h : c.isDigit = true) : digitValue c < 10 := by
  have hrange := Char.isDigit_iff_toNat.1 h
  simp only [Char.reduceToNat] at hrange
  simp only [digitValue, Char.reduceToNat]
  omega

theorem digitChar_digitValue {c : Char} (h : c.isDigit = true) : (digitValue c).digitChar = c := by
  have hrange := Char.isDigit_iff_toNat.1 h
  simp only [Char.reduceToNat] at hrange
  refine Char.toNat_inj.1 ?_
  rw [Nat.toNat_digitChar_of_lt_ten (digitValue_lt h)]
  simp only [digitValue, Char.reduceToNat]
  omega

theorem ofDigitChars_cons_digitValue (start : Nat) (c : Char) (cs : List Char) :
    Nat.ofDigitChars 10 (c :: cs) start = Nat.ofDigitChars 10 cs (start * 10 + digitValue c) := by
  rw [Nat.ofDigitChars_cons, Nat.mul_comm, digitValue]

theorem le_ofDigitChars (start : Nat) (cs : List Char) : start ≤ Nat.ofDigitChars 10 cs start := by
  induction cs generalizing start with
  | nil => exact Nat.le_of_eq Nat.ofDigitChars_nil.symm
  | cons c cs ih =>
    have hnext := ih (start * 10 + digitValue c)
    rw [ofDigitChars_cons_digitValue]
    omega

/-- Digits without a leading zero are those of the number that they give. -/
theorem toDigits_ofDigitChars {d : Char} {ds : List Char}
    (hdigits : ∀ c ∈ d :: ds, c.isDigit = true)
    (hzero : d = '0' → ds = []) : Nat.toDigits 10 (Nat.ofDigitChars 10 (d :: ds) 0) = d :: ds := by
  induction ds using List.reverseRecOn with
  | nil =>
    have hd := hdigits d List.mem_cons_self
    rw [ofDigitChars_cons_digitValue, Nat.ofDigitChars_nil, Nat.zero_mul, Nat.zero_add,
      Nat.toDigits_of_lt_base (digitValue_lt hd), digitChar_digitValue hd]
  | append_singleton ds c ih =>
    have hd : d ≠ '0' := fun h => by simpa using hzero h
    have hc : c.isDigit = true := hdigits c (by simp)
    have hfront := ih (fun a ha => hdigits a (by simp at ha ⊢; tauto)) fun h => absurd h hd
    -- the digits in front give a number that is not zero
    have hpos : 0 < Nat.ofDigitChars 10 (d :: ds) 0 := by
      refine Nat.pos_of_ne_zero fun hnone => ?_
      rw [hnone, Nat.toDigits_zero] at hfront
      exact hd (List.cons.inj hfront).1.symm
    have hvalue : Nat.ofDigitChars 10 (d :: (ds ++ [c])) 0 =
        10 * Nat.ofDigitChars 10 (d :: ds) 0 + digitValue c := by
      rw [← List.cons_append, Nat.ofDigitChars_append, ofDigitChars_cons_digitValue,
        Nat.ofDigitChars_nil, Nat.mul_comm]
    rw [hvalue, ← Nat.toDigits_append_toDigits (by decide) hpos (digitValue_lt hc), hfront,
      Nat.toDigits_of_lt_base (digitValue_lt hc), digitChar_digitValue hc]
    rfl

/-- The digits of a number have no leading zero, unless they are the digit zero. -/
theorem eq_nil_of_toDigits {n : Nat} {ds : List Char} (h : Nat.toDigits 10 n = '0' :: ds) :
    ds = [] := by
  induction n using Nat.strongRecOn generalizing ds with
  | ind n ih =>
    rcases Nat.lt_or_ge n 10 with hlt | hge
    · rw [Nat.toDigits_of_lt_base hlt] at h
      exact (List.cons.inj h).2.symm
    · rw [Nat.toDigits_of_base_le (by decide) hge] at h
      cases hfront : Nat.toDigits 10 (n / 10) with
      | nil => exact absurd hfront Nat.toDigits_ne_nil
      | cons c cs =>
        rw [hfront] at h
        obtain ⟨rfl, -⟩ := List.cons.inj h
        have hcs := ih (n / 10) (by omega) hfront
        -- what is left is the digit zero, and then the number is below ten
        subst hcs
        have hvalue := congrArg (Nat.ofDigitChars 10 · 0) hfront
        simp only [Nat.ofDigitChars_ten_toDigits] at hvalue
        have hnone : Nat.ofDigitChars 10 ['0'] 0 = 0 := rfl
        omega

theorem isDigit_of_mem_toDigits {n : Nat} : ∀ c ∈ Nat.toDigits 10 n, c.isDigit = true :=
  fun _ hc => Nat.isDigit_of_mem_toDigits (by decide) (by decide) hc

/-- The digits of a number begin with a digit. -/
theorem exists_toDigits (n : Nat) :
    ∃ d more, Nat.toDigits 10 n = d :: more ∧ d.isDigit = true := by
  cases hdigits : Nat.toDigits 10 n with
  | nil => exact absurd hdigits Nat.toDigits_ne_nil
  | cons d more =>
    exact ⟨d, more, rfl, isDigit_of_mem_toDigits d (hdigits ▸ List.mem_cons_self)⟩

/-! ## Whole numbers -/

/-- Whether a text goes on with nothing that belongs to a whole number in front of it. -/
def EndsNumber : List Char → Prop
  | [] => True
  | c :: _ => c.isDigit = false ∧ c ≠ '.' ∧ c ≠ 'e' ∧ c ≠ 'E'

theorem takeWhile_append_of_ends {digits rest : List Char}
    (hdigits : ∀ c ∈ digits, c.isDigit = true)
    (hrest : EndsNumber rest) : (digits ++ rest).takeWhile Char.isDigit = digits := by
  rw [List.takeWhile_append_of_pos hdigits]
  cases rest with
  | nil => simp
  | cons c rest => rw [List.takeWhile_cons_of_neg (by simp [hrest.1]), List.append_nil]

theorem dropWhile_append_of_ends {digits rest : List Char}
    (hdigits : ∀ c ∈ digits, c.isDigit = true)
    (hrest : EndsNumber rest) : (digits ++ rest).dropWhile Char.isDigit = rest := by
  rw [List.dropWhile_append_of_pos hdigits]
  cases rest with
  | nil => rfl
  | cons c rest => rw [List.dropWhile_cons_of_neg (by simp [hrest.1])]

/-- Digits that all fit are all used. -/
theorem significandFrom_eq {start : Nat} {digits : List Char}
    (h : Nat.ofDigitChars 10 digits start ≤ maxUnsigned) :
    significandFrom start digits = (Nat.ofDigitChars 10 digits start, digits.length, []) := by
  induction digits generalizing start with
  | nil => rw [significandFrom, Nat.ofDigitChars_nil]; rfl
  | cons c cs ih =>
    rw [ofDigitChars_cons_digitValue] at h ⊢
    have hnext := Nat.le_trans (le_ofDigitChars _ cs) h
    rw [significandFrom, if_neg (by omega), ih h]
    rfl

/-- If all digits are used, they fit. -/
theorem significandFrom_of_left_nil {start m used : Nat} {digits : List Char}
    (hstart : start ≤ maxUnsigned) (h : significandFrom start digits = (m, used, [])) :
    m = Nat.ofDigitChars 10 digits start ∧ m ≤ maxUnsigned := by
  induction digits generalizing start used with
  | nil =>
    cases h
    exact ⟨(Nat.ofDigitChars_nil).symm, hstart⟩
  | cons c cs ih =>
    rw [ofDigitChars_cons_digitValue]
    rw [significandFrom] at h
    dsimp only at h
    split at h
    · cases h
    · next hfits =>
      cases hrest : significandFrom (start * 10 + digitValue c) cs with
      | mk m' more =>
        obtain ⟨used', left⟩ := more
        rw [hrest] at h
        cases h
        exact ih (Nat.not_lt.1 hfits) hrest

/-! ### Doubles -/

variable {negative : Bool} {significand : Nat} {power n : Int} {s rest : List Char}

theorem finishDouble_ne : finishDouble negative significand power s ≠ .ok (.integer n, rest) := by
  unfold finishDouble
  split <;> simp

theorem readExponent_ne : readExponent negative significand power s ≠ .ok (.integer n, rest) := by
  unfold readExponent
  intro h
  dsimp only at h
  split at h
  · cases h
  · split at h
    · cases h
    · -- with a plus, with a minus, and without a sign
      split at h
      all_goals
        split at h
        · split at h <;> cases h
        · exact finishDouble_ne h

theorem readFraction_ne : readFraction negative significand power s ≠ .ok (.integer n, rest) := by
  unfold readFraction readPower
  intro h
  dsimp only at h
  split at h
  · cases h
  · split at h
    · exact readExponent_ne h
    · exact readExponent_ne h
    · exact finishDouble_ne h

/-! ### Integers -/

/-- What is left behind digits begins with none. -/
theorem isDigit_of_dropWhile {c : Char} {tail : List Char}
    (h : s.dropWhile Char.isDigit = c :: tail) : c.isDigit = false := by
  have hhead := List.head?_dropWhile_not Char.isDigit s
  rw [h] at hhead
  simpa using hhead

/-- What is read as a whole number are the digits of a number that fits. -/
theorem exists_of_readUnsigned (h : readUnsigned negative s = .ok (.integer n, rest)) :
    ∃ m, s = Nat.toDigits 10 m ++ rest ∧ EndsNumber rest ∧ m ≤ maxUnsigned ∧
      wholeNumber negative m = .integer n := by
  unfold readUnsigned at h
  have hsplit : s.takeWhile Char.isDigit ++ s.dropWhile Char.isDigit = s :=
    List.takeWhile_append_dropWhile
  have hdigits : ∀ c ∈ s.takeWhile Char.isDigit, c.isDigit = true := fun c hc =>
    List.mem_takeWhile_imp hc
  cases htake : s.takeWhile Char.isDigit with
  | nil =>
    rw [htake] at h
    cases h
  | cons d more =>
    rw [htake] at h hsplit hdigits
    dsimp only at h
    split at h
    · cases h
    · next hzero =>
      cases hsignificand : significandFrom 0 (d :: more) with
      | mk m found =>
        obtain ⟨used, left⟩ := found
        rw [hsignificand] at h
        dsimp only at h
        -- a point or an exponent behind the digits makes a double of them
        split at h
        · exact absurd h readFraction_ne
        · exact absurd h readExponent_ne
        · exact absurd h readExponent_ne
        · next hpoint hlower hupper =>
          split at h
          · next hleft =>
            obtain rfl := List.isEmpty_iff.1 hleft
            obtain ⟨hwhole, rfl⟩ := Prod.mk.inj (Except.ok.inj h)
            obtain ⟨rfl, hfits⟩ := significandFrom_of_left_nil (Nat.zero_le _) hsignificand
            have hleading : d = '0' → more = [] := by
              rintro rfl
              simpa using hzero
            refine ⟨_, ?_, ?_, hfits, hwhole⟩
            · rw [toDigits_ofDigitChars hdigits hleading, hsplit]
            · cases hrest : s.dropWhile Char.isDigit with
              | nil => trivial
              | cons c tail =>
                refine ⟨isDigit_of_dropWhile hrest, ?_, ?_, ?_⟩ <;> rintro rfl
                · exact hpoint tail hrest
                · exact hlower tail hrest
                · exact hupper tail hrest
          · exact absurd h finishDouble_ne

/-- The digits of a number that fits are read as this number. -/
theorem readUnsigned_toDigits {m : Nat} (hfits : m ≤ maxUnsigned) (hrest : EndsNumber rest) :
    readUnsigned negative (Nat.toDigits 10 m ++ rest) = .ok (wholeNumber negative m, rest) := by
  have hsignificand : significandFrom 0 (Nat.toDigits 10 m) =
      (m, (Nat.toDigits 10 m).length, []) := by
    rw [significandFrom_eq, Nat.ofDigitChars_ten_toDigits]
    rwa [Nat.ofDigitChars_ten_toDigits]
  unfold readUnsigned
  rw [takeWhile_append_of_ends isDigit_of_mem_toDigits hrest,
    dropWhile_append_of_ends isDigit_of_mem_toDigits hrest]
  obtain ⟨d, more, hm, -⟩ := exists_toDigits m
  have hzero : ¬(d == '0' && !more.isEmpty) = true := by
    intro hleading
    obtain ⟨hd, hmore⟩ := Bool.and_eq_true_iff.1 hleading
    rw [beq_iff_eq.1 hd] at hm
    rw [eq_nil_of_toDigits hm] at hmore
    cases hmore
  rw [hm] at hsignificand ⊢
  dsimp only
  rw [if_neg hzero, hsignificand]
  dsimp only
  split
  · exact absurd rfl hrest.2.1
  · exact absurd rfl hrest.2.2.1
  · exact absurd rfl hrest.2.2.2
  · rfl

/-- Digits are read as a whole number if they are those of a number that fits, and nothing that
    follows belongs to it. -/
theorem readUnsigned_eq_integer_iff :
    readUnsigned negative s = .ok (.integer n, rest) ↔
      ∃ m, s = Nat.toDigits 10 m ++ rest ∧ EndsNumber rest ∧ m ≤ maxUnsigned ∧
        wholeNumber negative m = .integer n := by
  refine ⟨exists_of_readUnsigned, ?_⟩
  rintro ⟨m, rfl, hrest, hfits, hwhole⟩
  rw [readUnsigned_toDigits hfits hrest, hwhole]

theorem wholeNumber_false_eq_iff {m : Nat} : wholeNumber false m = .integer n ↔ n = m := by
  rw [wholeNumber, if_pos (by decide), Number.integer.injEq, eq_comm]

theorem wholeNumber_true_eq_iff {m : Nat} :
    wholeNumber true m = .integer n ↔ m ≠ 0 ∧ m ≤ maxNegative ∧ n = -(m : Int) := by
  rw [wholeNumber, if_neg (by decide)]
  split
  · next hnone =>
    refine iff_of_false nofun fun h => ?_
    simp at hnone
    omega
  · next hsome =>
    simp at hsome
    rw [Number.integer.injEq, eq_comm]
    exact ⟨fun h => ⟨hsome.1, hsome.2, h⟩, fun h => h.2.2⟩

theorem Number.text_integer (n : Int) :
    (Number.integer n).text =
      if 0 ≤ n then Nat.toDigits 10 n.toNat else '-' :: Nat.toDigits 10 (-n).toNat := by
  rw [text, Int.toString_eq_repr, Int.repr_eq_if]
  split <;> simp

/-- A number is read as an integer exactly if it has 64 bits and stands there as it is written,
    with nothing behind it that belongs to a number. -/
theorem readNumber_eq_integer_iff :
    readNumber s = .ok (.integer n, rest) ↔
      s = (Number.integer n).text ++ rest ∧ EndsNumber rest ∧ -2 ^ 63 ≤ n ∧ n < 2 ^ 64 := by
  have hunsigned : maxUnsigned = 2 ^ 64 - 1 := rfl
  have hnegative : maxNegative = 2 ^ 63 := rfl
  rw [Number.text_integer]
  constructor
  · intro h
    unfold readNumber at h
    split at h
    · obtain ⟨m, rfl, hrest, hfits, hwhole⟩ := readUnsigned_eq_integer_iff.1 h
      obtain ⟨hm, hbound, rfl⟩ := wholeNumber_true_eq_iff.1 hwhole
      have hsign : ¬0 ≤ -(m : Int) := by omega
      refine ⟨?_, hrest, by omega, by omega⟩
      rw [if_neg hsign, Int.neg_neg, Int.toNat_natCast, List.cons_append]
    · obtain ⟨m, rfl, hrest, hfits, hwhole⟩ := readUnsigned_eq_integer_iff.1 h
      obtain rfl := wholeNumber_false_eq_iff.1 hwhole
      refine ⟨?_, hrest, by omega, by omega⟩
      rw [if_pos (by omega), Int.toNat_natCast]
  · rintro ⟨rfl, hrest, hlow, hhigh⟩
    unfold readNumber
    split
    · next hminus =>
      split at hminus
      · -- digits are no minus sign
        obtain ⟨d, more, hdigits, hdigit⟩ := exists_toDigits n.toNat
        rw [hdigits] at hminus
        obtain ⟨rfl, -⟩ := List.cons.inj hminus
        cases hdigit
      · obtain ⟨-, rfl⟩ := List.cons.inj hminus
        refine readUnsigned_eq_integer_iff.2 ⟨(-n).toNat, rfl, hrest, by omega, ?_⟩
        exact wholeNumber_true_eq_iff.2 ⟨by omega, by omega, by omega⟩
    · next hminus =>
      split at hminus
      · next hsign =>
        rw [if_pos hsign]
        refine readUnsigned_eq_integer_iff.2 ⟨n.toNat, rfl, hrest, by omega, ?_⟩
        exact wholeNumber_false_eq_iff.2 (by omega)
      · exact absurd rfl (hminus _)

end Json
end WeblogDesk
