/-
  WeblogDesk.Proofs.Url.Blanks

  Blanks at the end of a text that goes on.

  Blanks around a URL are no part of it, and where a text ends in blanks they are
  no longer at its end when it goes on: `clean_append` says what is read then.
  They are neither part of an encoding (`decode_concat`) nor of a segment that is
  just dots (`ofText_append`), so they stay where they are put.
-/

import Mathlib.Data.List.DropRight
import WeblogDesk.Proofs.Url.Encoding
import WeblogDesk.Url.Parser

namespace WeblogDesk
namespace Url

open Url.Path

/-! ## Blanks -/

/-- Blanks and controls, which count for nothing around a URL. -/
def isOutside (c : Char) : Bool :=
  c.toNat ≤ 0x20

/-- What holds of all codes up to that of the blank holds of all blanks. -/
theorem forall_isOutside {p : Char → Prop} (h : ∀ n < 33, p (Char.ofNat n)) {c : Char}
    (hc : isOutside c = true) : p c := by
  have hcode : c.toNat < 33 := by
    have hbound : c.toNat ≤ 0x20 := by simpa [isOutside] using hc
    omega
  simpa using h c.toNat hcode

theorem ne_of_isOutside {c d : Char} (hc : isOutside c = true) (hd : isOutside d = false) :
    c ≠ d := by
  rintro rfl
  rw [hc] at hd
  cases hd

/-- The characters that no URL holds are blanks. -/
theorem isDropped_eq_false {c : Char} (h : isOutside c = false) : Path.isDropped c = false := by
  rw [Path.isDropped, Bool.or_eq_false_iff, Bool.or_eq_false_iff]
  refine ⟨⟨?_, ?_⟩, ?_⟩ <;> rw [beq_eq_false_iff_ne] <;> rintro rfl <;> exact absurd h (by decide)

/-! ## Blanks at the end of a text -/

/-- The blanks and controls at the end of a text, without the characters that no URL
    holds. -/
def trailing (s : List Char) : List Char :=
  ((s.dropWhile isOutside).rtakeWhile isOutside).filter (!Path.isDropped ·)

theorem clean_eq (s : List Char) :
    clean s = ((s.dropWhile isOutside).rdropWhile isOutside).filter (!Path.isDropped ·) := rfl

theorem mem_trailing {s : List Char} {c : Char} (h : c ∈ trailing s) :
    isOutside c = true ∧ Path.isDropped c = false := by
  obtain ⟨hmem, hkept⟩ := List.mem_filter.1 h
  exact ⟨List.mem_rtakeWhile_imp hmem, by simpa using hkept⟩

/-- The text from where its URL begins. -/
theorem clean_append_trailing (s : List Char) :
    clean s ++ trailing s = (s.dropWhile isOutside).filter (!Path.isDropped ·) := by
  rw [clean_eq, trailing, ← List.filter_append, List.rdropWhile_append_rtakeWhile]

/-- A URL ends in a character that is no blank. -/
theorem exists_getLast?_clean {s : List Char} (h : clean s ≠ []) :
    ∃ c, (clean s).getLast? = some c ∧ isOutside c = false := by
  have hne : (s.dropWhile isOutside).rdropWhile isOutside ≠ [] := by
    intro hnil
    exact h (by rw [clean_eq, hnil, List.filter_nil])
  have hlast := List.rdropWhile_last_not isOutside (s.dropWhile isOutside) hne
  generalize hc : ((s.dropWhile isOutside).rdropWhile isOutside).getLast hne = c at hlast
  have hcount : isOutside c = false := Bool.eq_false_iff.2 hlast
  have hkept : [c].filter (!Path.isDropped ·) = [c] := by
    simp [isDropped_eq_false hcount]
  refine ⟨c, ?_, hcount⟩
  rw [clean_eq, ← List.dropLast_append_getLast hne, hc, List.filter_append, hkept,
    List.getLast?_concat]

/-- Blanks at the end of a text stay when it goes on. -/
theorem clean_append {s x : List Char} (h : clean s ≠ []) (hne : x ≠ [])
    (hx : ∀ c ∈ x, isOutside c = false) : clean (s ++ x) = clean s ++ trailing s ++ x := by
  have hs : s.dropWhile isOutside ≠ [] := by
    intro hnil
    exact h (by rw [clean_eq, hnil]; rfl)
  have hdrop : (s ++ x).dropWhile isOutside = s.dropWhile isOutside ++ x := by
    rw [List.dropWhile_append, if_neg (by simpa using hs)]
  have hend : (s.dropWhile isOutside ++ x).rdropWhile isOutside = s.dropWhile isOutside ++ x := by
    rw [List.rdropWhile_eq_self_iff]
    intro _
    rw [List.getLast_append_of_ne_nil _ hne]
    exact Bool.eq_false_iff.1 (hx _ (List.getLast_mem hne))
  have hkept : x.filter (!Path.isDropped ·) = x := by
    rw [List.filter_eq_self]
    intro c hc
    rw [isDropped_eq_false (hx c hc)]
    rfl
  rw [clean_eq, hdrop, hend, List.filter_append, hkept, clean_append_trailing]

/-- Whether a path may go on behind the text: its last character, those aside that no URL
    holds, is no blank and no slash of either kind. -/
def EndsPlainly (s : List Char) : Prop :=
  ∃ c, (s.filter (!Path.isDropped ·)).getLast? = some c ∧
    0x20 < c.toNat ∧ c ≠ '/' ∧ c ≠ '\\'

theorem endsPlainly_iff {s : List Char} (h : clean s ≠ []) :
    EndsPlainly s ↔
      trailing s = [] ∧ ∃ c, (clean s).getLast? = some c ∧ isSlash true c = false := by
  obtain ⟨last, hlast, hcount⟩ := exists_getLast?_clean h
  -- what stands before the URL is not at the end
  have hkept : (s.filter (!Path.isDropped ·)).getLast? = (trailing s).getLast?.or (some last) := by
    rw [← List.takeWhile_append_dropWhile (p := isOutside) (l := s), List.filter_append,
      List.takeWhile_append_dropWhile, ← clean_append_trailing, List.getLast?_append,
      List.getLast?_append, hlast]
    simp
  rw [EndsPlainly, hkept, hlast]
  cases htrail : (trailing s).getLast? with
  | none =>
    have hnil : trailing s = [] := List.getLast?_eq_none_iff.1 htrail
    have hbound : 0x20 < last.toNat := by simpa [isOutside] using hcount
    simp [hnil, isSlash, hbound]
  | some c =>
    have hmem : c ∈ trailing s := List.mem_of_getLast? htrail
    have hblank : c.toNat ≤ 0x20 := by simpa [isOutside] using (mem_trailing hmem).1
    refine iff_of_false ?_ ?_
    · rintro ⟨d, hd, hbound, -⟩
      rw [Option.some_or, Option.some_inj] at hd
      subst hd
      omega
    · rintro ⟨hnil, -⟩
      rw [hnil] at hmem
      exact absurd hmem List.not_mem_nil

/-! ## Blanks behind an encoding -/

/-- Blanks are written as they are, also behind half of an encoding. -/
theorem decode_concat {c : Char} (hc : isOutside c = true) (s : List Char) :
    decode (s ++ [c]) = decode s ++ String.utf8EncodeChar c := by
  have hhex : Text.hexValue? c = none :=
    forall_isOutside (p := (Text.hexValue? · = none)) (by decide) hc
  have hbyte (a : Char) : hexByte? a c = none := by
    rw [hexByte?, hhex]
    cases Text.hexValue? a <;> rfl
  fun_induction decode s with
  | case1 a b rest byte hread ih =>
    rw [List.cons_append, List.cons_append, List.cons_append, decode, hread]
    exact congrArg (byte :: ·) ih
  | case2 a b rest hread ih =>
    rw [List.cons_append, List.cons_append, List.cons_append, decode, hread, List.append_assoc]
    exact congrArg (_ ++ ·) ih
  | case3 d rest hnot ih =>
    rw [List.append_assoc, ← ih, List.cons_append]
    by_cases hd : d = '%'
    · -- a percent sign with at most one character behind it
      subst hd
      rcases rest with _ | ⟨a, _ | ⟨b, rest⟩⟩
      · simp [decode]
      · rw [List.cons_append, List.nil_append, decode, hbyte]
      · exact (hnot a b rest rfl rfl).elim
    · exact decode_cons_of_ne hd _
  | case4 =>
    rw [List.nil_append, decode_cons_of_ne (ne_of_isOutside hc rfl), decode, List.append_nil,
      List.nil_append]

namespace Path

/-- What a segment does that is no dots. -/
theorem ofText_eq_down_iff {raw segment : List Char} :
    Step.ofText raw = .down segment ↔
      plainDots raw ≠ ['.'] ∧ plainDots raw ≠ ['.', '.'] ∧ segment = encode pathSet raw := by
  unfold Step.ofText
  split
  · next hdot => simp [hdot]
  · next hdot =>
    split
    · next hdots => simp [hdots]
    · next hdots => simp [hdot, hdots, eq_comm]

/-- Two characters that a text begins with stand before one that is not the second. -/
theorem exists_eq_of_concat_eq_cons {a d c : Char} (hne : c ≠ d) {rest more : List Char}
    (h : rest ++ [c] = a :: d :: more) : ∃ others, rest = a :: d :: others := by
  rcases rest with _ | ⟨first, _ | ⟨second, others⟩⟩
  · simp at h
  · simp [hne] at h
  · simp only [List.cons_append, List.cons.injEq] at h
    exact ⟨others, by rw [h.1, h.2.1]⟩

/-- A blank is no part of an encoded dot. -/
theorem plainDots_concat {c : Char} (hc : isOutside c = true) (s : List Char) :
    plainDots (s ++ [c]) = plainDots s ++ [c] := by
  fun_induction plainDots s with
  | case1 rest ih => exact congrArg ('.' :: ·) ih
  | case2 rest ih => exact congrArg ('.' :: ·) ih
  | case3 d rest hlower hupper ih =>
    rw [List.cons_append, plainDots, ih, List.cons_append]
    · rintro more hd hmore
      obtain ⟨others, hrest⟩ := exists_eq_of_concat_eq_cons (ne_of_isOutside hc rfl) hmore
      exact hlower others hd hrest
    · rintro more hd hmore
      obtain ⟨others, hrest⟩ := exists_eq_of_concat_eq_cons (ne_of_isOutside hc rfl) hmore
      exact hupper others hd hrest
  | case4 => exact plainDots_cons_of_ne (ne_of_isOutside hc rfl) []

/-- A segment that ends in a blank leads down. -/
theorem ofText_append {w : List Char} (hw : ∀ c ∈ w, isOutside c = true) (hne : w ≠ [])
    (raw : List Char) : Step.ofText (raw ++ w) = .down (encode pathSet (raw ++ w)) := by
  have hblank := hw _ (List.getLast_mem hne)
  have hends {dots : List Char} (hdots : dots.getLast? = some '.') :
      plainDots (raw ++ w) ≠ dots := by
    rintro rfl
    rw [← List.dropLast_append_getLast hne, ← List.append_assoc, plainDots_concat hblank,
      List.getLast?_concat, Option.some_inj] at hdots
    exact ne_of_isOutside hblank rfl hdots
  exact ofText_eq_down_iff.2 ⟨hends rfl, hends rfl, rfl⟩

end Path
end Url
end WeblogDesk
