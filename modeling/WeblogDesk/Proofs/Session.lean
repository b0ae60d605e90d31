/-
  WeblogDesk.Proofs.Session

  Which session ids a header can hold, byte by byte.

  A session id is checked as characters, and what a header holds are bytes.  Only
  ASCII characters have bytes below 128, so both see the same controls, and the
  cookie of a session id that passes holds none: no line ends within it.
-/

import WeblogDesk.Proofs.Url.Encoding
import WeblogDesk.Session

namespace WeblogDesk
namespace Session

/-- Whether no header may hold the byte: it is a control, and not the tab. -/
def IsControlByte (b : UInt8) : Prop :=
  b < 0x20 ∧ b ≠ 0x09 ∨ b = 0x7F

/-- Whether a text holds a byte that no header may hold. -/
def HoldsControl (text : String) : Prop :=
  ∃ b ∈ text.toUTF8.data.toList, IsControlByte b

theorem toList_data_toUTF8 (text : String) :
    text.toUTF8.data.toList = text.toList.flatMap String.utf8EncodeChar := by
  rw [String.toUTF8_eq_toByteArray, ← String.utf8Encode_toList]
  exact List.toList_data_toByteArray

theorem utf8EncodeChar_of_lt {c : Char} (h : c.toNat < 128) :
    String.utf8EncodeChar c = [UInt8.ofNat c.toNat] := by
  have hval : c.val.toNat = c.toNat := rfl
  simp only [String.utf8EncodeChar, hval]
  rw [if_pos (by omega)]

theorem isControlByte_iff {b : UInt8} :
    IsControlByte b ↔ b.toNat < 0x20 ∧ b.toNat ≠ 0x09 ∨ b.toNat = 0x7F := by
  rw [IsControlByte, UInt8.lt_iff_toNat_lt, ne_eq, ← UInt8.toNat_inj, ← UInt8.toNat_inj]
  rfl

theorem isHeaderChar_eq_false_iff {c : Char} :
    isHeaderChar c = false ↔ c.toNat < 0x20 ∧ c.toNat ≠ 0x09 ∨ c.toNat = 0x7F := by
  have htab : c = '\t' ↔ c.toNat = 0x09 := by
    constructor
    · rintro rfl
      rfl
    · intro h
      exact Char.toNat_inj.1 h
  simp only [isHeaderChar, Bool.and_eq_false_iff, Bool.or_eq_false_iff, decide_eq_false_iff_not,
    beq_eq_false_iff_ne, bne_eq_false_iff_eq, Nat.not_le, ne_eq, htab]

/-- The controls of a text are the same by its bytes and by its characters. -/
theorem holdsControl_iff {text : String} :
    HoldsControl text ↔ text.toList.all isHeaderChar = false := by
  rw [HoldsControl, toList_data_toUTF8, List.all_eq_false]
  simp only [List.mem_flatMap, isControlByte_iff, Bool.not_eq_true, isHeaderChar_eq_false_iff]
  constructor
  · rintro ⟨b, ⟨c, hc, hb⟩, hcontrol⟩
    -- a byte below 128 is a character of its own
    have hcode : c.toNat = b.toNat := Url.toNat_eq_of_mem_utf8EncodeChar hb (by omega)
    exact ⟨c, hc, hcode ▸ hcontrol⟩
  · rintro ⟨c, hc, hcontrol⟩
    have hbyte := utf8EncodeChar_of_lt (c := c) (by omega)
    refine ⟨UInt8.ofNat c.toNat, ⟨c, hc, hbyte ▸ List.mem_singleton_self _⟩, ?_⟩
    have hsize : c.toNat < 256 := by omega
    have hcode : (UInt8.ofNat c.toNat).toNat = c.toNat := UInt8.toNat_ofNat_of_lt' hsize
    rw [hcode]
    exact hcontrol

/-- A session id makes a cookie unless it holds a control. -/
theorem cookie_eq_ok_iff {id cookie : String} :
    Session.cookie id = .ok cookie ↔ ¬HoldsControl id ∧ cookie = "JSESSIONID=" ++ id := by
  rw [holdsControl_iff, Session.cookie]
  cases id.toList.all isHeaderChar with
  | false => simp
  | true => simp [cookieName, eq_comm]

theorem cookie_eq_error_iff {id : String} {failure : Failure} :
    Session.cookie id = .error failure ↔ HoldsControl id ∧ failure = .config .badCookie := by
  rw [holdsControl_iff, Session.cookie]
  cases id.toList.all isHeaderChar with
  | false => simp [eq_comm]
  | true => simp

/-- The name of the cookie adds no control. -/
theorem not_holdsControl_cookie {id : String} (h : ¬HoldsControl id) :
    ¬HoldsControl ("JSESSIONID=" ++ id) := by
  rw [holdsControl_iff, Bool.not_eq_false] at h ⊢
  have hname : "JSESSIONID=".toList.all isHeaderChar = true := by decide
  rw [String.toList_append, List.all_append, hname, h]
  rfl

end Session
end WeblogDesk
