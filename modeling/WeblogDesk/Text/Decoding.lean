/-
  WeblogDesk.Text.Decoding

  Reading bytes as text when they may not be text at all.

  `repair` reads every byte list as UTF-8: each maximal run that begins a character
  and does not finish it, and each byte that can begin none, becomes one U+FFFD.
  `repairUnits` does the same for UTF-16.  `readText` is what a reply's body says
  when it is read as text: a byte order mark in front tells which of them it is.
-/

namespace WeblogDesk
namespace Text

/-- U+FFFD, which stands for what could not be read. -/
def replacement : Char := '\uFFFD'

/-! ## UTF-8 -/

/-- A character that has begun: how many bytes are still due, the range its next
    byte must lie in, and the bits read so far. -/
structure Partial where
  /-- Bytes still due, at least one. -/
  due : Nat
  /-- Least next byte. -/
  low : Nat
  /-- Greatest next byte. -/
  high : Nat
  /-- Bits read so far. -/
  bits : Nat
  deriving DecidableEq, Repr

/-- One byte read where a character may begin. -/
def beginByte (b : Nat) : List Char × Option Partial :=
  if b < 0x80 then ([Char.ofNat b], none)
  else if 0xC2 ≤ b && b ≤ 0xDF then ([], some ⟨1, 0x80, 0xBF, b - 0xC0⟩)
  else if b == 0xE0 then ([], some ⟨2, 0xA0, 0xBF, 0⟩)
  else if b == 0xED then ([], some ⟨2, 0x80, 0x9F, 0xD⟩)
  else if 0xE1 ≤ b && b ≤ 0xEF then ([], some ⟨2, 0x80, 0xBF, b - 0xE0⟩)
  else if b == 0xF0 then ([], some ⟨3, 0x90, 0xBF, 0⟩)
  else if b == 0xF4 then ([], some ⟨3, 0x80, 0x8F, 4⟩)
  else if 0xF1 ≤ b && b ≤ 0xF3 then ([], some ⟨3, 0x80, 0xBF, b - 0xF0⟩)
  else ([replacement], none)

/-- One byte read after a character that may have begun. -/
def stepByte : Option Partial → Nat → List Char × Option Partial
  | none, b => beginByte b
  | some p, b =>
    if p.low ≤ b && b ≤ p.high then
      let bits := p.bits * 64 + (b - 0x80)
      if p.due ≤ 1 then ([Char.ofNat bits], none)
      else ([], some ⟨p.due - 1, 0x80, 0xBF, bits⟩)
    else
      let (out, next) := beginByte b
      (replacement :: out, next)

/-- The characters of the bytes, from a character that may have begun. -/
def repairFrom : Option Partial → List UInt8 → List Char
  | none, [] => []
  | some _, [] => [replacement]
  | p, b :: rest =>
    let (out, next) := stepByte p b.toNat
    out ++ repairFrom next rest

/-- The characters of the bytes, with U+FFFD where they are not UTF-8. -/
def repair (bytes : List UInt8) : List Char :=
  repairFrom none bytes

/-- The bytes without a byte order mark in front. -/
def dropMark : List UInt8 → List UInt8
  | 0xEF :: 0xBB :: 0xBF :: rest => rest
  | bytes => bytes

/-! ## UTF-16 -/

/-- Whether a unit is the first half of a pair. -/
def isLead (u : Nat) : Bool := 0xD800 ≤ u && u ≤ 0xDBFF

/-- Whether a unit is the second half of a pair. -/
def isTrail (u : Nat) : Bool := 0xDC00 ≤ u && u ≤ 0xDFFF

/-- One unit read where a character may begin. -/
def beginUnit (u : Nat) : List Char × Option Nat :=
  if isLead u then ([], some u)
  else if isTrail u then ([replacement], none)
  else ([Char.ofNat u], none)

/-- One unit read behind the first half of a pair, if there is one. -/
def stepUnit : Option Nat → Nat → List Char × Option Nat
  | none, u => beginUnit u
  | some lead, u =>
    if isTrail u then ([Char.ofNat (0x10000 + (lead - 0xD800) * 0x400 + (u - 0xDC00))], none)
    else
      let (out, next) := beginUnit u
      (replacement :: out, next)

/-- The characters of units of two bytes each, behind the first half of a pair if there is one.
    What is left unfinished at the end is one U+FFFD. -/
def repairUnits (unit : UInt8 → UInt8 → Nat) : Option Nat → List UInt8 → List Char
  | p, a :: b :: rest =>
    let (out, next) := stepUnit p (unit a b)
    out ++ repairUnits unit next rest
  | none, [] => []
  | _, _ => [replacement]

/-- The unit of two bytes, the least significant one first. -/
def littleUnit (a b : UInt8) : Nat := b.toNat * 256 + a.toNat

/-- The unit of two bytes, the most significant one first. -/
def bigUnit (a b : UInt8) : Nat := a.toNat * 256 + b.toNat

/-! ## Bodies -/

/-- The characters of bytes, by the byte order mark in front. -/
def decodeMarked : List UInt8 → List Char
  | 0xFF :: 0xFE :: rest => repairUnits littleUnit none rest
  | 0xFE :: 0xFF :: rest => repairUnits bigUnit none rest
  | bytes => repair (dropMark bytes)

/-- A body read as text.  Without a byte order mark it is assumed to be UTF-8; another encoding
    that the headers of its reply may name is not followed. -/
def readText (body : ByteArray) : String :=
  String.ofList (decodeMarked body.data.toList)

end Text
end WeblogDesk
