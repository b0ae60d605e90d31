/-
  WeblogDesk.Json.Reader

  Reading JSON from the front of a text.

  A reader takes the characters that are left and gives what it read with the
  rest, or the first fault.  Strings, numbers and the loops over the members of
  arrays and objects are shared by the readers of values and of the domain's own
  types; those loops count down the length of the text, which no member fails to
  shorten.
-/

import WeblogDesk.Json.Fault
import WeblogDesk.Text.Blank

namespace WeblogDesk
namespace Json

/-- Reads something from the front of the text. -/
abbrev Reader (α : Type) := List Char → Except Fault (α × List Char)

/-- The text from its first character that is not blank. -/
def skipBlanks (s : List Char) : List Char :=
  s.dropWhile Text.isJsonBlank

/-- How many arrays and objects may be open at once. -/
def maxDepth : Nat := 127

/-! ## Words and strings -/

/-- Reads the given characters. -/
def readWord : List Char → List Char → Except Fault (List Char)
  | [], s => .ok s
  | _ :: _, [] => .error .cutShort
  | w :: word, c :: s => if w == c then readWord word s else .error .malformed

/-- The number that four hexadecimal digits at the front give.  With fewer than four
    bytes left the text ends too early, whatever they are. -/
def readUnit (s : List Char) : Except Fault Nat :=
  if (s.take 4).foldl (fun n c => n + c.utf8Size) 0 < 4 then .error .cutShort
  else
    match (s.take 4).map Text.hexValue? with
    | [some a, some b, some c, some d] => .ok (((a * 16 + b) * 16 + c) * 16 + d)
    | _ => .error .malformed

/-- Reads what follows the backslash of an escape: the character it stands for, and how
    many characters it takes up.  Halves of a pair stand only together. -/
def readEscape : List Char → Except Fault (Char × Nat)
  | [] => .error .cutShort
  | '"' :: _ => .ok ('"', 1)
  | '\\' :: _ => .ok ('\\', 1)
  | '/' :: _ => .ok ('/', 1)
  | 'b' :: _ => .ok ('\x08', 1)
  | 'f' :: _ => .ok ('\x0c', 1)
  | 'n' :: _ => .ok ('\n', 1)
  | 'r' :: _ => .ok ('\r', 1)
  | 't' :: _ => .ok ('\t', 1)
  | 'u' :: rest =>
    match readUnit rest with
    | .error f => .error f
    | .ok high =>
      if 0xDC00 ≤ high && high ≤ 0xDFFF then .error .malformed
      else if high < 0xD800 || 0xDBFF < high then .ok (Char.ofNat high, 5)
      else
        match rest.drop 4 with
        | [] => .error .cutShort
        | '\\' :: [] => .error .cutShort
        | '\\' :: 'u' :: tail =>
          match readUnit tail with
          | .error f => .error f
          | .ok low =>
            if low < 0xDC00 || 0xDFFF < low then .error .malformed
            else .ok (Char.ofNat ((high - 0xD800) * 0x400 + (low - 0xDC00) + 0x10000), 11)
        | _ => .error .malformed
  | _ => .error .malformed

/-- Reads a string from behind its opening quote.  The first `skip` characters belong to
    the escape before them. -/
def readStringTail : Nat → List Char → Except Fault (List Char × List Char)
  | _, [] => .error .cutShort
  | skip + 1, _ :: rest => readStringTail skip rest
  | 0, '"' :: rest => .ok ([], rest)
  | 0, '\\' :: rest =>
    match readEscape rest with
    | .error f => .error f
    | .ok (c, used) =>
      match readStringTail used rest with
      | .error f => .error f
      | .ok (cs, tail) => .ok (c :: cs, tail)
  | 0, c :: rest =>
    if c.toNat < 0x20 then .error .malformed
    else
      match readStringTail 0 rest with
      | .error f => .error f
      | .ok (cs, tail) => .ok (c :: cs, tail)

/-- Reads a string from behind its opening quote. -/
def readString : Reader String := fun s =>
  match readStringTail 0 s with
  | .error f => .error f
  | .ok (cs, rest) => .ok (String.ofList cs, rest)

/-! ## Numbers -/

/-- The value of a decimal digit. -/
def digitValue (c : Char) : Nat :=
  c.toNat - '0'.toNat

/-- The greatest unsigned number of 64 bits. -/
def maxUnsigned : Nat := 0xFFFFFFFFFFFFFFFF

/-- The greatest significand within 64 bits that the front digits give, how many
    digits it used, and the digits left over. -/
def significandFrom (start : Nat) : List Char → Nat × Nat × List Char
  | [] => (start, 0, [])
  | c :: cs =>
    let next := start * 10 + digitValue c
    if maxUnsigned < next then (start, 0, c :: cs)
    else
      let (m, used, left) := significandFrom next cs
      (m, used + 1, left)

/-- `significand * 10 ^ power` by one multiplication or division with a power of ten
    that is itself a double, in steps of `10 ^ 308` where the power is smaller.  No
    value beyond all doubles is a number. -/
def scaleByTen (value : Double) (power : Int) : Option Double :=
  if value.mantissa == 0 then some value
  else if 308 < power then none
  else if 0 ≤ power then
    let product := value.mul (Double.powerOfTen power.toNat)
    if product.isFinite then some product else none
  else if -308 ≤ power then some (value.div (Double.powerOfTen (-power).toNat))
  else scaleByTen (value.div (Double.powerOfTen 308)) (power + 308)
termination_by (-power).toNat
decreasing_by omega

/-- The double that a significand and a power of ten give. -/
def finishDouble (negative : Bool) (significand : Nat) (power : Int) (rest : List Char) :
    Except Fault (Number × List Char) :=
  match scaleByTen (Double.nearest significand 1) power with
  | none => .error .malformed
  | some d => .ok (.double negative d, rest)

/-- Exponents beyond this are not added up. -/
def maxPower : Nat := 0x7FFFFFFF

/-- Reads the exponent from behind its letter. -/
def readExponent (negative : Bool) (significand : Nat) (power : Int) (s : List Char) :
    Except Fault (Number × List Char) :=
  let (down, s) :=
    match s with
    | '+' :: r => (false, r)
    | '-' :: r => (true, r)
    | _ => (false, s)
  match s with
  | [] => .error .cutShort
  | c :: _ =>
    if !c.isDigit then .error .malformed
    else
      let digits := s.takeWhile Char.isDigit
      let rest := s.dropWhile Char.isDigit
      let size := digits.foldl (fun n c => n * 10 + digitValue c) 0
      if maxPower < size then
        if significand != 0 && !down then .error .malformed
        else .ok (.double negative Double.zero, rest)
      else finishDouble negative significand (if down then power - size else power + size) rest

/-- What follows the digits before or behind the point. -/
def readPower (negative : Bool) (significand : Nat) (power : Int) (s : List Char) :
    Except Fault (Number × List Char) :=
  match s with
  | 'e' :: rest => readExponent negative significand power rest
  | 'E' :: rest => readExponent negative significand power rest
  | _ => finishDouble negative significand power s

/-- Reads the digits behind the point.  Digits that do not fit into 64 bits are dropped. -/
def readFraction (negative : Bool) (significand : Nat) (power : Int) (s : List Char) :
    Except Fault (Number × List Char) :=
  let digits := s.takeWhile Char.isDigit
  let rest := s.dropWhile Char.isDigit
  if digits.isEmpty then .error (if s.isEmpty then .cutShort else .malformed)
  else
    let (m, used, _) := significandFrom significand digits
    readPower negative m (power - used) rest

/-- The greatest absolute value of a negative number of 64 bits. -/
def maxNegative : Nat := 0x8000000000000000

/-- The number without point and exponent: an integer while it fits, else a double. -/
def wholeNumber (negative : Bool) (significand : Nat) : Number :=
  if !negative then .integer significand
  else if significand == 0 || maxNegative < significand then
    .double true (Double.nearest significand 1)
  else .integer (-(significand : Int))

/-- Reads a number from behind its sign. -/
def readUnsigned (negative : Bool) (s : List Char) : Except Fault (Number × List Char) :=
  let digits := s.takeWhile Char.isDigit
  let rest := s.dropWhile Char.isDigit
  match digits with
  | [] => .error (if s.isEmpty then .cutShort else .malformed)
  | d :: more =>
    if d == '0' && !more.isEmpty then .error .malformed
    else
      let (m, _, left) := significandFrom 0 digits
      match rest with
      | '.' :: tail => readFraction negative m left.length tail
      | 'e' :: tail => readExponent negative m left.length tail
      | 'E' :: tail => readExponent negative m left.length tail
      | _ =>
        if left.isEmpty then .ok (wholeNumber negative m, rest)
        else finishDouble negative m left.length rest

/-- Reads a number. -/
def readNumber : Reader Number := fun s =>
  match s with
  | '-' :: rest => readUnsigned true rest
  | _ => readUnsigned false s

/-! ## Members of arrays and objects -/

/-- Reads the colon behind a key. -/
def readColon (s : List Char) : Except Fault (List Char) :=
  match skipBlanks s with
  | [] => .error .cutShort
  | ':' :: rest => .ok rest
  | _ => .error .malformed

/-- Reads the entries of an object from behind its brace.  `step` reads what follows a
    key, the colon included, into what was gathered so far. -/
def readEntriesFrom {σ : Type} (step : σ → String → Reader σ) :
    Nat → Bool → σ → Reader σ
  | 0, _, _, _ => .error .malformed
  | fuel + 1, first, gathered, s =>
    match skipBlanks s with
    | [] => .error .cutShort
    | '\x7d' :: rest => .ok (gathered, rest)
    | c :: rest =>
      if !first && c != ',' then .error .malformed
      else
        match if first then c :: rest else skipBlanks rest with
        | [] => .error .cutShort
        | '"' :: tail =>
          match readString tail with
          | .error f => .error f
          | .ok (key, tail) =>
            match step gathered key tail with
            | .error f => .error f
            | .ok (gathered, tail) => readEntriesFrom step fuel false gathered tail
        | _ => .error .malformed

/-- Reads the entries of an object from behind its brace. -/
def readEntries {σ : Type} (step : σ → String → Reader σ) (start : σ) : Reader σ := fun s =>
  readEntriesFrom step (s.length + 1) true start s

/-- Reads the items of an array from behind its bracket; `item` reads one. -/
def readItemsFrom {α : Type} (item : Reader α) : Nat → Bool → List α → Reader (List α)
  | 0, _, _, _ => .error .malformed
  | fuel + 1, first, gathered, s =>
    match skipBlanks s with
    | [] => .error .cutShort
    | ']' :: rest => .ok (gathered.reverse, rest)
    | c :: rest =>
      if !first && c != ',' then .error .malformed
      else
        match if first then c :: rest else skipBlanks rest with
        | [] => .error .cutShort
        | ']' :: _ => .error .malformed
        | tail =>
          match item tail with
          | .error f => .error f
          | .ok (x, tail) => readItemsFrom item fuel false (x :: gathered) tail

/-- Reads the items of an array from behind its bracket. -/
def readItems {α : Type} (item : Reader α) : Reader (List α) := fun s =>
  readItemsFrom item (s.length + 1) true [] s

/-! ## Values -/

/-- Reads a value that has no members. -/
def readScalar : Reader Value := fun s =>
  match s with
  | [] => .error .cutShort
  | 'n' :: rest => (readWord ['u', 'l', 'l'] rest).map (Value.null, ·)
  | 't' :: rest => (readWord ['r', 'u', 'e'] rest).map (Value.bool true, ·)
  | 'f' :: rest => (readWord ['a', 'l', 's', 'e'] rest).map (Value.bool false, ·)
  | '"' :: rest => (readString rest).map fun (str, tail) => (Value.string str, tail)
  | c :: _ =>
    if c == '-' || c.isDigit then (readNumber s).map fun (n, tail) => (Value.number n, tail)
    else .error .malformed

/-- Reads a value; `room` more arrays and objects may be opened in it. -/
def readValue : Nat → Reader Value
  | 0, s => readScalar (skipBlanks s)
  | room + 1, s =>
    match skipBlanks s with
    | '[' :: rest =>
      (readItems (readValue room) rest).map fun (items, tail) => (Value.array items, tail)
    | '\x7b' :: rest =>
      let entry (gathered : List (String × Value)) (key : String) :
          Reader (List (String × Value)) :=
        fun s =>
          match readColon s with
          | .error f => .error f
          | .ok s =>
            match readValue room s with
            | .error f => .error f
            | .ok (v, s) => .ok ((key, v) :: gathered, s)
      (readEntries entry [] rest).map fun (entries, tail) => (Value.object entries.reverse, tail)
    | s => readScalar s

/-- Reads a whole text: nothing but blanks may follow. -/
def readWhole {α : Type} (read : Reader α) (text : String) : Except Fault α :=
  match read text.toList with
  | .error f => .error f
  | .ok (a, rest) => if (skipBlanks rest).isEmpty then .ok a else .error .malformed

/-- The value that a text writes. -/
def Value.parse (text : String) : Except Fault Value :=
  readWhole (readValue maxDepth) text

/-- The fault of meeting something else where `expected` should be.  The text is read
    as far as it takes to say what was met, and may itself be at fault there. -/
def mismatchAt (expected : String) (s : List Char) : Fault :=
  let kind (found : Found) : Fault := .mismatch (.kind found expected)
  match s with
  | '[' :: _ => kind .sequence
  | '\x7b' :: _ => kind .map
  | s =>
    match readScalar s with
    | .error f => f
    | .ok (.null, _) => kind .null
    | .ok (.bool b, _) => kind (.bool b)
    | .ok (.number n, _) => kind (.number n)
    | .ok (.string str, _) => kind (.string str)
    | .ok (_, _) => .malformed

/-- Reads a value that has to be a string. -/
def readText : Reader String := fun s =>
  match skipBlanks s with
  | '"' :: rest => readString rest
  | s => .error (mismatchAt "a string" s)

end Json
end WeblogDesk
