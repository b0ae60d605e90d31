/-
  WeblogDesk.Url.Encoding

  Percent-encoding: which characters each part of a URL writes as bytes.

  `encode` writes the characters of a set, and every control or non-ASCII
  character, as the upper-case hexadecimal bytes of their UTF-8; `decode` reads
  such a text as bytes.
-/

import WeblogDesk.Text.Hex

namespace WeblogDesk
namespace Url

/-- A byte behind a percent sign. -/
def percentByte (b : UInt8) : List Char :=
  ['%', Text.upperHex (b.toNat / 16), Text.upperHex (b.toNat % 16)]

/-- Controls and what is not ASCII: encoded everywhere. -/
def isControl (c : Char) : Bool :=
  c.toNat < 0x20 || 0x7E < c.toNat

/-- The text with the characters of the set, and those encoded everywhere, as bytes. -/
def encode (set : Char → Bool) (s : List Char) : List Char :=
  s.flatMap fun c =>
    if isControl c || set c then (String.utf8EncodeChar c).flatMap percentByte else [c]

/-- Encoded in a fragment. -/
def fragmentSet (c : Char) : Bool :=
  c == ' ' || c == '"' || c == '<' || c == '>' || c == '\x60'

/-- Encoded in a path. -/
def pathSet (c : Char) : Bool :=
  fragmentSet c || c == '#' || c == '?' || c == '\x7b' || c == '\x7d'

/-- Encoded in a single segment, which must not be taken for several or for an encoding
    itself.  A backslash separates segments in a special scheme. -/
def segmentSet (special : Bool) (c : Char) : Bool :=
  pathSet c || c == '/' || c == '%' || (special && c == '\\')

/-- Encoded in the credentials. -/
def userinfoSet (c : Char) : Bool :=
  pathSet c || c == '/' || c == ':' || c == ';' || c == '=' || c == '@' || c == '[' ||
    c == '\\' || c == ']' || c == '^' || c == '|'

/-- Encoded in a query. -/
def querySet (special : Bool) (c : Char) : Bool :=
  c == ' ' || c == '"' || c == '#' || c == '<' || c == '>' || (special && c == '\'')

/-- The byte that two hexadecimal digits give. -/
def hexByte? (a b : Char) : Option UInt8 :=
  match Text.hexValue? a, Text.hexValue? b with
  | some x, some y => some (UInt8.ofNat (x * 16 + y))
  | _, _ => none

/-- The bytes of a text in which a percent sign and two hexadecimal digits are one byte. -/
def decode : List Char → List UInt8
  | '%' :: a :: b :: rest =>
    match hexByte? a b with
    | some byte => byte :: decode rest
    | none => String.utf8EncodeChar '%' ++ decode (a :: b :: rest)
  | c :: rest => String.utf8EncodeChar c ++ decode rest
  | [] => []

end Url
end WeblogDesk
