/-
  WeblogDesk.Url.Host

  Hosts, from the text of the URL to their normal form.

  The host of a special scheme is a name on the network or an address: percent
  signs are resolved, letters become lower case and addresses are written in one
  way.  Any other scheme keeps its host as it is, apart from controls.

  How a name outside ASCII is written in ASCII is a matter of large tables, which are
  no part of the program: they are given from outside, as an `Idna`.
-/

import WeblogDesk.Url.Address
import WeblogDesk.Url.Fault

namespace WeblogDesk
namespace Url

/-- No name on the network has these. -/
def forbiddenInDomain (c : Char) : Bool :=
  c.toNat ≤ 0x20 || 0x7F ≤ c.toNat || "%#/:<>?@[\\]^|".toList.contains c

/-- No host has these. -/
def forbiddenInHost (c : Char) : Bool :=
  "\x00\t\n\r #/:<>?@[\\]^|".toList.contains c

/-- The IPv6 address in brackets. -/
def bracketed (inside : List Char) : Except Fault (List Char) :=
  match inside.getLast?, ipv6? inside.dropLast with
  | some ']', some pieces => .ok (ipv6Text pieces)
  | _, _ => .error .badIpv6

/-! ## Names on the network -/

/-- How names on the network are written that are more than letters, digits and signs of
    ASCII. -/
structure Idna where
  /-- The ASCII form of the bytes of a name, if it has one. -/
  ascii? : List UInt8 → Option (List Char)

/-- The characters of bytes below `0x80`, letters in lower case. -/
def lowerText (bytes : List UInt8) : List Char :=
  bytes.map fun b => (Char.ofNat b.toNat).toLower

/-- Names in ASCII as they are, and no others: labels that stand for something else are not
    looked into. -/
def Idna.asciiOnly : Idna where
  ascii? bytes := if bytes.all (· < 0x80) then some (lowerText bytes) else none

/-- Whether a label in lower case stands for one outside ASCII. -/
def isEncodedLabel (label : List Char) : Bool :=
  ['x', 'n', '-', '-'].isPrefixOf label

/-- Whether the name is ASCII and none of its labels stands for one that is not. -/
def isPlainName (bytes : List UInt8) : Bool :=
  bytes.all (· < 0x80) && !(splitAtSeparator (· == '.') (lowerText bytes)).any isEncodedLabel

/-- The ASCII form of the bytes of a name. -/
def asciiName (idna : Idna) (bytes : List UInt8) : Option (List Char) :=
  if isPlainName bytes then some (lowerText bytes) else idna.ascii? bytes

/-- The ASCII form of a name, in which no character is forbidden. -/
def asciiDomain (idna : Idna) (bytes : List UInt8) : Except Fault (List Char) :=
  -- A forbidden character of the name is not made good by its ASCII form.
  if bytes.any fun b => b < 0x80 && forbiddenInDomain (Char.ofNat b.toNat) then .error .badDomain
  else
    match asciiName idna bytes with
    | none => .error .badDomain
    | some name => if name.any forbiddenInDomain then .error .badDomain else .ok name

/-- A name on the network, its percent signs resolved. -/
def domainText (idna : Idna) (raw : List Char) : Except Fault (List Char) := do
  let name ← asciiDomain idna (decode raw)
  if name.isEmpty then .error .emptyHost
  else if endsInNumber name then
    match ipv4? name with
    | some address => .ok (ipv4Text address)
    | none => .error .badIpv4
  else .ok name

/-! ## Hosts -/

/-- The normal form of a host. -/
def hostText (idna : Idna) (special : Bool) (raw : List Char) : Except Fault (List Char) :=
  match raw with
  | '[' :: inside => bracketed inside
  | _ =>
    if special then domainText idna raw
    else if raw.any forbiddenInHost then .error .badHostCharacter
    else .ok (encode (fun _ => false) raw)

end Url
end WeblogDesk
