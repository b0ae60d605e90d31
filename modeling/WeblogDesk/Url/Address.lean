/-
  WeblogDesk.Url.Address

  Hosts that are numbers: IPv4 in its loose spellings, and IPv6.

  An IPv4 address may leave out dots and use octal or hexadecimal parts; it is
  written with four decimal parts.  An IPv6 address is eight pieces of 16 bits,
  written in hexadecimal with its longest run of zeros left out.
-/

import WeblogDesk.Url.Encoding

namespace WeblogDesk
namespace Url

/-- The parts of a text between the characters that separate; at least one. -/
def splitAtSeparator (separates : Char → Bool) : List Char → List (List Char)
  | [] => [[]]
  | c :: rest =>
    if separates c then [] :: splitAtSeparator separates rest
    else
      match splitAtSeparator separates rest with
      | [] => [[c]]
      | part :: parts => (c :: part) :: parts

/-- The number that digits give to a base. -/
def numberOf (base : Nat) (digits : List Char) : Nat :=
  digits.foldl (fun n c => n * base + (Text.hexValue? c).getD 0) 0

/-- Whether every character is a digit to the base. -/
def allDigits (base : Nat) (s : List Char) : Bool :=
  s.all fun c => match Text.hexValue? c with
    | some v => v < base
    | none => false

/-! ## IPv4 -/

/-- One part of an IPv4 address: hexadecimal behind `0x`, octal behind another zero,
    else decimal.  Nothing behind the mark of a base is zero. -/
def ipv4Part? (part : List Char) : Option Nat :=
  let read (base : Nat) (digits : List Char) : Option Nat :=
    if allDigits base digits then some (numberOf base digits) else none
  match part with
  | [] => none
  | '0' :: 'x' :: digits => read 16 digits
  | '0' :: 'X' :: digits => read 16 digits
  | '0' :: d :: digits => read 8 (d :: digits)
  | digits => read 10 digits

/-- The parts of a dotted host; one empty part at the end does not count. -/
def dottedParts (host : List Char) : List (List Char) :=
  let parts := splitAtSeparator (· == '.') host
  if parts.length > 1 && parts.getLast? == some [] then parts.dropLast else parts

/-- Whether the last part of the host is a number, so that it has to be an IPv4 address. -/
def endsInNumber (host : List Char) : Bool :=
  match (dottedParts host).getLast? with
  | none => false
  | some last => (!last.isEmpty && last.all Char.isDigit) || (ipv4Part? last).isSome

/-- The address that numbers give: the last fills all the bytes that are left. -/
def ipv4OfNumbers? (numbers : List Nat) : Option Nat :=
  match numbers.reverse with
  | [] => none
  | last :: before =>
    if before.any (255 < ·) || Nat.pow 256 (4 - before.length) ≤ last then none
    else
      some (before.foldr (fun n sum => sum * 256 + n) 0 * Nat.pow 256 (4 - before.length) + last)

/-- The IPv4 address that a host writes. -/
def ipv4? (host : List Char) : Option Nat :=
  let parts := dottedParts host
  if 4 < parts.length then none
  else (parts.mapM ipv4Part?).bind ipv4OfNumbers?

/-- A natural number in decimal digits. -/
def decimal (n : Nat) : List Char :=
  Nat.toDigits 10 n

/-- An IPv4 address with four decimal parts. -/
def ipv4Text (address : Nat) : List Char :=
  decimal (address / 0x1000000 % 256) ++ '.' :: decimal (address / 0x10000 % 256) ++
    '.' :: decimal (address / 256 % 256) ++ '.' :: decimal (address % 256)

/-! ## IPv6 -/

/-- One decimal part of the IPv4 address at the end of an IPv6 address. -/
def ipv6Decimal? (part : List Char) : Option Nat :=
  if part.isEmpty || !part.all Char.isDigit then none
  else if 1 < part.length && part.head? == some '0' then none
  else if 255 < numberOf 10 part then none
  else some (numberOf 10 part)

/-- The two pieces that an IPv4 address at the end stands for. -/
def ipv6Tail? (s : List Char) : Option (List Nat) :=
  match (splitAtSeparator (· == '.') s).mapM ipv6Decimal? with
  | some [a, b, c, d] => some [a * 256 + b, c * 256 + d]
  | _ => none

/-- The pieces of an address and where zeros are left out, from those read so far.  Each
    round takes a character, so `fuel` is the length of the text. -/
def ipv6Pieces? : Nat → List Nat → Option Nat → List Char → Option (List Nat × Option Nat)
  | _, pieces, gap, [] => some (pieces, gap)
  | 0, _, _, _ => none
  | fuel + 1, pieces, gap, s =>
    if pieces.length == 8 then none
    else
      match s with
      | ':' :: rest =>
        if gap.isSome then none
        else ipv6Pieces? fuel (pieces ++ [0]) (some (pieces.length + 1)) rest
      | s =>
        let digits := (s.take 4).takeWhile fun c => (Text.hexValue? c).isSome
        match s.drop digits.length with
        | [] => some (pieces ++ [numberOf 16 digits], gap)
        | ':' :: [] => none
        | ':' :: rest => ipv6Pieces? fuel (pieces ++ [numberOf 16 digits]) gap rest
        | '.' :: _ =>
          if digits.isEmpty || 6 < pieces.length then none
          else (ipv6Tail? s).map fun tail => (pieces ++ tail, gap)
        | _ => none

/-- The eight pieces that the text between the brackets writes. -/
def ipv6? (s : List Char) : Option (List Nat) :=
  let read : Option (List Nat × Option Nat) :=
    match s with
    | ':' :: ':' :: rest => ipv6Pieces? rest.length [0] (some 1) rest
    | ':' :: _ => none
    | [] => none
    | [_] => none
    | s => ipv6Pieces? s.length [] none s
  match read with
  | none => none
  | some (pieces, some gap) =>
    some (pieces.take gap ++ List.replicate (8 - pieces.length) 0 ++ pieces.drop gap)
  | some (pieces, none) => if pieces.length == 8 then some pieces else none

/-- How many zeros the list begins with. -/
def leadingZeros (pieces : List Nat) : Nat :=
  (pieces.takeWhile (· == 0)).length

/-- Where the first of the longest runs of zeros begins, and its length. -/
def longestZeros (pieces : List Nat) : Nat × Nat :=
  (List.range pieces.length).foldl
    (fun best i =>
      let run := leadingZeros (pieces.drop i)
      if best.2 < run then (i, run) else best)
    (0, 0)

/-- Pieces in hexadecimal, with colons between them. -/
def piecesText : List Nat → List Char
  | [] => []
  | [p] => Nat.toDigits 16 p
  | p :: rest => Nat.toDigits 16 p ++ ':' :: piecesText rest

/-- An IPv6 address in brackets; the longest run of at least two zeros is left out. -/
def ipv6Text (pieces : List Nat) : List Char :=
  let (start, run) := longestZeros pieces
  let inner :=
    if run < 2 then piecesText pieces
    else piecesText (pieces.take start) ++ ':' :: ':' :: piecesText (pieces.drop (start + run))
  '[' :: inner ++ [']']

end Url
end WeblogDesk
