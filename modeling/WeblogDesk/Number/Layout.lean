/-
  WeblogDesk.Number.Layout

  The text of a double: positional while the decimal exponent is moderate,
  scientific beyond.

  `Layout` holds the two decisions a format has to make; `Double.text` writes the
  shortest digits in it.
-/

import WeblogDesk.Number.Shortest

namespace WeblogDesk

/-- The decimal exponents that are written positionally. -/
structure Layout where
  /-- Below this exponent the number is written with a negative power of ten. -/
  leastPlain : Int
  /-- Above this exponent the number is written with a positive power of ten. -/
  greatestPlain : Int
  deriving DecidableEq, Repr

namespace Double

/-- The digits of a positive decimal without trailing zeros, and the power of ten
    of the first of them. -/
def significant (x : Decimal) : List Nat × Int :=
  let digits := decimalDigits x.coefficient
  ((digits.reverse.dropWhile (· == 0)).reverse, x.scale + digits.length - 1)

/-- One decimal digit as a character. -/
def digitChar (n : Nat) : Char :=
  Char.ofNat ('0'.toNat + n)

/-- Positional text: at least one digit on each side of the point. -/
def plainText (digits : List Nat) (exponent : Int) : List Char :=
  let ds := digits.map digitChar
  if exponent < 0 then
    '0' :: '.' :: List.replicate ((-exponent).toNat - 1) '0' ++ ds
  else
    let n := exponent.toNat + 1
    let whole := ds.take n ++ List.replicate (n - ds.length) '0'
    let part := ds.drop n
    whole ++ '.' :: (if part.isEmpty then ['0'] else part)

/-- Scientific text: one digit before the point, no point without digits behind it,
    and a sign in the exponent. -/
def scientificText (digits : List Nat) (exponent : Int) : List Char :=
  let ds := digits.map digitChar
  let sign := if exponent < 0 then '-' else '+'
  let power := (toString exponent.natAbs).toList
  match ds with
  | [] => []
  | [d] => d :: 'e' :: sign :: power
  | d :: part => d :: '.' :: part ++ 'e' :: sign :: power

/-- The text of a double with its sign. -/
def text (layout : Layout) (negative : Bool) (d : Double) : List Char :=
  let sign := if negative then ['-'] else []
  if d.mantissa == 0 then sign ++ ['0', '.', '0']
  else
    let (digits, exponent) := significant (shortest d)
    sign ++
      if layout.leastPlain ≤ exponent && exponent ≤ layout.greatestPlain then
        plainText digits exponent
      else scientificText digits exponent

end Double
end WeblogDesk
