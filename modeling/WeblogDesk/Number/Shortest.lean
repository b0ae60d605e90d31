/-
  WeblogDesk.Number.Shortest

  The fewest decimal digits that read back as a given double.

  Every real number that rounds to a double lies in its interval, whose ends
  belong to it exactly if the mantissa is even.  For 1, 2, ... 17 digits the two
  neighbours of the value on that decimal grid are tried; the first grid with a
  hit wins, and of two hits the nearer.
-/

import WeblogDesk.Number.Double

namespace WeblogDesk
namespace Double

/-- Decimal digits, most significant first. -/
def decimalDigits (n : Nat) : List Nat :=
  (Nat.toDigits 10 n).map (fun c => c.toNat - '0'.toNat)

/-- A positive decimal: the digits of an integer, and the power of ten it is scaled by. -/
structure Decimal where
  /-- The digits as an integer. -/
  coefficient : Nat
  /-- The power of ten. -/
  scale : Int
  deriving DecidableEq, Repr

/-- How many decimal digits stand before the point of `d`, negative if zeros follow the
    point.  No positive double is below `10 ^ -324`, so 400 places reach its digits. -/
def digitsBeforePoint (d : Double) : Int :=
  let (num, den) := unscale (d.mantissa * Nat.pow 10 400) 1 (-d.exponent)
  ((decimalDigits (num / den)).length : Int) - 400

/-- Multiplies for a comparison of `c * 10 ^ scale` with `x * 2 ^ (exponent - 2)`:
    the two are in the order of `c * p.1` and `x * p.2`. -/
def commonFactors (scale exponent : Int) : Nat × Nat :=
  let ten := Nat.pow 10 scale.natAbs
  let two := Nat.pow 2 (exponent - 2).natAbs
  ((if 0 ≤ scale then ten else 1) * (if 0 ≤ exponent - 2 then 1 else two),
   (if 0 ≤ scale then 1 else ten) * (if 0 ≤ exponent - 2 then two else 1))

/-- The lower and upper end of the interval that rounds to `d`, in units of
    `2 ^ (exponent - 2)`.  Below a power of two the gap is half as wide. -/
def interval (d : Double) : Nat × Nat :=
  let below := if d.mantissa == Nat.pow 2 52 && d.exponent != -1074 then 1 else 2
  (4 * d.mantissa - below, 4 * d.mantissa + 2)

/-- The decimal with the given scale that reads back as `d` and is nearest to it. -/
def onGrid? (d : Double) (scale : Int) : Option Decimal :=
  let (a, b) := commonFactors scale d.exponent
  let (low, high) := interval d
  let value := 4 * d.mantissa * b
  let inside (c : Nat) : Bool :=
    if d.mantissa % 2 == 0 then low * b ≤ c * a && c * a ≤ high * b
    else low * b < c * a && c * a < high * b
  let floor := value / a
  let below := value - floor * a
  let above := (floor + 1) * a - value
  match inside floor, inside (floor + 1) with
  | true, true =>
    let isLow := below < above || (below == above && floor % 2 == 0)
    some ⟨if isLow then floor else floor + 1, scale⟩
  | true, false => some ⟨floor, scale⟩
  | false, true => some ⟨floor + 1, scale⟩
  | false, false => none

/-- The shortest decimal that reads back as `d`, which is not zero. -/
def shortest (d : Double) : Decimal :=
  let point := digitsBeforePoint d
  let grids := (List.range 17).map fun (n : Nat) => point - ((n : Int) + 1)
  (grids.findSome? (onGrid? d)).getD ⟨0, 0⟩

end Double
end WeblogDesk
