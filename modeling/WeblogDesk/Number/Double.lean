/-
  WeblogDesk.Number.Double

  Finite doubles without their sign, in exact arithmetic.

  A `Double` is `mantissa * 2 ^ exponent`.  `nearest` rounds a fraction of
  natural numbers to the nearest double, ties to the even mantissa;
  multiplication and division round the exact result once.
-/

namespace WeblogDesk

/-- A finite double without its sign: `mantissa * 2 ^ exponent`.  Values built by
    `nearest` have 53 bits of mantissa, or fewer at the least exponent, -1074. -/
structure Double where
  /-- The integer part of the representation. -/
  mantissa : Nat
  /-- The power of two it is scaled by. -/
  exponent : Int
  deriving DecidableEq, Repr

namespace Double

/-- Zero. -/
def zero : Double := ⟨0, -1074⟩

/-- `num / den` to the nearest integer, ties to the even one. -/
def roundHalfEven (num den : Nat) : Nat :=
  let q := num / den
  let r := num % den
  if den < 2 * r || (2 * r == den && q % 2 == 1) then q + 1 else q

/-- The fraction `num / den` divided by `2 ^ e`. -/
def unscale (num den : Nat) (e : Int) : Nat × Nat :=
  if 0 ≤ e then (num, den * Nat.pow 2 e.toNat) else (num * Nat.pow 2 (-e).toNat, den)

/-- The exponent at which `num / den` has 53 bits before the point, or the least
    exponent of a double if that is greater. -/
def exponentFor (num den : Nat) : Int :=
  let guess : Int := (num.log2 : Int) - den.log2 - 52
  let (n, d) := unscale num den guess
  max (if n / d < Nat.pow 2 52 then guess - 1 else guess) (-1074)

/-- The double nearest to `num / den`, ties to the even mantissa.  A fraction beyond
    all doubles gives an exponent above 971, see `isFinite`. -/
def nearest (num den : Nat) : Double :=
  if num == 0 then zero
  else
    let e := exponentFor num den
    let (n, d) := unscale num den e
    let m := roundHalfEven n d
    if m == Nat.pow 2 53 then ⟨Nat.pow 2 52, e + 1⟩ else ⟨m, e⟩

/-- Whether the value is within the range of doubles. -/
def isFinite (d : Double) : Bool :=
  d.exponent ≤ 971

/-- The double nearest to `10 ^ k`. -/
def powerOfTen (k : Nat) : Double :=
  nearest (Nat.pow 10 k) 1

/-- The product, rounded once. -/
def mul (a b : Double) : Double :=
  let e := a.exponent + b.exponent
  let (num, den) := unscale (a.mantissa * b.mantissa) 1 (-e)
  nearest num den

/-- The quotient, rounded once; the divisor is not zero. -/
def div (a b : Double) : Double :=
  let e := a.exponent - b.exponent
  let (num, den) := unscale a.mantissa b.mantissa (-e)
  nearest num den

end Double
end WeblogDesk
