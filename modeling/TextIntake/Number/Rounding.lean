set_option autoImplicit false

/-!
# Rounding to binary numbers

A binary number of a given precision is a mantissa of at most that many bits and an
exponent of two.  A quotient of two natural numbers is rounded to the nearest such
number, and to the one with the even mantissa when two are equally near.
-/

namespace TextIntake

/-- A number `mantissa * 2 ^ exponent`. -/
structure Binary where
  mantissa : Nat
  exponent : Int := 0
  deriving DecidableEq, Repr, Inhabited

/-- The format of binary numbers: the bits of a mantissa, the least exponent, and the
exponent of two from which on a number is too large. -/
structure BinaryFormat where
  precision : Nat
  least : Int
  limit : Nat
  deriving DecidableEq, Repr, Inhabited

/-- Numbers of 64 bits. -/
def BinaryFormat.double : BinaryFormat := ⟨53, -1074, 1024⟩

/-- Numbers of 80 bits. -/
def BinaryFormat.extended : BinaryFormat := ⟨64, -16445, 16384⟩

/-- The quotient, rounded to the nearest natural number, ties to the even one. -/
def roundDiv (n d : Nat) : Nat :=
  let q := n / d
  let r := n % d
  if 2 * r < d then q else if d < 2 * r then q + 1 else if q % 2 = 0 then q else q + 1

/-- The number of bits. -/
def bitLength (n : Nat) : Nat := if n = 0 then 0 else n.log2 + 1

namespace Binary

/-- A numerator and a denominator of the number. -/
def fraction (x : Binary) : Nat × Nat :=
  if 0 ≤ x.exponent then (x.mantissa * Nat.pow 2 x.exponent.toNat, 1)
  else (x.mantissa, Nat.pow 2 (-x.exponent).toNat)

/-- The quotient rounded to a multiple of `2 ^ exponent`. -/
def roundAt (exponent : Int) (n d : Nat) : Nat :=
  if 0 ≤ exponent then roundDiv n (d * Nat.pow 2 exponent.toNat)
  else roundDiv (n * Nat.pow 2 (-exponent).toNat) d

end Binary

namespace BinaryFormat

/-- The nearest number of the format to a quotient; `none` when it is too large. -/
def round? (f : BinaryFormat) (n d : Nat) : Option Binary :=
  let guess : Int := (bitLength n : Int) - bitLength d - f.precision
  let exponent := max guess f.least
  let mantissa := Binary.roundAt exponent n d
  let x : Binary :=
    if mantissa < Nat.pow 2 f.precision then ⟨mantissa, exponent⟩
    else ⟨Binary.roundAt (exponent + 1) n d, exponent + 1⟩
  if x.mantissa = 0 then some ⟨0, 0⟩
  else if (f.limit : Int) < bitLength x.mantissa + x.exponent then none
  else some x

end BinaryFormat

end TextIntake
