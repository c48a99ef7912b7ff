/-!
Binary64 numbers held as their IEEE 754 bit patterns. Every arithmetic result
is obtained the way the standard defines it: compute the exact rational value,
then round it to the nearest representable number, ties to an even
significand. Working on exact fractions keeps the module free of the host's
floating point unit, so every result can be evaluated and reasoned about.
-/
namespace ModelSync

/-- An IEEE 754 double precision number, as its 64-bit pattern. -/
structure Binary64 where
  bits : UInt64
  deriving DecidableEq, Inhabited, Repr

namespace Binary64

/-- Whether the sign bit is set. -/
def negative (x : Binary64) : Bool := (x.bits >>> 63) == 1

/-- The eleven exponent bits, as stored. -/
def biasedExponent (x : Binary64) : Nat := ((x.bits >>> 52) &&& 0x7FF).toNat

/-- The fifty-two stored significand bits. -/
def fraction (x : Binary64) : Nat := (x.bits &&& 0xFFFFFFFFFFFFF).toNat

/-- Neither an infinity nor a NaN. -/
def isFinite (x : Binary64) : Bool := x.biasedExponent != 0x7FF

/-- Positive or negative zero. -/
def isZero (x : Binary64) : Bool := x.biasedExponent == 0 && x.fraction == 0

/-- The integer significand, with the hidden bit of normal numbers. -/
def significand (x : Binary64) : Nat :=
  if x.biasedExponent = 0 then x.fraction else x.fraction + Nat.pow 2 52

/-- The binary exponent: a finite `x` has magnitude `significand * 2 ^ exponent`. -/
def exponent (x : Binary64) : Int :=
  (if x.biasedExponent = 0 then (1 : Int) else x.biasedExponent) - 1075

/-- The magnitude of a finite number as a fraction `num / den`. -/
def magnitude (x : Binary64) : Nat × Nat :=
  if 0 ≤ x.exponent then (x.significand * Nat.pow 2 x.exponent.toNat, 1)
  else (x.significand, Nat.pow 2 (-x.exponent).toNat)

/-- The pattern with the given sign, stored exponent and stored fraction. -/
def ofParts (negative : Bool) (biased fraction : Nat) : Binary64 :=
  ⟨((if negative then (1 : UInt64) else 0) <<< 63) ||| (biased.toUInt64 <<< 52) |||
    fraction.toUInt64⟩

/-- Zero with the given sign. -/
def zero (negative : Bool) : Binary64 := ofParts negative 0 0

/-- Infinity with the given sign. -/
def infinity (negative : Bool) : Binary64 := ofParts negative 0x7FF 0

/-- The same magnitude with the other sign. -/
def neg (x : Binary64) : Binary64 := ⟨x.bits ^^^ ((1 : UInt64) <<< 63)⟩

/-- The quotient `a / b` rounded to the nearest integer, a tie going to the even one. -/
def roundDiv (a b : Nat) : Nat :=
  let q := a / b
  let r := a % b
  if b < 2 * r then q + 1 else if 2 * r = b ∧ q % 2 = 1 then q + 1 else q

/-- The exponent `e` with `2 ^ e ≤ a / b < 2 ^ (e + 1)`, for positive `a` and `b`. -/
def log2Ratio (a b : Nat) : Int :=
  let e : Int := (a.log2 : Int) - b.log2
  if 0 ≤ e then (if a < b * Nat.pow 2 e.toNat then e - 1 else e)
  else (if a * Nat.pow 2 (-e).toNat < b then e - 1 else e)

/-- The number nearest to `num / den` with the given sign, ties to an even
significand; magnitudes past the largest finite number become infinity. A zero
numerator gives zero of that sign. -/
def ofRatio (negative : Bool) (num den : Nat) : Binary64 :=
  if num = 0 ∨ den = 0 then zero negative
  else
    let e := log2Ratio num den
    if e < -1022 then
      -- Subnormal range, in units of 2^-1074; a carry into bit 52 lands on the
      -- least normal number, whose pattern is the same integer.
      ofParts negative 0 (roundDiv (num * Nat.pow 2 1074) den)
    else
      let shift : Int := 52 - e
      let m :=
        if 0 ≤ shift then roundDiv (num * Nat.pow 2 shift.toNat) den
        else roundDiv num (den * Nat.pow 2 (-shift).toNat)
      let (m, e) := if m = Nat.pow 2 53 then (Nat.pow 2 52, e + 1) else (m, e)
      if 1023 < e then infinity negative
      else ofParts negative (e + 1023).toNat (m - Nat.pow 2 52)

/-- The number nearest to a natural number. -/
def ofNat (n : Nat) : Binary64 := ofRatio false n 1

/-- The correctly rounded product of two finite numbers. -/
def mul (x y : Binary64) : Binary64 :=
  let (a, b) := x.magnitude
  let (c, d) := y.magnitude
  ofRatio (x.negative != y.negative) (a * c) (b * d)

/-- The correctly rounded quotient of two finite numbers, the divisor nonzero. -/
def div (x y : Binary64) : Binary64 :=
  let (a, b) := x.magnitude
  let (c, d) := y.magnitude
  ofRatio (x.negative != y.negative) (a * d) (b * c)

/-- The number nearest to `10 ^ k`. -/
def pow10 (k : Nat) : Binary64 := ofNat (Nat.pow 10 k)

example : (ofNat 1).bits = 0x3FF0000000000000 := by decide
example : (ofRatio false 1 10).bits = 0x3FB999999999999A := by decide
example : (ofRatio true 0 1).bits = 0x8000000000000000 := by decide

end Binary64
end ModelSync
