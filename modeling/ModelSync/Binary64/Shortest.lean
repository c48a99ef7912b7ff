import ModelSync.Binary64.Basic
/-!
The shortest decimal form of a binary64 number: the fewest significant digits
whose value reads back as the same number, and among those the one nearest to
the number, a tie going to the even digit string. A decimal reads back as `x`
when it lies in the interval of reals that round to `x`; the ends belong to
the interval exactly when the significand of `x` is even.

At each length the search looks only at the two neighbours of `x` on that
decimal grid: if any point of the grid lies in the interval, one of the two
neighbours does.
-/
namespace ModelSync.Binary64

/-- A nonnegative rational `num / den`, compared by cross multiplication. -/
structure Fraction where
  num : Nat
  den : Nat

namespace Fraction

/-- `p ≤ q` as rationals. -/
def le (p q : Fraction) : Bool := p.num * q.den ≤ q.num * p.den

/-- `p < q` as rationals. -/
def lt (p q : Fraction) : Bool := p.num * q.den < q.num * p.den

/-- The absolute difference `|p - q|`. -/
def dist (p q : Fraction) : Fraction :=
  let a := p.num * q.den
  let b := q.num * p.den
  ⟨if a ≤ b then b - a else a - b, p.den * q.den⟩

/-- The value `c * 10 ^ k`. -/
def ofDecimal (c : Nat) (k : Int) : Fraction :=
  if 0 ≤ k then ⟨c * Nat.pow 10 k.toNat, 1⟩ else ⟨c, Nat.pow 10 (-k).toNat⟩

/-- The integer part of `p / 10 ^ k`. -/
def floorScaled (p : Fraction) (k : Int) : Nat :=
  if 0 ≤ k then p.num / (p.den * Nat.pow 10 k.toNat) else p.num * Nat.pow 10 (-k).toNat / p.den

end Fraction

/-- The least `s` with `a * 10 ^ s ≥ b`, searched up to `fuel` steps. -/
def tenfoldSteps (a b : Nat) : Nat → Nat → Nat
  | 0, s => s
  | fuel + 1, s => if b ≤ a * Nat.pow 10 s then s else tenfoldSteps a b fuel (s + 1)

/-- The decimal exponent `p` with `10 ^ p ≤ a / b < 10 ^ (p + 1)`, for positive
`a` and `b`. -/
def log10Ratio (a b : Nat) : Int :=
  if b ≤ a then ((Nat.toDigits 10 (a / b)).length : Int) - 1
  else -(tenfoldSteps a b (b.log2 + 2) 1 : Int)

/-- The interval of rationals that round to the finite nonzero `x`, as its
lower end, its upper end and whether the ends are included. The gap below is
half as wide when `x` is the least number of its binade. -/
def roundingInterval (x : Binary64) : Fraction × Fraction × Bool :=
  let m := x.significand
  let e := x.exponent - 2
  let below := if x.fraction = 0 ∧ 1 < x.biasedExponent then 1 else 2
  let scaled (units : Nat) : Fraction :=
    if 0 ≤ e then ⟨units * Nat.pow 2 e.toNat, 1⟩ else ⟨units, Nat.pow 2 (-e).toNat⟩
  (scaled (4 * m - below), scaled (4 * m + 2), m % 2 == 0)

/-- Whether `c * 10 ^ k` reads back as the number with this rounding interval. -/
def readsBack (interval : Fraction × Fraction × Bool) (c : Nat) (k : Int) : Bool :=
  let (lo, hi, closed) := interval
  let d := Fraction.ofDecimal c k
  if closed then lo.le d && d.le hi else lo.lt d && d.lt hi

/-- Trailing zeros moved from the digits into the exponent. -/
def stripZeros : Nat → Nat → Int → Nat × Int
  | 0, c, k => (c, k)
  | fuel + 1, c, k => if c ≠ 0 ∧ c % 10 = 0 then stripZeros fuel (c / 10) (k + 1) else (c, k)

/-- The shortest digits `c` and exponent `k` with `c * 10 ^ k` reading back as
the finite nonzero `x`, tried at lengths `n, n + 1, …` for `fuel` lengths. -/
def searchShortest (x : Binary64) (v : Fraction) (p : Int) : Nat → Nat → Option (Nat × Int)
  | 0, _ => none
  | fuel + 1, n =>
    let interval := roundingInterval x
    let k := p - n + 1
    let below := v.floorScaled k
    let above := below + 1
    let okBelow := readsBack interval below k
    let okAbove := readsBack interval above k
    if okBelow && okAbove then
      let dBelow := v.dist (Fraction.ofDecimal below k)
      let dAbove := v.dist (Fraction.ofDecimal above k)
      if dBelow.lt dAbove then some (below, k)
      else if dAbove.lt dBelow then some (above, k)
      else if below % 2 = 0 then some (below, k) else some (above, k)
    else if okBelow then some (below, k)
    else if okAbove then some (above, k)
    else searchShortest x v p fuel (n + 1)

/-- The shortest decimal digits and exponent of a finite nonzero number,
`|x| = digits * 10 ^ exponent` up to rounding, with no trailing zero digit. -/
def shortest (x : Binary64) : Nat × Int :=
  let (a, b) := x.magnitude
  let v : Fraction := ⟨a, b⟩
  let p := log10Ratio a b
  match searchShortest x v p 17 1 with
  | some (c, k) => stripZeros 20 c k
  | none => (v.floorScaled (p - 16), p - 16)

/-- How a number's decimal form is laid out as text. -/
structure NumberLayout where
  /-- Positional notation is used while the decimal point position `q`, the
  `q` of `d₁d₂… × 10 ^ (q - 1)`, satisfies `positionalAbove < q ≤ positionalUpTo`. -/
  positionalAbove : Int
  positionalUpTo : Int
  /-- Integral values in positional notation end in `.0`. -/
  pointZero : Bool
  /-- Text of the exponent mark. -/
  exponentMark : String
  /-- Whether a nonnegative exponent carries a `+`. -/
  plusSign : Bool

/-- The layout of the shortest round-trip text used by this library's JSON
output and error messages: positional for `1e-5 ≤ |x| < 1e16` with `.0` on
integral values, otherwise one digit, a point only if more digits follow, and
an exponent with a sign only when negative (`1e16`, `1.5e-7`). -/
def shortestLayout : NumberLayout :=
  { positionalAbove := -5, positionalUpTo := 16, pointZero := true, exponentMark := "e",
    plusSign := false }

/-- Text of a finite number in the given layout. -/
def toTextWith (layout : NumberLayout) (x : Binary64) : String :=
  let sign := if x.negative then "-" else ""
  if x.isZero then sign ++ (if layout.pointZero then "0.0" else "0")
  else
    let (c, k) := x.shortest
    let digits := String.ofList (Nat.toDigits 10 c)
    let len : Int := digits.length
    let q := len + k
    let zeros (n : Nat) : String := String.ofList (List.replicate n '0')
    let expText (e : Int) : String :=
      layout.exponentMark ++ (if e < 0 then "-" else if layout.plusSign then "+" else "") ++
        toString e.natAbs
    let body :=
      if 0 ≤ k ∧ q ≤ layout.positionalUpTo then
        digits ++ zeros k.toNat ++ (if layout.pointZero then ".0" else "")
      else if 0 < q ∧ q ≤ layout.positionalUpTo then
        String.ofList (digits.toList.take q.toNat) ++ "." ++
          String.ofList (digits.toList.drop q.toNat)
      else if layout.positionalAbove < q ∧ q ≤ 0 then
        "0." ++ zeros (-q).toNat ++ digits
      else if digits.length = 1 then digits ++ expText (q - 1)
      else
        String.ofList (digits.toList.take 1) ++ "." ++ String.ofList (digits.toList.drop 1) ++
          expText (q - 1)
    sign ++ body

/-- Text of a finite number in the shortest layout. -/
def toText (x : Binary64) : String := toTextWith shortestLayout x

/-- The layout of a number named in an error message: as `shortestLayout`,
but the exponent always carries its sign (`1e+16`, `2.5e-7`). -/
def messageLayout : NumberLayout := { shortestLayout with plusSign := true }

/-- Text of a finite number as an error message names it. -/
def messageText (x : Binary64) : String := toTextWith messageLayout x

end ModelSync.Binary64
