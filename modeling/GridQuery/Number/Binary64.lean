import GridQuery.Number.Power

/-!
Binary floating point with 53 significant bits, as exact integers: a finite value is a sign, a
significand and a power of two in lowest position, and every operation is the exact rational
result rounded once to the nearest value, a tie going to the even significand.
-/

namespace GridQuery.Number

/-- Significand and exponent stand in their one normal position. -/
def Canonical64 (significand : Nat) (exponent : Int) : Prop :=
  significand < twoTo 53 ∧ -1074 ≤ exponent ∧ exponent ≤ 971 ∧
    (twoTo 52 ≤ significand ∨ exponent = -1074)

instance (m : Nat) (q : Int) : Decidable (Canonical64 m q) := by
  unfold Canonical64; infer_instance

/-- The value `± significand * 2 ^ exponent`. -/
structure Finite64 where
  negative : Bool
  significand : Nat
  exponent : Int
  canonical : Canonical64 significand exponent
deriving DecidableEq

inductive Binary64 where
  | nan
  | infinite (negative : Bool)
  | finite (value : Finite64)
deriving DecidableEq

/-- The nearest natural number to `num / den`, a tie going to the even one. -/
def roundEven (num den : Nat) : Nat :=
  let q := num / den
  let r := num % den
  if 2 * r < den then q
  else if den < 2 * r then q + 1
  else if q % 2 = 0 then q else q + 1

/-- The nearest natural number to `num / den`, a tie going up. -/
def roundUp (num den : Nat) : Nat :=
  (2 * num + den) / (2 * den)

/-- `num / den` divided by `2 ^ e`, again as a quotient. -/
def scaleDown (num den : Nat) (e : Int) : Nat × Nat :=
  (num * twoTo (-e).toNat, den * twoTo e.toNat)

/-- The exponent at which `num / den` has a significand of 53 bits, or the least exponent. -/
def targetExponent (num den : Nat) : Int :=
  let guess := (Nat.log2 num : Int) - Nat.log2 den - 53
  let (n, d) := scaleDown num den guess
  max (-1074) (if n / d < twoTo 53 then guess else guess + 1)

namespace Finite64

def zero (negative : Bool) : Finite64 :=
  ⟨negative, 0, -1074, by decide⟩

def isZero (x : Finite64) : Bool :=
  x.significand == 0

def neg (x : Finite64) : Finite64 :=
  { x with negative := !x.negative }

/-- The absolute value as a quotient of natural numbers. -/
def ratio (x : Finite64) : Nat × Nat :=
  (x.significand * twoTo x.exponent.toNat, twoTo (-x.exponent).toNat)

/-- The value as an integer, if it is one. -/
def toInt? (x : Finite64) : Option Int :=
  match x.ratio with
  | (n, d) =>
    if n % d = 0 then some (if x.negative then -((n / d : Nat) : Int) else ((n / d : Nat) : Int))
    else none

end Finite64

namespace Binary64

/-- The quotient `num / den`, signed and rounded. What lies beyond the largest finite value by
half a step or more is infinite. -/
def ofRatio (negative : Bool) (num den : Nat) : Binary64 :=
  if num = 0 then .finite (.zero negative)
  else
    let e := targetExponent num den
    let (n, d) := scaleDown num den e
    let m := roundEven n d
    let (m, e) := if m = twoTo 53 then (twoTo 52, e + 1) else (m, e)
    if h : Canonical64 m e then .finite ⟨negative, m, e, h⟩ else .infinite negative

def ofNat (n : Nat) : Binary64 :=
  ofRatio false n 1

def ofInt (i : Int) : Binary64 :=
  ofRatio (i < 0) i.natAbs 1

/-- The value `± digits * 10 ^ exponent`, rounded. Exponents far out of range are settled by the
position of the first digit, without forming the power. -/
def ofDecimal (negative : Bool) (digits : Nat) (exponent : Int) : Binary64 :=
  if digits = 0 then .finite (.zero negative)
  else
    let first := exponent + (Nat.log2 digits : Int) / 4
    if 400 < first then .infinite negative
    else if exponent + (Nat.log2 digits : Int) < -400 then .finite (.zero negative)
    else ofRatio negative (digits * tenTo exponent.toNat) (tenTo (-exponent).toNat)

def neg : Binary64 → Binary64
  | nan => nan
  | infinite s => infinite !s
  | finite x => finite x.neg

def isFinite : Binary64 → Bool
  | finite _ => true
  | _ => false

def finite? : Binary64 → Option Finite64
  | finite x => some x
  | _ => none

/-- The product of two finite values. -/
def mul (x y : Finite64) : Binary64 :=
  ofRatio (x.negative != y.negative) (x.ratio.1 * y.ratio.1) (x.ratio.2 * y.ratio.2)

/-- The quotient of two finite values; a divisor of zero gives an infinite one. -/
def div (x y : Finite64) : Binary64 :=
  if y.isZero then (if x.isZero then nan else infinite (x.negative != y.negative))
  else ofRatio (x.negative != y.negative) (x.ratio.1 * y.ratio.2) (x.ratio.2 * y.ratio.1)

/-- The sum of the absolute values of two finite values. -/
def addAbs (x y : Finite64) : Binary64 :=
  ofRatio false (x.ratio.1 * y.ratio.2 + y.ratio.1 * x.ratio.2) (x.ratio.2 * y.ratio.2)

/-- The nearest integral value, a half going away from zero. -/
def roundAway (x : Finite64) : Binary64 :=
  ofRatio x.negative (roundUp x.ratio.1 x.ratio.2) 1

end Binary64

end GridQuery.Number
