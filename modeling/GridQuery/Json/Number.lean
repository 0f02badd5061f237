import GridQuery.Number.Shortest

/-!
Numbers as JSON text carries them: an integer that fits in 64 bits stays one, everything else is
binary floating point. A float is read by gathering as many digits as 64 bits hold and scaling by
one power of ten, so it is rounded twice and may be one step off the nearest value.
-/

namespace GridQuery

open GridQuery.Number

inductive JsonNumber where
  | natural (n : Nat) (bound : n < twoTo 64)
  /-- The integer `-n`. -/
  | negative (n : Nat) (bound : 0 < n ∧ n ≤ twoTo 63)
  | float (x : Finite64)
deriving DecidableEq

namespace JsonNumber

/-- A numeral as it is written: sign, digits before and behind the point, and the exponent's sign
and digits. -/
structure Numeral where
  negative : Bool
  whole : List Char
  fraction : Option (List Char)
  exponent : Option (Bool × List Char)

/-- Digits gathered so far and the power of ten they stand at. -/
structure Gathered where
  significand : Nat
  exponent : Int

/-- Digits before the point; those that no longer fit raise the exponent. -/
def gatherWhole (significand : Nat) : List Char → Gathered
  | [] => ⟨significand, 0⟩
  | c :: r =>
    let next := 10 * significand + digitValue c
    if next < twoTo 64 then gatherWhole next r else ⟨significand, (r.length + 1 : Nat)⟩

/-- Digits behind the point; those that no longer fit are dropped. -/
def gatherFraction (g : Gathered) : List Char → Gathered
  | [] => g
  | c :: r =>
    let next := 10 * g.significand + digitValue c
    if next < twoTo 64 then gatherFraction ⟨next, g.exponent - 1⟩ r else g

/-- The largest exponent of a power of ten that has a finite value. -/
def maxPower : Nat := 308

def timesTen (f : Finite64) (e : Nat) : Option Finite64 :=
  (Binary64.ofNat (tenTo e)).finite?.bind fun p => (Binary64.mul f p).finite?

def overTen (f : Finite64) (e : Nat) : Option Finite64 :=
  (Binary64.ofNat (tenTo e)).finite?.bind fun p => (Binary64.div f p).finite?

/-- Multiplies or divides by a power of ten; absent if the result has no finite value. An exponent
below the powers there are takes two divisions, after which nothing is left of 64 bits. -/
def scaleTen (f : Finite64) (e : Int) : Option Finite64 :=
  if f.isZero then some f
  else if 0 ≤ e then
    if e.toNat ≤ maxPower then timesTen f e.toNat else none
  else if e.natAbs ≤ maxPower then overTen f e.natAbs
  else if e.natAbs ≤ 2 * maxPower then
    (overTen f maxPower).bind (overTen · (e.natAbs - maxPower))
  else some (.zero f.negative)

def ofNat (n : Nat) : JsonNumber :=
  if h : n < twoTo 64 then natural n h else
    match Binary64.ofNat n with
    | .finite x => float x
    | _ => float (.zero false)

/-- An integer of 64 bits. -/
def ofInt? (i : Int) : Option JsonNumber :=
  if 0 ≤ i then
    if h : i.toNat < twoTo 64 then some (natural i.toNat h) else none
  else if h : 0 < i.natAbs ∧ i.natAbs ≤ twoTo 63 then some (negative i.natAbs h)
  else none

/-- The value of a numeral with a point, an exponent or too many digits. -/
def floatOf? (n : Numeral) : Option JsonNumber :=
  let g := gatherFraction (gatherWhole 0 n.whole) (n.fraction.getD [])
  let scaled :=
    match n.exponent with
    | none => (Binary64.ofNat g.significand).finite?.bind (scaleTen · g.exponent)
    | some (down, ds) =>
      let e := digitsValue 0 ds
      if e < twoTo 31 then
        (Binary64.ofNat g.significand).finite?.bind
          (scaleTen · (g.exponent + if down then -(e : Int) else e))
      else if g.significand ≠ 0 ∧ !down then none
      else some (.zero false)
  scaled.map fun x => float { x with negative := n.negative }

/-- The value of a numeral; absent if it is too large. The integer `-0` is the float `-0.0`. -/
def ofNumeral? (n : Numeral) : Option JsonNumber :=
  let i := digitsValue 0 n.whole
  if n.fraction.isSome || n.exponent.isSome then floatOf? n
  else if n.negative then
    if h : 0 < i ∧ i ≤ twoTo 63 then some (negative i h) else floatOf? n
  else if h : i < twoTo 64 then some (natural i h)
  else floatOf? n

/-- Fewest digits, positional for exponents from -5 to 15 and then always with a fraction; halves
between two equally short decimals go to the even one. -/
def layout : Layout where
  tie := .toEven
  positional := some (-5, 15)
  pointZero := true

def text : JsonNumber → String
  | natural n _ => natText n
  | negative n _ => "-" ++ natText n
  | float x => layout.finite x

/-- An integer of 64 bits, sign included; a float is none, whole or not. -/
def toInt64? : JsonNumber → Option Int
  | natural n _ => if n < twoTo 63 then some n else none
  | negative n _ => some (-(n : Int))
  | float _ => none

/-- The number in floating point; a large integer is rounded. -/
def toBinary64 : JsonNumber → Binary64
  | natural n _ => .ofNat n
  | negative n _ => .ofInt (-(n : Int))
  | float x => .finite x

end JsonNumber

end GridQuery
