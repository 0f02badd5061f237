import GridQuery.Number.Binary64
import GridQuery.Number.Digits

/-!
The text of a binary floating-point value: the fewest decimal digits that read back to it, and of
those the nearest. A `Layout` says how the digits are set out. The exact decimal expansion stands
for the case that seventeen digits do not suffice, which the theory of rounding rules out.
-/

namespace GridQuery.Number

/-- The value `digits * 10 ^ exponent`. -/
structure Decimal where
  digits : Nat
  exponent : Int
deriving DecidableEq, Repr

/-- Which of two equally near decimals is taken. -/
inductive Tie where
  | toEven
  | up
deriving DecidableEq

namespace Decimal

/-- Moves trailing zeros into the exponent, `fuel` of them at most. -/
def stripZeros : Nat → Decimal → Decimal
  | 0, d => d
  | fuel + 1, d =>
    if d.digits ≠ 0 ∧ d.digits % 10 = 0 then stripZeros fuel ⟨d.digits / 10, d.exponent + 1⟩ else d

end Decimal

namespace Finite64

/-- The decimal rounds to the absolute value of `x`. -/
def readsBack (x : Finite64) (d : Decimal) : Bool :=
  Binary64.ofDecimal false d.digits d.exponent = .finite { x with negative := false }

/-- The least `k` such that a non-zero value stays below `10 ^ k`. -/
def decimalPoint (x : Finite64) : Int :=
  let (n, d) := x.ratio
  if d ≤ n then (digits (n / d)).length else 1 - ((digits ((d - 1) / n)).length : Int)

/-- The decimal on the grid `10 ^ e` that reads back, the nearer if both neighbours of the value
do. -/
def onGrid? (tie : Tie) (x : Finite64) (e : Int) : Option Decimal :=
  let (n, d) := x.ratio
  let (n, d) := (n * tenTo (-e).toNat, d * tenTo e.toNat)
  let below : Decimal := ⟨n / d, e⟩
  let above : Decimal := ⟨n / d + 1, e⟩
  match x.readsBack below, x.readsBack above with
  | false, false => none
  | true, false => some below
  | false, true => some above
  | true, true =>
    match compare (2 * n) ((2 * (n / d) + 1) * d) with
    | .lt => some below
    | .gt => some above
    | .eq =>
      match tie with
      | .up => some above
      | .toEven => some (if n / d % 2 = 0 then below else above)

/-- All the digits of the value. -/
def exactDecimal (x : Finite64) : Decimal :=
  ⟨x.significand * twoTo x.exponent.toNat * Nat.pow 5 (-x.exponent).toNat, min x.exponent 0⟩

/-- The shortest decimal that reads back to the absolute value of a non-zero `x`. -/
def shortest (tie : Tie) (x : Finite64) : Decimal :=
  let found := (List.range 17).findSome? fun i : Nat =>
    x.onGrid? tie (x.decimalPoint - (i + 1 : Nat))
  (found.getD x.exactDecimal).stripZeros 400

end Finite64

/-- How the digits of a floating-point value are set out. -/
structure Layout where
  tie : Tie
  /-- The least and the largest exponent of the leading digit that is written positionally; all
  exponents if absent. -/
  positional : Option (Int × Int)
  /-- A whole number ends in `.0`. -/
  pointZero : Bool

namespace Layout

def isPositional (l : Layout) (e : Int) : Bool :=
  match l.positional with
  | none => true
  | some (least, most) => least ≤ e && e ≤ most

/-- Digits with the point after, inside or before them. -/
def plain (l : Layout) (ds : List Char) (exponent : Int) : List Char :=
  let lead := (ds.length : Int) + exponent
  if 0 ≤ exponent then
    ds ++ List.replicate exponent.toNat '0' ++ (if l.pointZero then ['.', '0'] else [])
  else if 0 < lead then
    ds.take lead.toNat ++ '.' :: ds.drop lead.toNat
  else
    '0' :: '.' :: (List.replicate (-lead).toNat '0' ++ ds)

/-- One digit before the point, then a signed exponent. -/
def scientific (ds : List Char) (lead : Int) : List Char :=
  let fraction := ds.drop 1
  ds.take 1 ++ (if fraction = [] then [] else '.' :: fraction) ++
    'e' :: (if lead < 0 then '-' else '+') :: digits lead.natAbs

def decimal (l : Layout) (d : Decimal) : List Char :=
  let ds := digits d.digits
  let lead := (ds.length : Int) - 1 + d.exponent
  if l.isPositional lead then l.plain ds d.exponent else scientific ds lead

def finite (l : Layout) (x : Finite64) : String :=
  let sign := if x.negative then ['-'] else []
  String.ofList <| sign ++
    (if x.isZero then l.plain ['0'] 0 else l.decimal (x.shortest l.tie))

end Layout

end GridQuery.Number
