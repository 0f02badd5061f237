import GridQuery.Number.Binary64
import GridQuery.Number.Digits

/-!
Fixed-point decimals: a whole mantissa below `2 ^ 96` and at most 28 places behind the point. They
are read from text with every place kept as long as it fits, written with all their places, and
turned into binary floating point.
-/

namespace GridQuery.Number

/-- The value `± mantissa / 10 ^ scale`. -/
structure Fixed96 where
  negative : Bool
  mantissa : Nat
  scale : Nat
deriving DecidableEq, Repr

namespace Fixed96

def mantissaLimit : Nat := twoTo 96

def maxScale : Nat := 28

/-- A zero has no sign. -/
def make (negative : Bool) (mantissa scale : Nat) : Fixed96 :=
  ⟨negative && mantissa != 0, mantissa, scale⟩

/-- Rounds by the first place that no longer fits. A mantissa that would reach the limit gives up
one more place. -/
def roundLast (negative : Bool) (mantissa scale digit : Nat) : Option Fixed96 :=
  if digit < 5 then some (make negative mantissa scale)
  else if mantissa + 1 < mantissaLimit then some (make negative (mantissa + 1) scale)
  else if scale = 0 then none
  else some (make negative ((mantissa + 1 + 4) / 10) (scale - 1))

/-- What may follow the place that was rounded away. -/
def isTail (cs : List Char) : Bool :=
  cs.all fun c => isDigit c || c == '_'

structure Progress where
  mantissa : Nat
  scale : Nat
  /-- The point has been read. -/
  point : Bool
  /-- A digit has been read. -/
  digit : Bool

/-- Reads digits, at most one point, and underscores after the first digit or the point. -/
def readPlaces (negative : Bool) (p : Progress) : List Char → Option Fixed96
  | [] => if p.digit then some (make negative p.mantissa p.scale) else none
  | c :: r =>
    if isDigit c then
      let next := 10 * p.mantissa + digitValue c
      if p.point ∧ (maxScale ≤ p.scale ∨ mantissaLimit ≤ next) then
        if isTail r then roundLast negative p.mantissa p.scale (digitValue c) else none
      else if mantissaLimit ≤ next then none
      else readPlaces negative
        { p with mantissa := next, scale := if p.point then p.scale + 1 else 0, digit := true } r
    else if c = '_' then
      if !p.digit && !p.point then none
      else if p.point ∧ maxScale ≤ p.scale then
        if isTail r then some (make negative p.mantissa p.scale) else none
      else readPlaces negative p r
    else if c = '.' then
      if p.point then none else readPlaces negative { p with point := true } r
    else none

/-- A decimal without exponent. -/
def ofPlain? (cs : List Char) : Option Fixed96 :=
  match splitSign cs with
  | (negative, r) => readPlaces negative ⟨0, 0, false, false⟩ r

/-- Lowers the exponent by `places`, rounding the places beyond the last away. -/
def shiftDown (x : Fixed96) (places : Nat) : Fixed96 :=
  let excess := x.scale + places - maxScale
  if excess = 0 then { x with scale := x.scale + places }
  else make x.negative (roundUp x.mantissa (tenTo excess)) maxScale

/-- Raises the exponent by `places`. -/
def shiftUp? (x : Fixed96) (places : Nat) : Option Fixed96 :=
  if places ≤ x.scale then some { x with scale := x.scale - places }
  else
    let m := x.mantissa * tenTo (places - x.scale)
    if m < mantissaLimit then some (make x.negative m 0) else none

/-- A decimal with an exponent of at most 28 either way. -/
def ofScientific? (cs : List Char) : Option Fixed96 :=
  let isMark := fun c => c == 'e' || c == 'E'
  match cs.dropWhile (!isMark ·) with
  | [] => none
  | _ :: exponent => (ofPlain? (cs.takeWhile (!isMark ·))).bind fun x =>
    let places (e : List Char) : Option Nat :=
      match readBelow (twoTo 32) (String.ofList e) with
      | .ok n => if n ≤ maxScale then some n else none
      | .error _ => none
    match exponent with
    | '-' :: e => (places e).map x.shiftDown
    | e => (places e).bind x.shiftUp?

def ofText? (s : String) : Option Fixed96 :=
  (ofPlain? s.toList).or (ofScientific? s.toList)

/-- All places are written, trailing zeros too. -/
def text (x : Fixed96) : String :=
  let ds := paddedDigits (x.scale + 1) x.mantissa
  let whole := ds.length - x.scale
  String.ofList <| (if x.negative then ['-'] else []) ++ ds.take whole ++
    (if x.scale = 0 then [] else '.' :: ds.drop whole)

/-- The whole part and the fraction are converted apart; their sum is then rounded at the last
place, so that the conversion reads back to the places that were written. -/
def toBinary64 (x : Fixed96) : Binary64 :=
  let signed (v : Binary64) := if x.negative then v.neg else v
  let p := tenTo x.scale
  if x.scale = 0 ∨ x.mantissa % p = 0 then signed (.ofNat (x.mantissa / p))
  else signed <|
    match Binary64.ofNat (x.mantissa / p), Binary64.ofNat (x.mantissa % p), Binary64.ofNat p with
    | .finite whole, .finite fraction, .finite p =>
      match Binary64.div fraction p with
      | .finite f =>
        match Binary64.addAbs whole f with
        | .finite v =>
          match Binary64.mul v p with
          | .finite scaled =>
            match Binary64.roundAway scaled with
            | .finite rounded => Binary64.div rounded p
            | v => v
          | v => v
        | v => v
      | v => v
    | _, _, v => v

end Fixed96

end GridQuery.Number
