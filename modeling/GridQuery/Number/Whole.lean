import GridQuery.Number.Binary64

/-!
Whole numbers from floating point: comparing two values, the fraction of a value, and its conversion
to an integer of some bits, which is clamped to them and drops the fraction.
-/

namespace GridQuery.Number

/-- The bounds of the integers of so many bits. -/
def leastSigned (bits : Nat) : Int :=
  -(twoTo (bits - 1) : Int)

def greatestSigned (bits : Nat) : Int :=
  twoTo (bits - 1) - 1

def signedNat (negative : Bool) (n : Nat) : Int :=
  if negative then -(n : Int) else n

namespace Finite64

/-- Compares two values over one denominator. -/
def compare (x y : Finite64) : Ordering :=
  let a := signedNat x.negative (x.ratio.1 * y.ratio.2)
  let b := signedNat y.negative (y.ratio.1 * x.ratio.2)
  if a < b then .lt else if a = b then .eq else .gt

/-- The value without its fraction. -/
def trunc (x : Finite64) : Int :=
  signedNat x.negative (x.ratio.1 / x.ratio.2)

def hasFraction (x : Finite64) : Bool :=
  x.ratio.1 % x.ratio.2 != 0

end Finite64

namespace Binary64

/-- The order of two values; there is none if one of them is no number. -/
def compare? : Binary64 → Binary64 → Option Ordering
  | nan, _ => none
  | _, nan => none
  | infinite s, infinite t =>
    some (if s = t then .eq else if s then .lt else .gt)
  | infinite s, finite _ => some (if s then .lt else .gt)
  | finite _, infinite t => some (if t then .gt else .lt)
  | finite x, finite y => some (x.compare y)

def lt (x y : Binary64) : Bool :=
  compare? x y == some .lt

def ge (x y : Binary64) : Bool :=
  compare? x y == some .gt || compare? x y == some .eq

/-- A value without a fraction; an infinite one leaves no number as its fraction. -/
def isWhole : Binary64 → Bool
  | finite x => !x.hasFraction
  | _ => false

/-- The integer of so many bits that is left without the fraction. What lies outside becomes the
nearest of them, and what is no number becomes zero. -/
def toSigned (bits : Nat) : Binary64 → Int
  | nan => 0
  | infinite s => if s then leastSigned bits else greatestSigned bits
  | finite x => max (leastSigned bits) (min (greatestSigned bits) x.trunc)

end Binary64

end GridQuery.Number
