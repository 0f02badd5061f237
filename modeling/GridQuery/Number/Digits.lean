import GridQuery.Number.Power

/-!
Decimal digits: the text of a natural number, and the reading of digit strings. Only the ten
ASCII digits count.
-/

namespace GridQuery.Number

def isDigit (c : Char) : Bool :=
  '0' ≤ c && c ≤ '9'

def digitValue (c : Char) : Nat :=
  c.toNat - '0'.toNat

/-- The value of a digit string that continues `acc`. -/
def digitsValue (acc : Nat) (cs : List Char) : Nat :=
  cs.foldl (fun n c => 10 * n + digitValue c) acc

/-- The digits of `n`, without leading zeros. -/
def digits (n : Nat) : List Char :=
  Nat.toDigits 10 n

/-- The digits of `n`, with zeros in front up to `width`. -/
def paddedDigits (width n : Nat) : List Char :=
  List.replicate (width - (digits n).length) '0' ++ digits n

def natText (n : Nat) : String :=
  String.ofList (digits n)

def intText (i : Int) : String :=
  if i < 0 then "-" ++ natText i.natAbs else natText i.natAbs

/-- Why a whole number could not be read. -/
inductive WholeError where
  | invalidDigit
  | tooLarge
deriving DecidableEq, Repr

/-- Splits a sign off; a missing sign is a plus. -/
def splitSign : List Char → Bool × List Char
  | '-' :: r => (true, r)
  | '+' :: r => (false, r)
  | r => (false, r)

/-- One or more digits and nothing else. -/
def readDigits? (cs : List Char) : Option Nat :=
  if cs ≠ [] ∧ cs.all isDigit then some (digitsValue 0 cs) else none

/-- An optionally signed whole number. -/
def readInt? (cs : List Char) : Option Int :=
  match splitSign cs with
  | (negative, r) => (readDigits? r).map fun n => if negative then -(n : Int) else n

/-- A whole number of at most so many bits, optionally signed. -/
def readSigned? (bits : Nat) (s : String) : Option Int :=
  (readInt? s.toList).filter (isSigned bits)

/-- A natural number below `bound`; a plus in front is allowed, a minus is no digit. A number
that runs over is too large only if all that was read up to there are digits. -/
def readBelow (bound : Nat) (s : String) : Except WholeError Nat :=
  let cs := match s.toList with
    | '+' :: r => r
    | r => r
  if cs = [] then .error .invalidDigit else go 0 cs
where
  go (acc : Nat) : List Char → Except WholeError Nat
    | [] => .ok acc
    | c :: r =>
      if isDigit c then
        let next := 10 * acc + digitValue c
        if next < bound then go next r else .error .tooLarge
      else .error .invalidDigit

end GridQuery.Number
