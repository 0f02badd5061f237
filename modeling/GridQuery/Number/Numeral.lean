import GridQuery.Number.Binary64
import GridQuery.Number.Digits
import GridQuery.Text.Lowercase

/-!
Floating-point numerals in text: an optional sign, digits with an optional point, an optional
exponent; or one of the words `inf`, `infinity` and `nan` in any ASCII case. The value is rounded
once.
-/

namespace GridQuery.Number

/-- The digits in front and what follows them. -/
def spanDigits (cs : List Char) : List Char × List Char :=
  (cs.takeWhile isDigit, cs.dropWhile isDigit)

/-- An exponent part, or nothing; the whole rest must be read. -/
def readExponent? : List Char → Option Int
  | [] => some 0
  | c :: r => if c = 'e' ∨ c = 'E' then readInt? r else none

/-- An unsigned numeral as digits and exponent. -/
def readMagnitude? (cs : List Char) : Option (Nat × Int) :=
  let (whole, rest) := spanDigits cs
  let (fraction, rest) := match rest with
    | '.' :: r => spanDigits r
    | r => ([], r)
  if whole = [] ∧ fraction = [] then none
  else (readExponent? rest).map fun e =>
    (digitsValue (digitsValue 0 whole) fraction, e - fraction.length)

def Binary64.ofText? (s : String) : Option Binary64 :=
  let (negative, cs) := splitSign s.toList
  let word := Text.lowerAscii (String.ofList cs)
  if word = "inf" ∨ word = "infinity" then some (.infinite negative)
  else if word = "nan" then some .nan
  else (readMagnitude? cs).map fun (digits, e) => .ofDecimal negative digits e

end GridQuery.Number
