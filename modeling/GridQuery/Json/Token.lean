import GridQuery.Json.Basic

/-!
The tokens of JSON text. The text is cut up to the first place where it stops being JSON; what
stands there is a token too, and says which fault is met there.
-/

namespace GridQuery.Json

open GridQuery.Number

/-- Why JSON could not be decoded: a value of the wrong shape, text that is not JSON, or text that
ends too early. -/
inductive Fault where
  | shape
  | malformed
  | ended
deriving DecidableEq, Repr

/-- A place where JSON stops. A reader that needs the value and one that passes it over may see
different faults there. -/
structure Break where
  read : Fault
  skip : Fault
deriving DecidableEq, Repr

namespace Break

def both (f : Fault) : Break := ⟨f, f⟩

def ended : Break := both .ended

def malformed : Break := both .malformed

end Break

inductive Token where
  | openArray
  | closeArray
  | openObject
  | closeObject
  | comma
  | colon
  | null
  | bool (b : Bool)
  | number (n : JsonNumber)
  /-- A number too large for any value. -/
  | hugeNumber
  | text (s : String)
  /-- A string with half a surrogate pair. -/
  | loneText
  /-- A string that does not end. -/
  | openText (why : Break)
  | stray (why : Break)

/-- A string holds characters and escaped code units. -/
inductive Piece where
  | char (c : Char)
  | unit (n : Nat)

inductive Scanned where
  | closed (pieces : List Piece) (rest : List Char)
  | stopped (pieces : List Piece) (why : Fault)

namespace Scanned

def push (p : Piece) : Scanned → Scanned
  | closed ps r => closed (p :: ps) r
  | stopped ps f => stopped (p :: ps) f

end Scanned

def hexValue? (c : Char) : Option Nat :=
  if '0' ≤ c ∧ c ≤ '9' then some (c.toNat - '0'.toNat)
  else if 'a' ≤ c ∧ c ≤ 'f' then some (c.toNat - 'a'.toNat + 10)
  else if 'A' ≤ c ∧ c ≤ 'F' then some (c.toNat - 'A'.toNat + 10)
  else none

def hexUnit? (a b c d : Char) : Option Nat :=
  match hexValue? a, hexValue? b, hexValue? c, hexValue? d with
  | some a, some b, some c, some d => some (4096 * a + 256 * b + 16 * c + d)
  | _, _, _, _ => none

/-- The character after a backslash, other than a code unit. -/
def escape? : Char → Option Char
  | '"' => some '"'
  | '\\' => some '\\'
  | '/' => some '/'
  | 'b' => some '\x08'
  | 'f' => some '\x0c'
  | 'n' => some '\n'
  | 'r' => some '\r'
  | 't' => some '\t'
  | _ => none

/-- Fewer than four bytes cannot hold a code unit, whatever they are. -/
def shortUnit (cs : List Char) : Fault :=
  if (String.ofList cs).utf8ByteSize < 4 then .ended else .malformed

/-- The inside of a string, up to its closing quote. -/
def scanText : List Char → Scanned
  | [] => .stopped [] .ended
  | '"' :: r => .closed [] r
  | '\\' :: 'u' :: a :: b :: c :: d :: r =>
    match hexUnit? a b c d with
    | some n => (scanText r).push (.unit n)
    | none => .stopped [] .malformed
  | '\\' :: 'u' :: r => .stopped [] (shortUnit r)
  | '\\' :: c :: r =>
    match escape? c with
    | some e => (scanText r).push (.char e)
    | none => .stopped [] .malformed
  | ['\\'] => .stopped [] .ended
  | c :: r => if c.toNat < 0x20 then .stopped [] .malformed else (scanText r).push (.char c)

def isHighSurrogate (n : Nat) : Bool :=
  0xD800 ≤ n && n ≤ 0xDBFF

def isLowSurrogate (n : Nat) : Bool :=
  0xDC00 ≤ n && n ≤ 0xDFFF

/-- Joins surrogate pairs; absent if a half stands alone. -/
def assemble? : List Piece → Option (List Char)
  | [] => some []
  | .char c :: r => (assemble? r).map (c :: ·)
  | .unit n :: .unit m :: r =>
    if isHighSurrogate n then
      if isLowSurrogate m then
        (assemble? r).map (Char.ofNat (0x10000 + 0x400 * (n - 0xD800) + (m - 0xDC00)) :: ·)
      else none
    else if isLowSurrogate n then none
    else (assemble? (.unit m :: r)).map (Char.ofNat n :: ·)
  | .unit n :: r =>
    if isHighSurrogate n || isLowSurrogate n then none
    else (assemble? r).map (Char.ofNat n :: ·)

/-- A surrogate stands alone and more text has been read behind it. -/
def hasLoneSurrogate : List Piece → Bool
  | [] => false
  | [.unit n] => isLowSurrogate n
  | .unit n :: .unit m :: r =>
    if isHighSurrogate n then !isLowSurrogate m || hasLoneSurrogate r
    else isLowSurrogate n || hasLoneSurrogate (.unit m :: r)
  | .unit n :: r => isHighSurrogate n || isLowSurrogate n || hasLoneSurrogate r
  | .char _ :: r => hasLoneSurrogate r

/-- The token of a string, from behind its opening quote. -/
def lexText (cs : List Char) : Token × List Char :=
  match scanText cs with
  | .closed ps r =>
    match assemble? ps with
    | some s => (.text (String.ofList s), r)
    | none => (.loneText, r)
  | .stopped ps f => (.openText ⟨if hasLoneSurrogate ps then .malformed else f, f⟩, [])

/-- A numeral that stops: its reader takes the end of the text for what it is, one that passes it
over for a fault in the numeral. -/
def numeralStop : List Char → Break
  | [] => ⟨.ended, .malformed⟩
  | _ => .malformed

def takeDigits (cs : List Char) : List Char × List Char :=
  (cs.takeWhile isDigit, cs.dropWhile isDigit)

/-- The digits before the point: a leading zero stands alone. -/
def lexWhole (cs : List Char) : Except Break (List Char × List Char) :=
  match takeDigits cs with
  | ([], r) => .error (numeralStop r)
  | ('0' :: _ :: _, _) => .error .malformed
  | (ds, r) => .ok (ds, r)

def lexFraction : List Char → Except Break (Option (List Char) × List Char)
  | '.' :: cs =>
    match takeDigits cs with
    | ([], r) => .error (numeralStop r)
    | (ds, r) => .ok (some ds, r)
  | cs => .ok (none, cs)

def lexExponent : List Char → Except Break (Option (Bool × List Char) × List Char)
  | c :: cs =>
    if c = 'e' ∨ c = 'E' then
      match splitSign cs with
      | (down, cs) =>
        match takeDigits cs with
        | ([], r) => .error (numeralStop r)
        | (ds, r) => .ok (some (down, ds), r)
    else .ok (none, c :: cs)
  | [] => .ok (none, [])

def lexNumeral (negative : Bool) (cs : List Char) :
    Except Break (JsonNumber.Numeral × List Char) := do
  let (whole, cs) ← lexWhole cs
  let (fraction, cs) ← lexFraction cs
  let (exponent, cs) ← lexExponent cs
  return (⟨negative, whole, fraction, exponent⟩, cs)

def lexNumber (negative : Bool) (cs : List Char) : Token × List Char :=
  match lexNumeral negative cs with
  | .ok (n, r) =>
    match JsonNumber.ofNumeral? n with
    | some n => (.number n, r)
    | none => (.hugeNumber, r)
  | .error b => (.stray b, [])

/-- The rest of one of the three words. -/
def lexWord (t : Token) : List Char → List Char → Token × List Char
  | [], r => (t, r)
  | _ :: _, [] => (.stray .ended, [])
  | w :: ws, c :: r => if w = c then lexWord t ws r else (.stray .malformed, [])

/-- The token that starts with `c`. -/
def lexOne (c : Char) (r : List Char) : Token × List Char :=
  match c with
  | '[' => (.openArray, r)
  | ']' => (.closeArray, r)
  | '\x7b' => (.openObject, r)
  | '\x7d' => (.closeObject, r)
  | ',' => (.comma, r)
  | ':' => (.colon, r)
  | '"' => lexText r
  | 'n' => lexWord .null ['u', 'l', 'l'] r
  | 't' => lexWord (.bool true) ['r', 'u', 'e'] r
  | 'f' => lexWord (.bool false) ['a', 'l', 's', 'e'] r
  | '-' => lexNumber true r
  | c => if isDigit c then lexNumber false (c :: r) else (.stray .malformed, [])

def isJsonBlank (c : Char) : Bool :=
  c == ' ' || c == '\t' || c == '\n' || c == '\r'

/-- Every token takes a character at least, so the length of the text is fuel enough. -/
def lexAll : Nat → List Char → List Token
  | 0, _ => []
  | fuel + 1, cs =>
    match cs.dropWhile isJsonBlank with
    | [] => []
    | c :: r =>
      match lexOne c r with
      | (t, r) => t :: lexAll fuel r

def tokens (s : String) : List Token :=
  let cs := s.toList
  lexAll cs.length cs

end GridQuery.Json
