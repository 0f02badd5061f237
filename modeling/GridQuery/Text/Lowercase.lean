import GridQuery.Text.CaseData

/-!
Lower case, for ASCII alone and for the whole of Unicode. Two cases are not a mapping of single
characters: the capital I with a dot becomes two characters, and a sigma at the end of a word has
a form of its own.
-/

namespace GridQuery.Text

def lowerAscii (s : String) : String :=
  s.map Char.toLower

def inRanges (ranges : Array (Nat × Nat)) (c : Char) : Bool :=
  ranges.any fun (first, last) => first ≤ c.toNat && c.toNat ≤ last

def isCaseIgnorable (c : Char) : Bool :=
  inRanges caseIgnorableRanges c

def isCased (c : Char) : Bool :=
  inRanges casedRanges c

/-- The run that a letter belongs to says how far its small letter is. -/
def CaseRun.lower? (r : CaseRun) (c : Char) : Option Char :=
  let n := c.toNat
  if r.first ≤ n ∧ n ≤ r.last ∧ (n - r.first) % r.step = 0 then
    some (Char.ofNat (n + r.shift).toNat)
  else none

def lowerChar (c : Char) : Char :=
  if c.toNat < 0x80 then c.toLower else (caseRuns.findSome? (·.lower? c)).getD c

/-- The next character that is not passed over is a letter with case. -/
def meetsCased (cs : List Char) : Bool :=
  match cs.dropWhile isCaseIgnorable with
  | [] => false
  | c :: _ => isCased c

/-- Lowers `cs`, where `before` holds what precedes it, nearest first. -/
def lowerFrom (before : List Char) : List Char → List Char
  | [] => []
  | c :: r =>
    let here :=
      if c = 'Σ' then [if meetsCased before && !meetsCased r then 'ς' else 'σ']
      else if c = 'İ' then ['i', '\u0307']
      else [lowerChar c]
    here ++ lowerFrom (c :: before) r

def lower (s : String) : String :=
  String.ofList (lowerFrom [] s.toList)

end GridQuery.Text
