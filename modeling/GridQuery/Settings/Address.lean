import GridQuery.Number.Digits

/-!
Socket addresses: an IPv4 address or an IPv6 address in brackets, a colon and a number of 16 bits.
They are written in the one canonical form.
-/

namespace GridQuery

open GridQuery.Number

inductive SocketAddress where
  | v4 (octets : List Nat) (portNumber : Nat)
  | v6 (groups : List Nat) (scope portNumber : Nat)
deriving DecidableEq, Repr

namespace SocketAddress

def hexDigitValue? (c : Char) : Option Nat :=
  if isDigit c then some (digitValue c)
  else if 'a' ≤ c ∧ c ≤ 'f' then some (c.toNat - 'a'.toNat + 10)
  else if 'A' ≤ c ∧ c ≤ 'F' then some (c.toNat - 'A'.toNat + 10)
  else none

/-- A number of at least one decimal digit, below `bound`; zeros may stand in front. -/
def readNumber (bound : Nat) (cs : List Char) : Option (Nat × List Char) :=
  let ds := cs.takeWhile isDigit
  let n := digitsValue 0 ds
  if ds ≠ [] ∧ n < bound then some (n, cs.dropWhile isDigit) else none

/-- A number of at most three digits below 256, without zeros in front. -/
def readOctet (cs : List Char) : Option (Nat × List Char) :=
  let ds := cs.takeWhile isDigit
  if 3 < ds.length ∨ (ds.head? = some '0' ∧ 1 < ds.length) then none else readNumber 256 cs

def readChar (c : Char) : List Char → Option (List Char)
  | d :: r => if c = d then some r else none
  | [] => none

/-- Four octets with points between them. -/
def readV4 (cs : List Char) : Option (List Nat × List Char) := do
  let (a, cs) ← readOctet cs
  let (b, cs) ← readOctet (← readChar '.' cs)
  let (c, cs) ← readOctet (← readChar '.' cs)
  let (d, cs) ← readOctet (← readChar '.' cs)
  return ([a, b, c, d], cs)

/-- A group of one to four hexadecimal digits. -/
def readGroup (cs : List Char) : Option (Nat × List Char) :=
  let ds := cs.takeWhile fun c => (hexDigitValue? c).isSome
  if ds = [] ∨ 4 < ds.length then none
  else some (ds.foldl (fun n c => 16 * n + (hexDigitValue? c).getD 0) 0, cs.drop ds.length)

/-- A colon, except before the first group. -/
def readSeparator (first : Bool) (cs : List Char) : Option (List Char) :=
  if first then some cs else readChar ':' cs

/-- At most `limit` groups; an IPv4 address may stand for the last two. Tells whether one does. -/
def readGroups (first : Bool) : Nat → List Char → List Nat × Bool × List Char
  | 0, cs => ([], false, cs)
  | limit + 1, cs =>
    let mapped := if limit = 0 then none else (readSeparator first cs).bind readV4
    match mapped with
    | some ([a, b, c, d], r) => ([256 * a + b, 256 * c + d], true, r)
    | _ =>
      match (readSeparator first cs).bind readGroup with
      | some (g, r) =>
        match readGroups false limit r with
        | (gs, mapped, r) => (g :: gs, mapped, r)
      | none => ([], false, cs)

/-- Eight groups, of which a run of zeros may be left out between two colons. -/
def readV6 (cs : List Char) : Option (List Nat × List Char) :=
  match readGroups true 8 cs with
  | (front, mapped, cs) =>
    if front.length = 8 then some (front, cs)
    else if mapped then none
    else do
      let cs ← readChar ':' (← readChar ':' cs)
      let (back, _, cs) := readGroups true (7 - front.length) cs
      return (front ++ List.replicate (8 - front.length - back.length) 0 ++ back, cs)

def readPortNumber (cs : List Char) : Option (Nat × List Char) := do
  readNumber (twoTo 16) (← readChar ':' cs)

def readScope (cs : List Char) : Nat × List Char :=
  ((readChar '%' cs).bind (readNumber (twoTo 32))).getD (0, cs)

def readV4Socket (cs : List Char) : Option (SocketAddress × List Char) := do
  let (octets, cs) ← readV4 cs
  let (portNumber, cs) ← readPortNumber cs
  return (v4 octets portNumber, cs)

def readV6Socket (cs : List Char) : Option (SocketAddress × List Char) := do
  let (groups, cs) ← readV6 (← readChar '[' cs)
  let (scope, cs) := readScope cs
  let (portNumber, cs) ← readPortNumber (← readChar ']' cs)
  return (v6 groups scope portNumber, cs)

def ofText? (s : String) : Option SocketAddress :=
  match (readV4Socket s.toList).or (readV6Socket s.toList) with
  | some (a, []) => some a
  | _ => none

def v4Text (octets : List Nat) : String :=
  ".".intercalate (octets.map natText)

def groupsText (groups : List Nat) : String :=
  ":".intercalate (groups.map fun g => String.ofList (Nat.toDigits 16 g))

/-- How many groups in front are zero. -/
def zeroRun (groups : List Nat) : Nat :=
  (groups.takeWhile (· == 0)).length

/-- Start and length of the longest run of zero groups, the first of equally long ones. -/
def longestRun (start : Nat) : List Nat → Nat × Nat
  | [] => (start, 0)
  | g :: r =>
    let here := zeroRun (g :: r)
    let later := longestRun (start + 1) r
    if later.2 ≤ here then (start, here) else later

/-- The longest run of two or more zero groups is left out; an address that maps an IPv4 address
shows it. -/
def v6Text (groups : List Nat) : String :=
  match groups with
  | [0, 0, 0, 0, 0, 0xFFFF, a, b] =>
    "::ffff:" ++ v4Text [a / 256, a % 256, b / 256, b % 256]
  | groups =>
    match longestRun 0 groups with
    | (start, length) =>
      if 1 < length then
        groupsText (groups.take start) ++ "::" ++ groupsText (groups.drop (start + length))
      else groupsText groups

def text : SocketAddress → String
  | v4 octets portNumber => v4Text octets ++ ":" ++ natText portNumber
  | v6 groups scope portNumber =>
    "[" ++ v6Text groups ++ (if scope = 0 then "" else "%" ++ natText scope) ++ "]:" ++
      natText portNumber

end SocketAddress

end GridQuery
