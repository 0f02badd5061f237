import GridQuery.Json.Token

/-!
JSON text as far as it can be read. A document keeps the members of an object in the order of the
text, repeated names included, and shows where the text breaks off, so that a decoder that walks
it meets the faults in the order of the text.
-/

namespace GridQuery.Json

/-- How the inside of an array or object ends. -/
inductive Tail where
  | closed
  | broken (why : Break)
  /-- Something else stands where a name must. Where a word is wanted it is read as a value, with
  the fault given, or none. -/
  | stray (asValue : Option Fault)

inductive Doc where
  | null
  | bool (b : Bool)
  | number (n : JsonNumber)
  | text (s : String)
  /-- A literal that has no value, which shows only when it is read. -/
  | valueless
  | broken (why : Break)
  | array (items : List Doc) (tail : Tail)
  /-- A name without value is a string with half a surrogate pair. -/
  | object (members : List (Option String × Doc)) (tail : Tail)

/-- Deeper nesting than this is not read. -/
def maxDepth : Nat := 127

namespace Tail

def readFault? : Tail → Option Fault
  | closed => none
  | broken b => some b.read
  | stray _ => some .malformed

def skipFault? : Tail → Option Fault
  | closed => none
  | broken b => some b.skip
  | stray _ => some .malformed

/-- How a list of items or members ends before the token that is met there. -/
def ofTokens : List Token → Tail
  | [] => .broken .ended
  | _ => .broken .malformed

end Tail

namespace Doc

/-- The fault of the value itself, whatever is inside it. -/
def headFault? : Doc → Option Fault
  | valueless => some .malformed
  | broken b => some b.read
  | _ => none

mutual

/-- A value and the tokens behind it; none are left after a break. -/
def parseValue : Nat → List Token → Doc × List Token
  | 0, _ => (.broken .ended, [])
  | _ + 1, [] => (.broken .ended, [])
  | fuel + 1, t :: ts =>
    match t with
    | .null => (.null, ts)
    | .bool b => (.bool b, ts)
    | .number n => (.number n, ts)
    | .text s => (.text s, ts)
    | .hugeNumber => (.valueless, ts)
    | .loneText => (.valueless, ts)
    | .openArray =>
      match ts with
      | .closeArray :: r => (.array [] .closed, r)
      | ts =>
        match parseItems fuel ts with
        | (ds, tail, r) => (.array ds tail, r)
    | .openObject =>
      match ts with
      | .closeObject :: r => (.object [] .closed, r)
      | ts =>
        match parseMembers fuel ts with
        | (ms, tail, r) => (.object ms tail, r)
    | .openText b => (.broken b, [])
    | .stray b => (.broken b, [])
    | _ => (.broken .malformed, [])

def parseItems : Nat → List Token → List Doc × Tail × List Token
  | 0, _ => ([], .broken .ended, [])
  | fuel + 1, ts =>
    match parseValue fuel ts with
    | (d, .comma :: r) =>
      match parseItems fuel r with
      | (ds, tail, r) => (d :: ds, tail, r)
    | (d, .closeArray :: r) => ([d], .closed, r)
    | (d, r) => ([d], .ofTokens r, [])

def parseMembers : Nat → List Token → List (Option String × Doc) × Tail × List Token
  | 0, _ => ([], .broken .ended, [])
  | fuel + 1, ts =>
    match ts with
    | .text name :: r => parseMember fuel (some name) r
    | .loneText :: r => parseMember fuel none r
    | .openText b :: _ => ([], .broken b, [])
    | [] => ([], .broken .ended, [])
    | ts => ([], .stray (parseValue fuel ts).1.headFault?, [])

def parseMember : Nat → Option String → List Token → List (Option String × Doc) × Tail × List Token
  | 0, _, _ => ([], .broken .ended, [])
  | fuel + 1, name, ts =>
    match ts with
    | .colon :: r =>
      match parseValue fuel r with
      | (d, .comma :: r) =>
        match parseMembers fuel r with
        | (ms, tail, r) => ((name, d) :: ms, tail, r)
      | (d, .closeObject :: r) => ([(name, d)], .closed, r)
      | (d, r) => ([(name, d)], .ofTokens r, [])
    | [] => ([(name, .broken .ended)], .broken .ended, [])
    | _ => ([(name, .broken .malformed)], .broken .malformed, [])

end

/-- The document of a text, and whether something follows it. -/
def ofText (s : String) : Doc × Bool :=
  let ts := tokens s
  match parseValue (3 * ts.length + 3) ts with
  | (d, rest) => (d, !rest.isEmpty)

mutual

/-- The first fault met when the whole value is read, `depth` containers being open around it. -/
def readFault? (depth : Nat) : Doc → Option Fault
  | array items tail =>
    if maxDepth ≤ depth then some .malformed
    else (itemsReadFault? (depth + 1) items).or tail.readFault?
  | object members tail =>
    if maxDepth ≤ depth then some .malformed
    else (membersReadFault? (depth + 1) members).or tail.readFault?
  | d => d.headFault?

def itemsReadFault? (depth : Nat) : List Doc → Option Fault
  | [] => none
  | d :: r => (d.readFault? depth).or (itemsReadFault? depth r)

def membersReadFault? (depth : Nat) : List (Option String × Doc) → Option Fault
  | [] => none
  | (none, _) :: _ => some .malformed
  | (some _, d) :: r => (d.readFault? depth).or (membersReadFault? depth r)

end

mutual

/-- The first fault met when the value is passed over. Its literals need no value then, and it may
be nested to any depth. -/
def skipFault? : Doc → Option Fault
  | broken b => some b.skip
  | array items tail => (itemsSkipFault? items).or tail.skipFault?
  | object members tail => (membersSkipFault? members).or tail.skipFault?
  | _ => none

def itemsSkipFault? : List Doc → Option Fault
  | [] => none
  | d :: r => (d.skipFault?).or (itemsSkipFault? r)

def membersSkipFault? : List (Option String × Doc) → Option Fault
  | [] => none
  | (_, d) :: r => (d.skipFault?).or (membersSkipFault? r)

end

mutual

/-- The value of a document without faults. Of members with one name the last counts. -/
def toJson : Doc → Json
  | bool b => .bool b
  | number n => .number n
  | text s => .text s
  | array items _ => .array (itemsToJson items)
  | object members _ => .object (OrderedMap.ofList (membersToJson members))
  | _ => .null

def itemsToJson : List Doc → List Json
  | [] => []
  | d :: r => d.toJson :: itemsToJson r

def membersToJson : List (Option String × Doc) → List (String × Json)
  | [] => []
  | (name, d) :: r => (name.getD "", d.toJson) :: membersToJson r

end

end Doc

mutual

/-- A value as a document that is complete. -/
def toDoc : Json → Doc
  | null => .null
  | bool b => .bool b
  | number n => .number n
  | text s => .text s
  | array items => .array (itemsToDoc items) .closed
  | object members => .object (membersToDoc members) .closed

def itemsToDoc : List Json → List Doc
  | [] => []
  | j :: r => j.toDoc :: itemsToDoc r

def membersToDoc : List (String × Json) → List (Option String × Doc)
  | [] => []
  | (name, j) :: r => (some name, j.toDoc) :: membersToDoc r

end

def ofText (s : String) : Except Fault Json :=
  match Doc.ofText s with
  | (d, more) =>
    match d.readFault? 0 with
    | some f => .error f
    | none => if more then .error .malformed else .ok d.toJson

end GridQuery.Json
