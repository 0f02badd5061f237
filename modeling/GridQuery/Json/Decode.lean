import GridQuery.Json.Document

/-!
Decoders of documents. A record is read from an object, or from an array of its fields in their
order; unknown members are passed over and a repeated field is a fault. Faults come in the order
of the text.
-/

namespace GridQuery.Json

open GridQuery.Number

/-- How one field of a record under construction is read. -/
structure Member (σ : Type) where
  name : String
  read : Doc → σ → Except Fault σ

namespace Doc

/-- The fault of a value that is not of the shape wanted. -/
def wrongShape (d : Doc) : Fault :=
  d.headFault?.getD .shape

def asText : Doc → Except Fault String
  | text s => .ok s
  | d => .error d.wrongShape

/-- A natural number of 64 bits. -/
def asCount : Doc → Except Fault Nat
  | number (.natural n _) => .ok n
  | d => .error d.wrongShape

/-- A value that may be null. -/
def asOptional {α : Type} (read : Doc → Except Fault α) : Doc → Except Fault (Option α)
  | null => .ok none
  | d => (read d).map some

def asNumber : Doc → Except Fault Binary64
  | number n => .ok n.toBinary64
  | d => .error d.wrongShape

def readItems {α : Type} (read : Doc → Except Fault α) : List Doc → Except Fault (List α)
  | [] => .ok []
  | d :: r => do
    let a ← read d
    let as ← readItems read r
    return a :: as

/-- What remains to be said once the items or members have been read. -/
def closing {α : Type} (tail : Tail) (a : α) : Except Fault α :=
  match tail.readFault? with
  | some f => .error f
  | none => .ok a

def asList {α : Type} (read : Doc → Except Fault α) : Doc → Except Fault (List α)
  | array items tail => do closing tail (← readItems read items)
  | d => .error d.wrongShape

/-- Reads one member into the record. -/
def readMember {σ : Type} (fields : List (Member σ)) (seen : List String) (name : String) (d : Doc)
    (s : σ) : Except Fault (List String × σ) :=
  match fields.find? (·.name == name) with
  | some field =>
    if seen.contains name then .error .shape
    else do return (name :: seen, ← field.read d s)
  | none =>
    match d.skipFault? with
    | some f => .error f
    | none => .ok (seen, s)

def readMembers {σ : Type} (fields : List (Member σ)) (seen : List String) (s : σ) :
    List (Option String × Doc) → Except Fault σ
  | [] => .ok s
  | (none, _) :: _ => .error .malformed
  | (some name, d) :: r => do
    let (seen, s) ← readMember fields seen name d s
    readMembers fields seen s r

/-- Reads the fields from items, in their order. Items left over end the text too late. -/
def readPositions {σ : Type} (tail : Tail) :
    List (Member σ) → List Doc → σ → Except Fault σ
  | _, [], s => closing tail s
  | [], _ :: _, _ => .error .malformed
  | field :: fields, d :: r, s => do
    let s ← field.read d s
    readPositions tail fields r s

/-- Reads a record from its start value. -/
def asRecord {σ : Type} (fields : List (Member σ)) (start : σ) : Doc → Except Fault σ
  | object members tail => do closing tail (← readMembers fields [] start members)
  | array items tail => readPositions tail fields items start
  | d => .error d.wrongShape

def lookupWord {α : Type} (words : List (String × α)) (s : String) : Except Fault α :=
  match words.lookup s with
  | some a => .ok a
  | none => .error .shape

/-- The null that may follow a word. -/
def asNull : Doc → Except Fault Unit
  | null => .ok ()
  | d => .error d.wrongShape

/-- One of some words, as a string or as an object with that one name and the value null. Any
other kind of value breaks the text off. -/
def asWord {α : Type} (words : List (String × α)) : Doc → Except Fault α
  | text s => lookupWord words s
  | object [] tail =>
    match tail with
    | .closed => .error .malformed
    | .broken b => .error b.read
    | .stray f => .error (f.getD .shape)
  | object ((none, _) :: _) _ => .error .malformed
  | object ((some name, d) :: r) tail => do
    let a ← lookupWord words name
    asNull d
    if r.isEmpty then closing tail a else .error .malformed
  | d => .error (d.headFault?.getD .malformed)

/-- One of some words in a value that has been read in full: the value under the name may also be
an empty object. -/
def asHeldWord {α : Type} (words : List (String × α)) : Doc → Except Fault α
  | text s => lookupWord words s
  | object [(some name, d)] _ =>
    match d with
    | null => lookupWord words name
    | object [] _ => lookupWord words name
    | _ => .error .shape
  | _ => .error .shape

/-- Reads the value in full before it is decoded, so that every other fault is one of shape. -/
def held {α : Type} (depth : Nat) (read : Doc → Except Fault α) (d : Doc) : Except Fault α :=
  match d.readFault? depth with
  | some f => .error f
  | none => (read d).mapError fun _ => .shape

/-- Decodes a text. -/
def decodeText {α : Type} (read : Doc → Except Fault α) (s : String) : Except Fault α :=
  match ofText s with
  | (d, more) => do
    let a ← read d
    if more then .error .malformed else return a

/-- Decodes a value, which can only have the wrong shape. -/
def decodeValue {α : Type} (read : Doc → Except Fault α) (j : Json) : Except Fault α :=
  (read j.toDoc).mapError fun _ => .shape

end Doc

end GridQuery.Json
