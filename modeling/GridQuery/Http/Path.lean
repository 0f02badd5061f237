import GridQuery.Json.Token

/-!
Paths of requests: the part before the query or fragment, cut at slashes, and the decoding of a
segment.
-/

namespace GridQuery.Http

/-- The pieces between slashes, of which there is always one. -/
def splitSlashes : List Char → List (List Char)
  | [] => [[]]
  | c :: r =>
    match splitSlashes r with
    | p :: ps => if c = '/' then [] :: p :: ps else (c :: p) :: ps
    | [] => [[c]]

/-- The segments of a target, whose query and fragment do not count. -/
def segments (target : String) : List (List Char) :=
  splitSlashes (target.toList.takeWhile fun c => c != '?' && c != '#')

def hexByte? (a b : Char) : Option UInt8 :=
  match Json.hexValue? a, Json.hexValue? b with
  | some a, some b => some (16 * a + b).toUInt8
  | _, _ => none

/-- The bytes of a segment. A percent sign without two hexadecimal digits stands for itself. -/
def segmentBytes : List Char → List UInt8
  | '%' :: a :: b :: r =>
    match hexByte? a b with
    | some n => n :: segmentBytes r
    | none => '%'.toString.toUTF8.toList ++ segmentBytes (a :: b :: r)
  | c :: r => c.toString.toUTF8.toList ++ segmentBytes r
  | [] => []

/-- The text of a segment, if its bytes are UTF-8. -/
def decodeSegment (cs : List Char) : Option String :=
  String.fromUTF8? ⟨(segmentBytes cs).toArray⟩

end GridQuery.Http
