import GridQuery.Http.MediaType
import GridQuery.Http.Path
import GridQuery.DataLake.Refresh
import GridQuery.Request.Json
import GridQuery.RowModel

/-!
The service over HTTP: rows are asked for by POST, the snapshots of the lake by GET. Requests from
any origin are allowed.
-/

namespace GridQuery.Http

open GridQuery.Sql

structure Call where
  method : String
  /-- The path as sent, with the query if there is one. -/
  target : String
  headers : List (String × String)
  body : String

structure Reply where
  status : Nat
  allow : Option String := none
  body : Option Json := none

/-- The origins that may read every reply. -/
def allowOrigin : String := "*"

/-- What a path stands for; the segments are as sent. -/
inductive Route where
  | rows (table : List Char)
  | dashboard
  | features (kind key : List Char)
  | movements (key : List Char)
deriving DecidableEq, Repr

namespace Route

/-- The last segment of a path must not be empty. -/
def ofSegments? : List (List Char) → Option Route
  | [[], ['a', 'p', 'i'], first, second] =>
    if first = "rows".toList then if second = [] then none else some (rows second)
    else if first = "movements".toList then if second = [] then none else some (movements second)
    else none
  | [[], ['a', 'p', 'i'], first] => if first = "dashboard".toList then some dashboard else none
  | [[], ['a', 'p', 'i'], first, kind, key] =>
    if first = "features".toList then if key = [] then none else some (features kind key) else none
  | _ => none

/-- The methods of a route, as they are listed where another was used. -/
def allow : Route → String
  | rows _ => "POST"
  | _ => "GET,HEAD"

def accepts (r : Route) (method : String) : Bool :=
  match r with
  | rows _ => method == "POST"
  | _ => method == "GET" || method == "HEAD"

end Route

def Reply.ofJson (status : Nat) (j : Json) : Reply where
  status := status
  body := some j

def Reply.ofError (status : Nat) (message : String) : Reply :=
  .ofJson status (.object [("error", .text message)])

def Reply.ofResult : Except QueryError Response → Reply
  | .ok r => .ofJson 200 r.toJson
  | .error e => .ofError (if e.isCallerError then 400 else 502) e.message

/-- The first header of a name, whose case does not count. -/
def Call.header? (c : Call) (name : String) : Option String :=
  (c.headers.find? fun h => Text.lowerAscii h.1 == name).map (·.2)

/-- Decodes the body of a request for rows, or says with which status it is refused. -/
def readBody (c : Call) : Except Nat Request :=
  if (c.header? "content-type").any isJsonType then
    match Json.Doc.decodeText Request.read c.body with
    | .ok r => .ok r
    | .error .shape => .error 422
    | .error _ => .error 400
  else .error 415

def getRows (c : Call) (dialect : Dialect) (table : List Char) : Exchange Reply :=
  match decodeSegment table with
  | none => .done { status := 400 }
  | some table =>
    match readBody c with
    | .error status => .done { status := status }
    | .ok r => (r.getData table dialect).bind fun result => .done (.ofResult result)

def rowsJson (rows : List Row) : Json :=
  .array (rows.map .object)

def featuresJson (fs : List Feature) : Json :=
  rowsJson (fs.map (·.fields))

/-- The features of a key; a key without features has an empty list. -/
def getFeatures (l : DataLake) (kind key : String) : Reply :=
  let listed (s : Snapshot (List (String × List Feature))) : Reply :=
    .ofJson 200 (featuresJson ((OrderedMap.get? key s.current).getD []))
  if kind = "input" then listed l.inputFeatures
  else if kind = "output" then listed l.outputFeatures
  else .ofError 400 s!"unknown feature kind '{kind}'"

def mileageJson (m : Int) : Json :=
  match JsonNumber.ofInt? m with
  | some n => .number n
  | none => .null

def getMovement (l : DataLake) (key : String) : Reply :=
  match OrderedMap.get? key l.movements.current with
  | some m => .ofJson 200 (.object [("key", .text key), ("mileage", mileageJson m)])
  | none => .ofError 404 s!"no movements cached for '{key}'"

/-- Answers on a route whose method is right. -/
def serve (c : Call) (dialect : Dialect) (l : DataLake) : Route → Exchange Reply
  | .rows table => getRows c dialect table
  | .dashboard => .done (.ofJson 200 (rowsJson l.dashboard.current))
  | .features kind key =>
    match decodeSegment kind, decodeSegment key with
    | some kind, some key => .done (getFeatures l kind key)
    | _, _ => .done { status := 400 }
  | .movements key =>
    match decodeSegment key with
    | some key => .done (getMovement l key)
    | none => .done { status := 400 }

/-- Answers a request. A question about the options is answered on every path; HEAD is answered
as GET, without the body. -/
def handle (c : Call) (dialect : Dialect) (l : DataLake) : Exchange Reply :=
  let route := Route.ofSegments? (segments c.target)
  if c.method = "OPTIONS" then .done { status := 200, allow := route.map (·.allow) }
  else
    match route with
    | none => .done { status := 404 }
    | some r =>
      if r.accepts c.method then
        (serve c dialect l r).bind fun reply =>
          .done (if c.method = "HEAD" then { reply with body := none } else reply)
      else .done { status := 405, allow := some r.allow }

end GridQuery.Http
