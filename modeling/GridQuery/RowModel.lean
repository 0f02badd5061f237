import GridQuery.Compile
import GridQuery.Exchange
import GridQuery.Response

/-!
Answering a request for rows: resolve the pivot domains, compile, execute. Nothing is asked of the
source before the request has been validated.
-/

namespace GridQuery

open GridQuery.Sql

/-- The domain of one column, read from the source. -/
def readDomain (table column : String) : Exchange (Except QueryError (List String)) :=
  match Relation.ofText table, Ident.ofText column with
  | .error e, _ => .done (.error e)
  | _, .error e => .done (.error e)
  | .ok r, .ok c => .distinct r c fun
    | .error cause =>
      .done (.error (.executionFailure table s!"SELECT DISTINCT {c.name} FROM {r.name}" cause))
    | .ok values => .done (.ok (Domains.normalize values))

/-- The domain of one column, from the cache if it holds one. -/
def resolveDomain (table column : String) : Exchange (Except QueryError (List String)) :=
  .lookup table column fun
    | some values => .done (.ok values)
    | none => (readDomain table column).bind fun
      | .error e => .done (.error e)
      | .ok values => .store table column values (.done (.ok values))

/-- The domains of the columns, one after the other, up to the first failure. -/
def resolveDomains (table : String) (acc : Domains) :
    List Column → Exchange (Except QueryError Domains)
  | [] => .done (.ok acc)
  | c :: r => (resolveDomain table c.field).bind fun
    | .error e => .done (.error e)
    | .ok values => resolveDomains table (acc.insert c.field values) r

namespace Request

/-- The domains that the request needs. -/
def resolve (r : Request) (table : String) : Exchange (Except QueryError Domains) :=
  if r.isPivoting then resolveDomains table .empty r.pivotCols else .done (.ok .empty)

/-- Sends the query for the request and answers with its rows. -/
def fetch (r : Request) (table : String) (dialect : Dialect) (d : Domains) :
    Exchange (Except QueryError Response) :=
  match r.toSql table d dialect with
  | .error e => .done (.error e)
  | .ok sql => .execute sql fun
    | .error cause => .done (.error (.executionFailure table sql cause))
    | .ok rows => .done (.ok (.build r rows d))

/-- The answer to a request on a table. -/
def getData (r : Request) (table : String) (dialect : Dialect) :
    Exchange (Except QueryError Response) :=
  match r.validate table with
  | .error e => .done (.error e)
  | .ok _ => (r.resolve table).bind fun
    | .error e => .done (.error e)
    | .ok d => r.fetch table dialect d

end Request

end GridQuery
