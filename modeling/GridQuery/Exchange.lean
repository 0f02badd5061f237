import GridQuery.DomainCache
import GridQuery.Json.Basic
import GridQuery.Sql.Name

/-!
Computations that talk to the data source and to the cache of pivot domains. An `Exchange` is the
computation cut at every point where it asks something, so that other computations may come in
between; `run` takes one of them from start to end.
-/

namespace GridQuery

open GridQuery.Sql

/-- A question to the data source. -/
inductive SourceCall where
  | execute (sql : String)
  | distinct (relation : Relation) (column : Ident)
deriving DecidableEq

inductive Exchange (α : Type) where
  | done (a : α)
  /-- Asks the cache for the domain of a column. -/
  | lookup (table column : String) (next : Option (List String) → Exchange α)
  /-- Leaves a domain in the cache. -/
  | store (table column : String) (values : List String) (next : Exchange α)
  /-- Asks the source for the distinct values of a column. -/
  | distinct (relation : Relation) (column : Ident)
    (next : Except String (List String) → Exchange α)
  /-- Sends a query. -/
  | execute (sql : String) (next : Except String (List Row) → Exchange α)

namespace Exchange

variable {α β σ : Type}

def bind : Exchange α → (α → Exchange β) → Exchange β
  | done a, f => f a
  | lookup t c next, f => lookup t c fun v => (next v).bind f
  | store t c vs next, f => store t c vs (next.bind f)
  | distinct r c next, f => distinct r c fun v => (next v).bind f
  | execute q next, f => execute q fun v => (next v).bind f

end Exchange

/-- A data source: what it answers may depend on all that it was asked before. A failure is a
text. -/
structure Source (σ : Type) where
  execute : String → σ → Except String (List Row) × σ
  distinct : Relation → Ident → σ → Except String (List String) × σ

/-- What an exchange runs against: the source's state, the cache if there is one, the time, and
the calls made so far, the last first. -/
structure World (σ : Type) where
  state : σ
  cache : Option DomainCache
  now : Nat
  calls : List SourceCall

namespace Exchange

variable {α σ : Type}

/-- Runs an exchange without interruption. -/
def run (source : Source σ) : Exchange α → World σ → α × World σ
  | done a, w => (a, w)
  | lookup t c next, w => (next (w.cache.bind (·.lookup w.now t c))).run source w
  | store t c vs next, w => next.run source { w with cache := w.cache.map (·.store w.now t c vs) }
  | distinct r c next, w =>
    match source.distinct r c w.state with
    | (answer, s) =>
      (next answer).run source { w with state := s, calls := .distinct r c :: w.calls }
  | execute q next, w =>
    match source.execute q w.state with
    | (answer, s) =>
      (next answer).run source { w with state := s, calls := .execute q :: w.calls }

end Exchange

end GridQuery
