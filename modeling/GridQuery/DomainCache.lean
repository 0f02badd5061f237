import GridQuery.OrderedMap

/-!
Pivot domains that have been read lately, by table and column. An entry answers while it is
younger than the lifetime; it stays, unused, until it is overwritten or its table is invalidated.
A lifetime of zero keeps nothing.
-/

namespace GridQuery

structure DomainCache where
  lifetime : Nat
  /-- Under table and column: the time of storing and the values. -/
  entries : List ((String × String) × (Nat × List String))
deriving DecidableEq, Repr

namespace DomainCache

def empty (lifetime : Nat) : DomainCache := ⟨lifetime, []⟩

/-- The values of a column, if they were stored less than a lifetime before `now`. -/
def lookup (c : DomainCache) (now : Nat) (table column : String) : Option (List String) :=
  match OrderedMap.get? (table, column) c.entries with
  | some (stored, values) => if now - stored < c.lifetime then some values else none
  | none => none

def store (c : DomainCache) (now : Nat) (table column : String) (values : List String) :
    DomainCache :=
  if c.lifetime = 0 then c
  else { c with entries := OrderedMap.put (table, column) (now, values) c.entries }

/-- Forgets every column of a table. -/
def invalidate (c : DomainCache) (table : String) : DomainCache :=
  { c with entries := c.entries.filter fun e => e.1.1 != table }

def size (c : DomainCache) : Nat :=
  c.entries.length

end DomainCache

end GridQuery
