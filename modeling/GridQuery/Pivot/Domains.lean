import GridQuery.OrderedMap

/-!
Pivot domains: for each pivot column the values it takes. Columns keep the place of their first
insertion. The values that a source gives are sorted by code point and freed of repetitions.
-/

namespace GridQuery

structure Domains where
  entries : List (String × List String)
deriving DecidableEq, Repr

namespace Domains

def empty : Domains := ⟨[]⟩

def insert (d : Domains) (column : String) (values : List String) : Domains :=
  ⟨OrderedMap.put column values d.entries⟩

def get? (d : Domains) (column : String) : Option (List String) :=
  OrderedMap.get? column d.entries

def size (d : Domains) : Nat :=
  d.entries.length

def isEmpty (d : Domains) : Bool :=
  d.entries.isEmpty

def ofList (entries : List (String × List String)) : Domains :=
  entries.foldl (fun d e => d.insert e.1 e.2) empty

/-- Values in increasing order, each once. -/
def normalize (values : List String) : List String :=
  (values.mergeSort (fun a b => decide (a ≤ b))).eraseReps

end Domains

end GridQuery
