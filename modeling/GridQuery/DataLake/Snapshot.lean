/-!
A value that is replaced as a whole. Who holds an earlier value keeps it; a load that fails leaves
everything as it was.
-/

namespace GridQuery

structure Snapshot (α : Type) where
  current : α
  /-- How often the value has been replaced. -/
  generation : Nat := 0
deriving DecidableEq, Repr

namespace Snapshot

variable {α : Type}

def start (initial : α) : Snapshot α := ⟨initial, 0⟩

def replace (s : Snapshot α) (next : α) : Snapshot α :=
  ⟨next, s.generation + 1⟩

/-- Replaces the value by what was loaded, and tells whether it was. -/
def refresh (s : Snapshot α) (loaded : Except String α) : Snapshot α × Bool :=
  match loaded with
  | .ok next => (s.replace next, true)
  | .error _ => (s, false)

end Snapshot

end GridQuery
