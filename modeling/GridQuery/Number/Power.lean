/-!
Powers of two and of ten, which bound and scale the numbers of this library.
-/

namespace GridQuery.Number

def twoTo (n : Nat) : Nat :=
  Nat.pow 2 n

def tenTo (n : Nat) : Nat :=
  Nat.pow 10 n

/-- The integer has at most so many bits, its sign among them. -/
def isSigned (bits : Nat) (i : Int) : Bool :=
  -(twoTo (bits - 1) : Int) ≤ i && i < twoTo (bits - 1)

/-- The integer has no sign and at most so many bits. -/
def isUnsigned (bits : Nat) (i : Int) : Bool :=
  0 ≤ i && i < twoTo bits

theorem twoTo_succ (n : Nat) : twoTo (n + 1) = twoTo n * 2 := rfl

theorem tenTo_succ (n : Nat) : tenTo (n + 1) = tenTo n * 10 := rfl

theorem twoTo_pos (n : Nat) : 0 < twoTo n := by
  induction n with
  | zero => decide
  | succ n ih => rw [twoTo_succ]; omega

theorem tenTo_pos (n : Nat) : 0 < tenTo n := by
  induction n with
  | zero => decide
  | succ n ih => rw [tenTo_succ]; omega

end GridQuery.Number
