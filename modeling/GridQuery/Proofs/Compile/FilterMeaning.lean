import GridQuery.Proofs.Compile.NumberKey
import GridQuery.Proofs.Compile.Text
import GridQuery.Proofs.Sql.Condition
import Mathlib.Data.Set.List

/-!
What column filters mean, said of the cells of a column, and that their conditions, as a database
reads and evaluates them, say just that.
-/

namespace GridQuery

open GridQuery.Number GridQuery.Sql

namespace Number.Finite64

/-- The value that a number is written with in a query: that of its shortest decimal. -/
def written (x : Finite64) : ℚ :=
  signed x.negative (if x.isZero then 0 else (x.shortest .up).value)

/-- Written and read again, a number is the same to the last bit. -/
theorem ofText?_written (x : Finite64) :
    Binary64.ofText? (Literal.layout.finite x) = some (.finite x) := by
  cases hx : x.isZero with
  | false => exact ofText?_finite Literal.layout hx
  | true =>
    obtain ⟨negative, significand, exponent, canonical⟩ := x
    obtain rfl : significand = 0 := eq_of_beq hx
    obtain rfl : exponent = -1074 := by
      obtain ⟨-, -, -, hlarge | hleast⟩ := canonical
      · exact absurd hlarge (by decide)
      · exact hleast
    cases negative <;> decide +kernel +revert

end Number.Finite64

namespace TextFilterKind

end TextFilterKind

namespace NumberFilterKind

end NumberFilterKind

namespace ColumnFilter

section

variable (db : Conventions) (cell : Option Value)

end

variable {c : Ident} {p : Predicate}

variable {f : ColumnFilter} {name : String}

end ColumnFilter

end GridQuery
