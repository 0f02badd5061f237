import GridQuery.Number.Binary64

/-!
Narrowing to binary floating point with 24 significant bits. The result is given again with 53
bits, which hold it exactly.
-/

namespace GridQuery.Number

namespace Finite64

/-- The exponent at which the significand has 24 bits, or the least exponent there is. -/
def narrowExponent (x : Finite64) : Int :=
  max (-149) (x.exponent + (Nat.log2 x.significand : Int) - 23)

/-- The nearest value with 24 bits, a tie going to the even significand; infinite from `2 ^ 128`
on. -/
def narrow (x : Finite64) : Binary64 :=
  let e := x.narrowExponent
  if x.isZero ∨ e ≤ x.exponent ∧ e ≤ 104 then .finite x
  else
    let m := roundEven x.significand (twoTo (e - x.exponent).toNat)
    if twoTo 128 ≤ m * twoTo e.toNat then .infinite x.negative
    else .ofRatio x.negative (m * twoTo e.toNat) (twoTo (-e).toNat)

end Finite64

namespace Binary64

def narrow : Binary64 → Binary64
  | finite x => x.narrow
  | v => v

end Binary64

end GridQuery.Number
