/-!
# Values and their arithmetic

Values are the integers of 64 bits with a sign. Arithmetic is that of the integers, and a result
out of range is an overflow instead of a wrong value. Division drops the fraction.

## Main statements

* `ofInt?_eq_some_iff`: an integer becomes the value with that integer, if there is one.
* `ofInt?_eq_none_iff`: it becomes none exactly when it is out of range.
* `toInt_neg_of_ne`: only the least value cannot be negated.
-/
namespace Calculator

abbrev Value := Int64

namespace Value

def largest : Value := Int64.maxValue

def least : Value := Int64.minValue

/-- The value of an integer, if it is in range. -/
def ofInt? (n : Int) : Option Value :=
  if -0x8000000000000000 ≤ n ∧ n < 0x8000000000000000 then some (Int64.ofInt n) else none

theorem ofInt?_eq_some_iff {n : Int} {value : Value} :
    ofInt? n = some value ↔ value.toInt = n := by
  unfold ofInt?
  split
  case isTrue bounds =>
    constructor
    · intro equal
      cases equal
      exact Int64.toInt_ofInt_of_le bounds.1 bounds.2
    · rintro rfl
      exact congrArg some (Int64.ofInt_toInt value)
  case isFalse outside =>
    constructor
    · intro absurd
      cases absurd
    · rintro rfl
      exact absurd ⟨Int64.le_toInt value, Int64.toInt_lt value⟩ outside

theorem ofInt?_eq_none_iff {n : Int} :
    ofInt? n = none ↔ n < -0x8000000000000000 ∨ 0x8000000000000000 ≤ n := by
  unfold ofInt?
  split <;> simp <;> omega

@[simp] theorem ofInt?_toInt (value : Value) : ofInt? value.toInt = some value :=
  ofInt?_eq_some_iff.mpr rfl

/-- Every value but the least one has its negation. -/
theorem toInt_neg_of_ne {value : Value} (notLeast : value ≠ least) :
    (-value).toInt = -value.toInt := by
  have lower := Int64.le_toInt value
  have upper := Int64.toInt_lt value
  have bound : value.toInt ≠ -2 ^ 63 := fun same => notLeast (Int64.toInt_inj.mp same)
  rw [Int64.toInt_neg]
  exact Int.bmod_eq_of_le (by omega) (by omega)

theorem exists_toInt_of_le {n : Nat} (fits : (n : Int) ≤ largest.toInt) :
    ∃ value : Value, (n : Int) = value.toInt := by
  cases found : ofInt? n with
  | some value => exact ⟨value, (ofInt?_eq_some_iff.mp found).symm⟩
  | none =>
    have outside := ofInt?_eq_none_iff.mp found
    have bound : largest.toInt = 0x7fffffffffffffff := by decide
    omega

end Value
end Calculator
