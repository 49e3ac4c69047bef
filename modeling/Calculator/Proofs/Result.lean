import Calculator.Expression.Postorder

/-!
# Integer results of expressions

The result of an expression by the rules of integer arithmetic alone: the operands from left to
right, then the operator, and after every operation a look at the range. No value of 64 bits is
involved, so evaluation on values can be compared with it.

## Main statements

* `value_toInt`: evaluation on values gives the integer result, or the same first error.
* `eval_postorder`: evaluating the postfix form of an expression evaluates the expression.
-/
namespace Calculator

/-- An integer that some value holds, or an overflow. -/
def inRange (n : Int) : Except EvalError Int :=
  if -0x8000000000000000 ≤ n ∧ n ≤ 0x7fffffffffffffff then .ok n else .error .arithmeticOverflow

/-- The integer result of an operator between two results. -/
def BinaryOperator.result (left right : Int) : BinaryOperator → Except EvalError Int
  | .plus => inRange (left + right)
  | .minus => inRange (left - right)
  | .times => inRange (left * right)
  | .divide => if right = 0 then .error .divisionByZero else inRange (left.tdiv right)

/-- The integer result of an expression, or its first error from left to right. -/
def Expression.result : Expression → Except EvalError Int
  | .literal value => .ok value.toInt
  | .negate operand =>
    match operand.result with
    | .error error => .error error
    | .ok n => inRange (-n)
  | .binary op left right =>
    match left.result, right.result with
    | .error error, _ => .error error
    | .ok _, .error error => .error error
    | .ok m, .ok n => op.result m n

theorem checked_toInt (n : Int) : (checked n).map Int64.toInt = inRange n := by
  unfold checked inRange
  cases found : Value.ofInt? n with
  | some value =>
    have equal : value.toInt = n := Value.ofInt?_eq_some_iff.mp found
    have lower := Int64.le_toInt value
    have upper := Int64.toInt_lt value
    rw [if_pos (by omega)]
    simp only [Except.map, equal]
  | none =>
    have outside := Value.ofInt?_eq_none_iff.mp found
    rw [if_neg (by omega)]
    rfl

/-- Each operator computes as on the integers, and fails where that result has no value. -/
theorem BinaryOperator.apply_toInt (op : BinaryOperator) (left right : Value) :
    (op.apply left right).map Int64.toInt = op.result left.toInt right.toInt := by
  cases op with
  | plus | minus | times => exact checked_toInt _
  | divide =>
    simp only [BinaryOperator.apply, BinaryOperator.result]
    split
    · rfl
    · exact checked_toInt _

namespace Expression

/-- The value of an expression is the integer that its tree denotes, or the same error. -/
theorem value_toInt (tree : Expression) : tree.value.map Int64.toInt = tree.result := by
  induction tree with
  | literal _ => rfl
  | negate operand ih =>
    rw [value, result, ← ih]
    cases operand.value with
    | error error => rfl
    | ok value => exact checked_toInt _
  | binary op left right ihLeft ihRight =>
    rw [value, result, ← ihLeft, ← ihRight]
    -- the errors of the operands come in the same order on both sides
    cases left.value with
    | error error => cases right.value <;> rfl
    | ok first =>
      cases right.value with
      | error error => rfl
      | ok second => exact op.apply_toInt first second

theorem value_eq_ok_iff {tree : Expression} {value : Value} :
    tree.value = .ok value ↔ tree.result = .ok value.toInt := by
  rw [← value_toInt]
  cases tree.value with
  | error error => simp [Except.map]
  | ok other => simp [Except.map, Int64.toInt_inj]

theorem value_eq_error_iff {tree : Expression} {error : EvalError} :
    tree.value = .error error ↔ tree.result = .error error := by
  rw [← value_toInt]
  cases tree.value <;> simp [Except.map]

theorem exists_value_iff {tree : Expression} :
    (∃ value, tree.value = .ok value) ↔ ∃ n, tree.result = .ok n := by
  rw [← value_toInt]
  cases tree.value <;> simp [Except.map]

/-- The list of an expression is evaluated to its value under each policy, since one operand is
left. -/
theorem eval_postorder (tree : Expression) (policy : StackPolicy) :
    Postfix.eval policy tree.postorder = tree.value := by
  have ran := run_postorder tree .empty []
  rw [List.append_nil] at ran
  rw [Postfix.eval, ran]
  cases tree.value with
  | error error => rfl
  | ok value => cases policy <;> rfl

end Expression
end Calculator
