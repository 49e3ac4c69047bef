import Calculator.Expression.Basic

/-!
# Expressions in postfix order

The postfix form of an expression lists the operands before their operator. Evaluating it on a stack
pushes the value of the expression, whatever the stack holds and whatever comes after.

## Main statements

* `run_postorder`: a postfix form behaves like one number, or fails with the error of its
  expression.
-/
namespace Calculator.Expression

/-- The tokens of an expression in postfix order. -/
def postorder : Expression → List Token
  | .literal value => [.number value]
  | .negate operand => operand.postorder ++ [.operator .negate]
  | .binary op left right => left.postorder ++ right.postorder ++ [.operator (.binary op)]

/-- The list of an expression pushes its value on any stack, or fails with its error. -/
theorem run_postorder (expression : Expression) (stack : OperandStack) (later : List Token) :
    Postfix.run stack (expression.postorder ++ later) =
      match expression.value with
      | .error error => .error error
      | .ok value => Postfix.run (stack.push value) later := by
  induction expression generalizing stack later with
  | literal value => rfl
  | negate operand ih =>
    simp only [postorder, value, List.append_assoc, ih]
    cases operand.value with
    | error error => rfl
    | ok value =>
      simp only [List.singleton_append, Postfix.run, Postfix.evalToken, Postfix.applyOperator,
        OperandStack.pop_push]
      cases checked (-value.toInt) <;> rfl
  | binary op left right ihLeft ihRight =>
    -- the left operand decides first, and the right one is reached on top of its value
    simp only [postorder, value, List.append_assoc, ihLeft]
    cases left.value with
    | error error => rfl
    | ok first =>
      simp only [ihRight]
      cases right.value with
      | error error => rfl
      | ok second =>
        simp only [List.singleton_append, Postfix.run, Postfix.evalToken, Postfix.applyOperator,
          OperandStack.popTwo_push_push]
        cases op.apply first second <;> rfl

end Calculator.Expression
