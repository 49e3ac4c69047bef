import Calculator.Postfix.Evaluation

/-!
# Expressions as trees

An expression is a value, the negation of an expression, or two expressions with an operator between
them. It is evaluated from left to right: the operands first and then the operator, and the first
error is the result. Its exact value is the integer it denotes, however large.
-/
namespace Calculator

/-- An expression. -/
inductive Expression where
  | literal (value : Value)
  | negate (operand : Expression)
  | binary (op : BinaryOperator) (left right : Expression)
  deriving DecidableEq, Repr

/-- The integer result of a binary operator; nothing is divided by zero. -/
def BinaryOperator.exact (left right : Int) : BinaryOperator → Option Int
  | .plus => some (left + right)
  | .minus => some (left - right)
  | .times => some (left * right)
  | .divide => if right = 0 then none else some (left.tdiv right)

namespace Expression

/-- The value of an expression, or the first error from left to right. -/
def value : Expression → Except EvalError Value
  | .literal value => .ok value
  | .negate operand =>
    match operand.value with
    | .error error => .error error
    | .ok value => checked (-value.toInt)
  | .binary op left right =>
    match left.value with
    | .error error => .error error
    | .ok first =>
      match right.value with
      | .error error => .error error
      | .ok second => op.apply first second

/-- The integer that an expression denotes, if nothing is divided by zero. -/
def exact : Expression → Option Int
  | .literal value => some value.toInt
  | .negate operand => operand.exact.map fun n => -n
  | .binary op left right =>
    match left.exact, right.exact with
    | some first, some second => op.exact first second
    | _, _ => none

end Expression
end Calculator
