/-!
# Operators

The four binary operators and the unary minus, with how tightly each binds and how many operands
it takes.
-/
namespace Calculator

inductive BinaryOperator where
  | plus
  | minus
  | times
  | divide
  deriving DecidableEq, Repr

inductive Operator where
  | negate
  | binary (op : BinaryOperator)
  deriving DecidableEq, Repr

/-- How tightly a binary operator binds; products bind tighter than sums. -/
def BinaryOperator.precedence : BinaryOperator → Nat
  | .plus | .minus => 2
  | .times | .divide => 3

namespace Operator

/-- How tightly an operator binds; the unary minus binds tightest. -/
def precedence : Operator → Nat
  | .negate => 4
  | .binary op => op.precedence

theorem two_le_precedence (op : Operator) : 2 ≤ op.precedence := by
  cases op with
  | negate => decide
  | binary op => cases op <;> decide

theorem precedence_le_four (op : Operator) : op.precedence ≤ 4 := by
  cases op with
  | negate => decide
  | binary op => cases op <;> decide

def arity : Operator → Nat
  | .negate => 1
  | .binary _ => 2

/-- A letter or sign of its own for each operator: the two minus signs are told apart. -/
def symbol : Operator → Char
  | .negate => 'u'
  | .binary .plus => '+'
  | .binary .minus => 'm'
  | .binary .times => '*'
  | .binary .divide => '/'

/-- The sign that an expression writes for the operator; both minus signs are written alike. -/
def sign : Operator → Char
  | .negate | .binary .minus => '-'
  | .binary .plus => '+'
  | .binary .times => '*'
  | .binary .divide => '/'

end Operator
end Calculator
