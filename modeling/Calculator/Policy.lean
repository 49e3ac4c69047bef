/-!
# Choices of the user

The user says in which order expressions are written, what becomes of a literal that is too large,
and whether operands may be left over at the end.
-/
namespace Calculator

inductive Order where
  -- operators stand between their operands, and parentheses group
  | infixOrder
  -- operators stand after their operands
  | postfixOrder
  deriving DecidableEq, Repr, Inhabited

/-- What the scanner does with a literal above the largest value. -/
inductive OverflowPolicy where
  | reject
  | saturate
  deriving DecidableEq, Repr, Inhabited

/-- What the evaluator does with operands that remain beside the answer. -/
inductive StackPolicy where
  | lenient
  | strict
  deriving DecidableEq, Repr, Inhabited

structure Policies where
  overflow : OverflowPolicy := .reject
  stack : StackPolicy := .lenient
  deriving DecidableEq, Repr, Inhabited

end Calculator
