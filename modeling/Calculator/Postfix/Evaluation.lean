import Calculator.Policy
import Calculator.Postfix.OperandStack
import Calculator.Token.Basic

/-!
# The value of a postfix sequence

Numbers are pushed on the operand stack; an operator takes its operands from there and pushes its
result. The first error ends the evaluation. The answer is the operand at the bottom of the stack,
and the policy decides whether there may be others.

## Main statements

* `run_append`: a sequence may be evaluated in two parts.
-/
namespace Calculator

def checked (n : Int) : Except EvalError Value :=
  match Value.ofInt? n with
  | some value => .ok value
  | none => .error .arithmeticOverflow

/-- The result of a binary operator; division drops the fraction. -/
def BinaryOperator.apply (left right : Value) : BinaryOperator → Except EvalError Value
  | .plus => checked (left.toInt + right.toInt)
  | .minus => checked (left.toInt - right.toInt)
  | .times => checked (left.toInt * right.toInt)
  | .divide =>
    if right.toInt = 0 then .error .divisionByZero else checked (left.toInt.tdiv right.toInt)

namespace Postfix

/-- Takes the operands of an operator from the stack: its result, and what is left. -/
def applyOperator (stack : OperandStack) :
    Operator → Except EvalError (Value × OperandStack)
  | .negate =>
    match stack.pop with
    | .error error => .error error
    | .ok (operand, below) => (checked (-operand.toInt)).map (·, below)
  | .binary op =>
    match stack.popTwo with
    | .error error => .error error
    | .ok ((left, right), below) => (op.apply left right).map (·, below)

def evalToken (stack : OperandStack) : Token → Except EvalError OperandStack
  | .number value => .ok (stack.push value)
  | .leftParen | .rightParen => .error .unexpectedParenthesis
  | .operator op => (applyOperator stack op).map fun applied => applied.2.push applied.1

def run (stack : OperandStack) : List Token → Except EvalError OperandStack
  | [] => .ok stack
  | token :: later =>
    match evalToken stack token with
    | .error error => .error error
    | .ok pushed => run pushed later

/-- The answer that a final stack gives. -/
def answer (policy : StackPolicy) (stack : OperandStack) : Except EvalError Value :=
  match stack.bottom, policy with
  -- an empty stack is an error under both policies
  | .error error, _ => .error error
  | .ok value, .lenient => .ok value
  | .ok value, .strict =>
    if stack.size > 1 then .error (.leftoverOperands stack.size) else .ok value

def eval (policy : StackPolicy) (tokens : List Token) : Except EvalError Value :=
  match run .empty tokens with
  | .error error => .error error
  | .ok stack => answer policy stack

theorem run_cons_ok {stack final : OperandStack} {token : Token} {later : List Token}
    (ran : run stack (token :: later) = .ok final) :
    ∃ pushed, evalToken stack token = .ok pushed ∧ run pushed later = .ok final := by
  rw [run] at ran
  split at ran
  · cases ran
  next pushed evaluates => exact ⟨pushed, evaluates, ran⟩

theorem run_append (stack : OperandStack) (first second : List Token) :
    run stack (first ++ second) =
      match run stack first with
      | .error error => .error error
      | .ok pushed => run pushed second := by
  induction first generalizing stack with
  | nil => rfl
  | cons token later ih =>
    simp only [List.cons_append, run]
    cases evalToken stack token with
    | error error => rfl
    | ok pushed => exact ih pushed

end Postfix
end Calculator
