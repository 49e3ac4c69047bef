import Calculator.Error
import Calculator.Value

/-!
# The operand stack

Operands wait on a stack until an operator takes them. Taking two of them checks the depth first,
so that a failure leaves the stack as it was.

## Main statements

* `popTwo_push_push`: of two operands, the one pushed last is the right one.
-/
namespace Calculator

/-- Operands that wait for an operator, the last one first. -/
structure OperandStack where
  values : List Value
  deriving DecidableEq, Repr

namespace OperandStack

/-- The stack without operands. -/
def empty : OperandStack := ⟨[]⟩

/-- The number of operands. -/
def size (stack : OperandStack) : Nat := stack.values.length

/-- Puts an operand on top. -/
def push (stack : OperandStack) (value : Value) : OperandStack := ⟨value :: stack.values⟩

/-- Takes the operand on top. -/
def pop (stack : OperandStack) : Except EvalError (Value × OperandStack) :=
  match stack.values with
  | [] => .error .insufficientOperands
  | value :: below => .ok (value, ⟨below⟩)

/-- Takes the two operands on top, as left and right operand. -/
def popTwo (stack : OperandStack) : Except EvalError ((Value × Value) × OperandStack) :=
  match stack.values with
  | right :: left :: below => .ok ((left, right), ⟨below⟩)
  | _ => .error .insufficientOperands

/-- The operand that was pushed first. -/
def bottom (stack : OperandStack) : Except EvalError Value :=
  match stack.values.getLast? with
  | some value => .ok value
  | none => .error .insufficientOperands

@[simp] theorem size_push (stack : OperandStack) (value : Value) :
    (stack.push value).size = stack.size + 1 := rfl

@[simp] theorem pop_push (stack : OperandStack) (value : Value) :
    (stack.push value).pop = .ok (value, stack) := rfl

@[simp] theorem popTwo_push_push (stack : OperandStack) (left right : Value) :
    ((stack.push left).push right).popTwo = .ok ((left, right), stack) := rfl

end OperandStack
end Calculator
