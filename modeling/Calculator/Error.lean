import Calculator.Text.Position

/-!
# Errors of an evaluation

Each stage fails for causes of its own. An error keeps its cause and, when it comes from the
scanner, the place in the source; the wording of all causes is in `Error.message`.
-/
namespace Calculator

/-- Why a source text cannot be split into tokens. -/
inductive ScanError where
  -- a character that belongs to no token
  | unknownCharacter (char : Char) (position : Position)
  -- a literal above the largest value, with all its digits
  | literalOverflow (literal : List Char) (position : Position)
  deriving DecidableEq, Repr

/-- Why a token sequence has no postfix form. -/
inductive ParseError where
  -- a closing parenthesis without an opening one, or an opening one that is never closed
  | mismatchedParenthesis
  deriving DecidableEq, Repr

/-- Why a postfix sequence has no value. -/
inductive EvalError where
  -- an operator finds fewer operands than it takes, or nothing is left to answer with
  | insufficientOperands
  | divisionByZero
  | arithmeticOverflow
  -- `count` operands remain where exactly one is expected
  | leftoverOperands (count : Nat)
  | unexpectedParenthesis
  deriving DecidableEq, Repr

/-- Why an evaluation fails: the error of the stage that fails first. -/
inductive Error where
  | scan (error : ScanError)
  | parse (error : ParseError)
  | eval (error : EvalError)
  deriving DecidableEq, Repr

inductive ErrorKind where
  | unknownCharacter
  | literalOverflow
  | mismatchedParenthesis
  | insufficientOperands
  | divisionByZero
  | arithmeticOverflow
  | leftoverOperands
  | unexpectedParenthesis
  deriving DecidableEq, Repr

def ScanError.position : ScanError → Position
  | .unknownCharacter _ position | .literalOverflow _ position => position

def ScanError.message : ScanError → String
  | .unknownCharacter char _ =>
    "scanner encountered unknown character '" ++ String.singleton char ++ "'"
  | .literalOverflow literal _ =>
    "integer literal '" ++ String.ofList literal ++ "' is out of range"

def ParseError.message : ParseError → String
  | .mismatchedParenthesis => "mis-matched parenthesis"

def EvalError.message : EvalError → String
  | .insufficientOperands => "not enough numbers to pop"
  | .divisionByZero => "division by 0"
  | .arithmeticOverflow => "integer overflow"
  | .leftoverOperands count => Decimal.ofNat count ++ " values left on the stack, expected 1"
  | .unexpectedParenthesis => "parenthesis in postfix expression"

namespace Error

def message : Error → String
  | .scan error => error.message
  | .parse error => error.message
  | .eval error => error.message

/-- The place of an error in the source; only scanner errors have one. -/
def position? : Error → Option Position
  | .scan error => some error.position
  | .parse _ | .eval _ => none

def stage : Error → String
  | .scan _ => "scanner"
  | .parse _ => "parser"
  | .eval _ => "eval"

def kind : Error → ErrorKind
  | .scan (.unknownCharacter _ _) => .unknownCharacter
  | .scan (.literalOverflow _ _) => .literalOverflow
  | .parse .mismatchedParenthesis => .mismatchedParenthesis
  | .eval .insufficientOperands => .insufficientOperands
  | .eval .divisionByZero => .divisionByZero
  | .eval .arithmeticOverflow => .arithmeticOverflow
  | .eval (.leftoverOperands _) => .leftoverOperands
  | .eval .unexpectedParenthesis => .unexpectedParenthesis

end Error

def ErrorKind.name : ErrorKind → String
  | .unknownCharacter => "UnknownCharacter"
  | .literalOverflow => "LiteralOverflow"
  | .mismatchedParenthesis => "MismatchedParenthesis"
  | .insufficientOperands => "InsufficientOperands"
  | .divisionByZero => "DivisionByZero"
  | .arithmeticOverflow => "ArithmeticOverflow"
  | .leftoverOperands => "LeftoverOperands"
  | .unexpectedParenthesis => "UnexpectedParenthesis"

/-! ### Results of stages -/

theorem map_eq_ok {α β ε : Type} {f : α → β} {result : Except ε α} {mapped : β}
    (succeeds : result.map f = .ok mapped) : ∃ value, result = .ok value ∧ f value = mapped := by
  cases result with
  | error error => cases succeeds
  | ok value => exact ⟨value, rfl, Except.ok.inj succeeds⟩

@[simp] theorem map_eq_error_iff {α β ε : Type} {f : α → β} {result : Except ε α} {error : ε} :
    result.map f = .error error ↔ result = .error error := by
  cases result with
  | error found =>
    change Except.error found = _ ↔ _
    rw [Except.error.injEq, Except.error.injEq]
  | ok value => exact ⟨nofun, nofun⟩

@[simp] theorem mapError_eq_ok_iff {α δ ε : Type} {f : ε → δ} {result : Except ε α} {value : α} :
    result.mapError f = .ok value ↔ result = .ok value := by
  cases result with
  | error error => exact ⟨nofun, nofun⟩
  | ok found =>
    change Except.ok found = _ ↔ _
    rw [Except.ok.injEq, Except.ok.injEq]

theorem mapError_eq_error {α δ ε : Type} {f : ε → δ} {result : Except ε α} {mapped : δ}
    (fails : result.mapError f = .error mapped) :
    ∃ error, result = .error error ∧ f error = mapped := by
  cases result with
  | error error => exact ⟨error, rfl, Except.error.inj fails⟩
  | ok value => cases fails

end Calculator
