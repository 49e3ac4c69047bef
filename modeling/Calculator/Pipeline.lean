import Calculator.Postfix.Conversion
import Calculator.Postfix.Evaluation
import Calculator.Token.Minus
import Calculator.Token.Scanner

/-!
# From a source text to its value

An infix expression is scanned, its minus signs are told apart, it is brought into postfix order
and evaluated; the first stage that fails gives the error. Text that is in postfix order already
is scanned and evaluated, and each of its minus signs is binary.
-/
namespace Calculator

/-- Every sequence of one successful evaluation, and its value. -/
structure Steps where
  tokens : List Token
  -- the tokens with their minus signs resolved
  resolved : List Token
  -- the tokens in the order of evaluation
  ordered : List Token
  value : Value
  deriving DecidableEq, Repr

/-- Evaluates the tokens of an infix expression and keeps every sequence. -/
def stepsOfTokens (tokens : List Token) (policy : StackPolicy) : Except Error Steps :=
  let resolved := Token.resolveMinus tokens
  match Postfix.ofInfix resolved with
  | .error error => .error (.parse error)
  | .ok ordered =>
    match Postfix.eval policy ordered with
    | .error error => .error (.eval error)
    | .ok value => .ok ⟨tokens, resolved, ordered, value⟩

def steps (source : String) (policies : Policies) : Except Error Steps :=
  match scan source policies.overflow with
  | .error error => .error (.scan error)
  | .ok tokens => stepsOfTokens tokens policies.stack

/-- The steps of a run that succeeds: each sequence is what its stage makes of the one before. -/
theorem steps_eq_ok {source : String} {policies : Policies} {run : Steps}
    (succeeds : steps source policies = .ok run) :
    scan source policies.overflow = .ok run.tokens ∧
      run.resolved = Token.resolveMinus run.tokens ∧
      Postfix.ofInfix run.resolved = .ok run.ordered ∧
      Postfix.eval policies.stack run.ordered = .ok run.value := by
  rw [steps] at succeeds
  split at succeeds
  · cases succeeds
  next tokens scanned =>
    simp only [stepsOfTokens] at succeeds
    split at succeeds
    · cases succeeds
    next ordered converted =>
      split at succeeds
      · cases succeeds
      next value evaluated =>
        cases succeeds
        exact ⟨scanned, rfl, converted, evaluated⟩

def evaluate (source : String) (policies : Policies) : Except Error Value :=
  (steps source policies).map Steps.value

def evaluatePostfix (source : String) (policies : Policies) : Except Error Value :=
  match scan source policies.overflow with
  | .error error => .error (.scan error)
  | .ok tokens => (Postfix.eval policies.stack tokens).mapError .eval

end Calculator
