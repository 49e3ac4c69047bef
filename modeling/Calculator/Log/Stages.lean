import Calculator.Log.Recorder
import Calculator.Pipeline

/-!
# Evaluation with a log

The stages of an evaluation, with the events that happen in them. The events follow from the same
steps that give the results, in the order in which the steps are taken.

## Main statements

* `yields_steps`, `yields_evaluatePostfix`: an evaluation with a log gives what the evaluation
  without one gives, whatever is recorded.
-/
namespace Calculator

def Reading.events : Reading → List Event
  | .finished => [.sourceEnded]
  | .found token start => [.tokenProduced token start]
  | .saturated literal start =>
    [.literalSaturated literal, .tokenProduced (.number Value.largest) start]
  | .failed (.unknownCharacter char start) => [.unknownCharacter char start]
  | .failed (.literalOverflow _ _) => []

/-- What happens when minus signs are resolved in a sequence that comes after `previous` and starts
with the token number `index`. -/
def Token.resolveEvents (previous : Option Token) (index : Nat) : List Token → List Event
  | [] => []
  | token :: later =>
    let resolved := resolveOne previous token
    let rest := resolveEvents (some resolved) (index + 1) later
    if resolved = token then rest else .minusIsUnary index :: rest

namespace Postfix

def stepEvents (pending : List Pending) : Token → List Event
  | .operator incoming =>
    (pending.takeWhile (Pending.yields incoming.precedence)).filterMap fun
      | .group => none
      | .operator top => some (.operatorPopped top incoming)
  | .rightParen => if (closeGroup pending).isNone then [.parenthesisUnopened] else []
  | .leftParen | .number _ => []

def convertEvents (pending : List Pending) : List Token → List Event
  | [] =>
    match finish pending with
    | .error _ => [.parenthesisUnclosed]
    | .ok _ => []
  | token :: later =>
    stepEvents pending token ++
      match step pending token with
      | .error _ => []
      | .ok (_, waiting) => convertEvents waiting later

def runEvents (policy : StackPolicy) (stack : OperandStack) : List Token → List Event
  | [] =>
    match policy with
    | .lenient => if stack.size > 1 then [.operandsIgnored (stack.size - 1)] else []
    | .strict => []
  | .operator op :: later =>
    match applyOperator stack op with
    | .error _ => []
    | .ok (value, below) =>
      .operatorApplied op value :: runEvents policy (below.push value) later
  | .number value :: later => runEvents policy (stack.push value) later
  | .leftParen :: _ | .rightParen :: _ => []

end Postfix

namespace Logged

def scan (source : String) (overflow : OverflowPolicy) : Logged (Except Error (List Token)) :=
  within (.scan source.utf8ByteSize) do
    let readings := (Scanner.ofSource source overflow).readings
    noteAll (readings.flatMap Reading.events)
    match Reading.collect readings with
    | .error error => return .error (.scan error)
    | .ok tokens =>
      whenDebugging .scanner (.scanCompleted tokens)
      return .ok tokens

def resolve (tokens : List Token) : Logged (List Token) :=
  within (.resolve tokens.length) do
    let resolved := Token.resolveMinus tokens
    noteAll (Token.resolveEvents none 0 tokens)
    whenDebugging .resolver (.minusResolved resolved)
    return resolved

def convert (tokens : List Token) : Logged (Except Error (List Token)) :=
  within (.convert tokens.length) do
    noteAll (Postfix.convertEvents [] tokens)
    match Postfix.ofInfix tokens with
    | .error error => return .error (.parse error)
    | .ok ordered =>
      whenDebugging .parser (.orderProduced ordered)
      return .ok ordered

def evalPostfix (tokens : List Token) (policy : StackPolicy) : Logged (Except Error Value) :=
  within (.eval tokens.length) do
    noteAll (Postfix.runEvents policy .empty tokens)
    match Postfix.eval policy tokens with
    | .error error =>
      note (.postfixFailed error)
      return .error (.eval error)
    | .ok value =>
      note (.postfixEvaluated value)
      return .ok value

/-- The stages of an infix evaluation, one after another. -/
def stages (source : String) (policies : Policies) : Logged (Except Error Steps) := do
  match ← scan source policies.overflow with
  | .error error => return .error error
  | .ok tokens =>
    let resolved ← resolve tokens
    match ← convert resolved with
    | .error error => return .error error
    | .ok ordered =>
      match ← evalPostfix ordered policies.stack with
      | .error error => return .error error
      | .ok value => return .ok ⟨tokens, resolved, ordered, value⟩

def steps (source : String) (policies : Policies) : Logged (Except Error Steps) :=
  within .evaluation do
    let result ← stages source policies
    match result with
    | .ok steps => note (.succeeded steps.value)
    | .error error => note (.failed error)
    return result

def evaluate (source : String) (policies : Policies) : Logged (Except Error Value) := do
  return (← steps source policies).map Steps.value

def evaluatePostfix (source : String) (policies : Policies) : Logged (Except Error Value) :=
  within .postfixEvaluation do
    match ← scan source policies.overflow with
    | .error error => return .error error
    | .ok tokens => evalPostfix tokens policies.stack

/-! ### What the stages yield -/

theorem yields_scan (source : String) (overflow : OverflowPolicy) :
    Yields (scan source overflow) ((Calculator.scan source overflow).mapError .scan) := by
  apply Yields.within
  apply (yields_noteAll _).bind
  unfold Calculator.scan Scanner.scanAll
  cases Reading.collect (Scanner.ofSource source overflow).readings with
  | error error => exact yields_pure _
  | ok tokens => exact (yields_whenDebugging _ _).bind (yields_pure _)

theorem yields_resolve (tokens : List Token) :
    Yields (resolve tokens) (Token.resolveMinus tokens) := by
  apply Yields.within
  apply (yields_noteAll _).bind
  exact (yields_whenDebugging _ _).bind (yields_pure _)

theorem yields_convert (tokens : List Token) :
    Yields (convert tokens) ((Postfix.ofInfix tokens).mapError .parse) := by
  apply Yields.within
  apply (yields_noteAll _).bind
  cases Postfix.ofInfix tokens with
  | error error => exact yields_pure _
  | ok ordered => exact (yields_whenDebugging _ _).bind (yields_pure _)

theorem yields_evalPostfix (tokens : List Token) (policy : StackPolicy) :
    Yields (evalPostfix tokens policy) ((Postfix.eval policy tokens).mapError .eval) := by
  apply Yields.within
  apply (yields_noteAll _).bind
  cases Postfix.eval policy tokens with
  | error error => exact (yields_note _).bind (yields_pure _)
  | ok value => exact (yields_note _).bind (yields_pure _)

/-- A failure ends the run with the log as without it. -/
theorem yields_stages (source : String) (policies : Policies) :
    Yields (stages source policies) (Calculator.steps source policies) := by
  apply (yields_scan source policies.overflow).bind
  unfold Calculator.steps
  cases Calculator.scan source policies.overflow with
  | error error => exact yields_pure _
  | ok tokens =>
    apply (yields_resolve tokens).bind
    apply (yields_convert _).bind
    simp only [stepsOfTokens]
    cases Postfix.ofInfix (Token.resolveMinus tokens) with
    | error error => exact yields_pure _
    | ok ordered =>
      apply (yields_evalPostfix ordered policies.stack).bind
      dsimp only
      cases Postfix.eval policies.stack ordered with
      | error error => exact yields_pure _
      | ok value => exact yields_pure _

theorem yields_steps (source : String) (policies : Policies) :
    Yields (steps source policies) (Calculator.steps source policies) := by
  apply Yields.within
  apply (yields_stages source policies).bind
  cases Calculator.steps source policies with
  | error error => exact (yields_note _).bind (yields_pure _)
  | ok steps => exact (yields_note _).bind (yields_pure _)

theorem yields_evaluate (source : String) (policies : Policies) :
    Yields (evaluate source policies) (Calculator.evaluate source policies) :=
  (yields_steps source policies).bind (yields_pure _)

theorem yields_evaluatePostfix (source : String) (policies : Policies) :
    Yields (evaluatePostfix source policies) (Calculator.evaluatePostfix source policies) := by
  apply Yields.within
  apply (yields_scan source policies.overflow).bind
  unfold Calculator.evaluatePostfix
  cases Calculator.scan source policies.overflow with
  | error error => exact yields_pure _
  | ok tokens => exact yields_evalPostfix tokens policies.stack

end Logged
end Calculator
