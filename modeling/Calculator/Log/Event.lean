import Calculator.Log.Settings
import Calculator.Policy
import Calculator.Postfix.Conversion
import Calculator.Text.Quoted
import Calculator.Token.Printer

/-!
# Log events and scopes

An event is something that happens during a run; a scope is a part of a run, and events happen
inside scopes. Level, target, message and fields of an event follow from what happened.
-/
namespace Calculator

structure Field where
  name : String
  value : String
  -- whether a log line shows the value in quotes
  quoted : Bool := false
  deriving DecidableEq, Repr

inductive Event where
  | sourceEnded
  | unknownCharacter (char : Char) (start : Position)
  -- a literal that is too large is read as the largest value
  | literalSaturated (literal : List Char)
  | tokenProduced (token : Token) (start : Position)
  | scanCompleted (tokens : List Token)
  -- the minus sign with this index is unary
  | minusIsUnary (index : Nat)
  | minusResolved (tokens : List Token)
  -- a pending operator goes out before an incoming one
  | operatorPopped (top incoming : Operator)
  | parenthesisUnopened
  | parenthesisUnclosed
  | orderProduced (tokens : List Token)
  | operatorApplied (op : Operator) (value : Value)
  | operandsIgnored (count : Nat)
  | postfixEvaluated (value : Value)
  | postfixFailed (error : EvalError)
  | succeeded (value : Value)
  | failed (error : Error)
  | expressionGiven (source : String) (order : Order)
  | sessionStarted (order : Order)
  | sessionEnded
  deriving DecidableEq, Repr

namespace Event

def level : Event → Level
  | .failed _ => .error
  | .succeeded _ | .sessionStarted _ => .info
  | .unknownCharacter _ _ | .literalSaturated _ | .scanCompleted _ | .minusResolved _
  | .orderProduced _ | .operandsIgnored _ | .postfixEvaluated _ | .postfixFailed _
  | .expressionGiven _ _ | .sessionEnded => .debug
  | .sourceEnded | .tokenProduced _ _ | .minusIsUnary _ | .operatorPopped _ _
  | .parenthesisUnopened | .parenthesisUnclosed | .operatorApplied _ _ => .trace

def target : Event → Target
  | .sourceEnded | .unknownCharacter _ _ | .literalSaturated _ | .tokenProduced _ _
  | .scanCompleted _ => .phase .scanner
  | .minusIsUnary _ | .minusResolved _ => .phase .resolver
  | .operatorPopped _ _ | .parenthesisUnopened | .parenthesisUnclosed | .orderProduced _ =>
    .phase .parser
  | .operatorApplied _ _ | .operandsIgnored _ | .postfixEvaluated _ | .postfixFailed _ =>
    .phase .eval
  | .succeeded _ | .failed _ => .pipeline
  | .expressionGiven _ _ | .sessionStarted _ | .sessionEnded => .command

def message : Event → String
  | .sourceEnded => "Reached EOF"
  | .unknownCharacter _ _ => "Unknown character"
  | .literalSaturated _ => "Saturating literal"
  | .tokenProduced _ _ => "Produced token"
  | .scanCompleted _ => "Scan completed"
  | .minusIsUnary _ => "Minus is unary"
  | .minusResolved _ => "Minus resolved"
  | .operatorPopped _ _ => "Pop operator"
  | .parenthesisUnopened => "')' without matching '('"
  | .parenthesisUnclosed => "Unclosed '(' at end of input"
  | .orderProduced _ => "Postfix produced"
  | .operatorApplied _ _ => "Applied operator"
  | .operandsIgnored _ => "Ignoring extra operands"
  | .postfixEvaluated _ => "Evaluation completed"
  | .postfixFailed _ | .failed _ => "Evaluation failed"
  | .succeeded _ => "Evaluation succeeded"
  | .expressionGiven _ _ => "One-shot evaluation"
  | .sessionStarted _ => "Starting REPL"
  | .sessionEnded => "EOF, leaving REPL"

def fields : Event → List Field
  | .sourceEnded | .parenthesisUnopened | .parenthesisUnclosed | .sessionEnded => []
  | .unknownCharacter char start => [⟨"ch", Quoted.char char, false⟩, ⟨"start", start.label, false⟩]
  | .literalSaturated literal => [⟨"literal", String.ofList literal, false⟩]
  | .tokenProduced token start => [⟨"token", token.display, false⟩, ⟨"start", start.label, false⟩]
  | .scanCompleted tokens | .minusResolved tokens => [⟨"tokens", Token.displayAll tokens, false⟩]
  | .minusIsUnary index => [⟨"index", Decimal.ofNat index, false⟩]
  | .operatorPopped top incoming =>
    [⟨"top", (Token.operator top).display, false⟩,
      ⟨"incoming", (Token.operator incoming).display, false⟩]
  | .orderProduced tokens => [⟨"postfix", Token.displayAll tokens, false⟩]
  | .operatorApplied op value =>
    [⟨"op", (Token.operator op).display, false⟩, ⟨"value", Decimal.ofInt value.toInt, false⟩]
  | .operandsIgnored count => [⟨"leftover", Decimal.ofNat count, false⟩]
  | .postfixEvaluated value | .succeeded value => [⟨"value", Decimal.ofInt value.toInt, false⟩]
  | .postfixFailed error => [⟨"error", error.message, false⟩]
  | .failed error => [⟨"phase", error.stage, true⟩, ⟨"error", error.message, false⟩]
  | .expressionGiven source order =>
    [⟨"source", source, true⟩,
      ⟨"postfix", if order = .postfixOrder then "true" else "false", false⟩]
  | .sessionStarted order =>
    [⟨"mode", if order = .postfixOrder then "Postfix" else "Infix", false⟩]

end Event

inductive Scope where
  | evaluation
  | postfixEvaluation
  -- scanning a source of `length` bytes
  | scan (length : Nat)
  -- the other stages, on `count` tokens
  | resolve (count : Nat)
  | convert (count : Nat)
  | eval (count : Nat)
  deriving DecidableEq, Repr

namespace Scope

def level : Level := .info

def target : Scope → Target
  | .evaluation | .postfixEvaluation => .pipeline
  | .scan _ => .phase .scanner
  | .resolve _ => .phase .resolver
  | .convert _ => .phase .parser
  | .eval _ => .phase .eval

def name : Scope → String
  | .evaluation => "evaluate"
  | .postfixEvaluation => "evaluate_postfix"
  | .scan _ => "scan"
  | .resolve _ => "resolve"
  | .convert _ => "to_postfix"
  | .eval _ => "eval_postfix"

def fields : Scope → List Field
  | .evaluation | .postfixEvaluation => []
  | .scan length => [⟨"len", Decimal.ofNat length, false⟩]
  | .resolve count | .convert count | .eval count => [⟨"count", Decimal.ofNat count, false⟩]

end Scope
end Calculator
