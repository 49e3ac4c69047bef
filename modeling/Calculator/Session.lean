import Calculator.Log.Stages
import Calculator.Report
import Calculator.Text.Echo
import Calculator.Text.Utf8

/-!
# Sessions

A session answers its input line by line. It prompts, repeats the line with its blanks made visible
and answers with the value or the error of that line alone. At the end of the input it prompts once
more and ends the line.

Input is bytes; what is not UTF-8 becomes replacement characters, which the scanner refuses.

## Main statements

* `transcript_append`: a session on two texts, the first of which ends with a line feed, is one
  session after the other.
* `yields_run`: a session with a log shows what the session without one shows.
-/
namespace Calculator

structure SessionOptions where
  order : Order := .infixOrder
  showSteps : Bool := false
  policies : Policies := {}
  deriving DecidableEq, Repr, Inhabited

def Order.prompt : Order → String
  | .infixOrder => "infix> "
  | .postfixOrder => "postfix> "

namespace Session

/-! ### Input lines -/

/-- The input between line feeds; nothing after the last one is no line. -/
def rawLines (input : List UInt8) : List (List UInt8) :=
  let pieces := Lines.pieces 0x0A input
  if pieces.getLast? = some [] then pieces.dropLast else pieces

def dropReturn (line : List UInt8) : List UInt8 :=
  if line.getLast? = some 0x0D then line.dropLast else line

def lineText (line : List UInt8) : String := String.ofList (Utf8.decode (dropReturn line))

def lines (input : List UInt8) : List String := (rawLines input).map lineText

/-! ### Answers -/

abbrev Result := Except Error (Value × Option Steps)

def evaluate (options : SessionOptions) (line : String) : Result :=
  match options.order with
  | .infixOrder =>
    (steps line options.policies).map fun steps =>
      (steps.value, if options.showSteps then some steps else none)
  | .postfixOrder => (evaluatePostfix line options.policies).map (·, none)

def answer : Result → String
  | .ok (value, steps) =>
    (steps.map Steps.text).getD "" ++ "val = " ++ Decimal.ofInt value.toInt ++ "\n"
  | .error error => error.headline ++ "\n"

/-- What a session shows when it has read a line: its echo and the answer. -/
def reply (line : String) (result : Result) : String :=
  "input=" ++ Echo.quote (Echo.visible line) ++ "\n" ++ answer result

def entry (options : SessionOptions) (line : String) (result : Result) : String :=
  options.order.prompt ++ reply line result

def farewell : String := "\n"

def ending (options : SessionOptions) : String := options.order.prompt ++ farewell

def entries (options : SessionOptions) (input : List UInt8) : String :=
  String.join ((lines input).map fun line => entry options line (evaluate options line))

def transcript (options : SessionOptions) (input : List UInt8) : String :=
  entries options input ++ ending options

theorem rawLines_append_feed (first second : List UInt8) :
    rawLines (first ++ 0x0A :: second) = Lines.pieces 0x0A first ++ rawLines second := by
  have present := Lines.pieces_ne_nil 0x0A second
  have last : (Lines.pieces 0x0A first ++ Lines.pieces 0x0A second).getLast? =
      (Lines.pieces 0x0A second).getLast? := by
    rw [List.getLast?_append, List.getLast?_eq_some_getLast present, Option.some_or]
  simp only [rawLines, Lines.pieces_append_feed, last]
  split
  · exact List.dropLast_append_of_ne_nil present
  · rfl

theorem lines_append_feed (first second : List UInt8) :
    lines (first ++ 0x0A :: second) = lines (first ++ [0x0A]) ++ lines second := by
  have ended : rawLines (first ++ [0x0A]) = Lines.pieces 0x0A first := by
    rw [rawLines_append_feed]
    exact List.append_nil _
  unfold lines
  rw [ended, rawLines_append_feed, List.map_append]

/-- The session goes on after a line feed as if it began there. -/
theorem transcript_append (options : SessionOptions) (first second : List UInt8) :
    transcript options (first ++ 0x0A :: second) =
      entries options (first ++ [0x0A]) ++ transcript options second := by
  unfold transcript entries
  rw [lines_append_feed, List.map_append, String.join_append, String.append_assoc]

/-! ### Sessions with a log -/

def evaluateLogged (options : SessionOptions) (line : String) : Logged Result :=
  match options.order with
  | .infixOrder => do
    return (← Logged.steps line options.policies).map fun steps =>
      (steps.value, if options.showSteps then some steps else none)
  | .postfixOrder => do
    return (← Logged.evaluatePostfix line options.policies).map (·, none)

def entriesLogged (options : SessionOptions) : List String → Logged (List String)
  | [] => return []
  | line :: later => do
    let result ← evaluateLogged options line
    return entry options line result :: (← entriesLogged options later)

def run (options : SessionOptions) (input : List UInt8) : Logged String := do
  let entries ← entriesLogged options (lines input)
  Logged.note .sessionEnded
  return String.join entries ++ ending options

theorem yields_evaluateLogged (options : SessionOptions) (line : String) :
    Logged.Yields (evaluateLogged options line) (evaluate options line) := by
  unfold evaluateLogged evaluate
  cases options.order with
  | infixOrder => exact (Logged.yields_steps line options.policies).bind (Logged.yields_pure _)
  | postfixOrder =>
    exact (Logged.yields_evaluatePostfix line options.policies).bind (Logged.yields_pure _)

theorem yields_entriesLogged (options : SessionOptions) (lines : List String) :
    Logged.Yields (entriesLogged options lines)
      (lines.map fun line => entry options line (evaluate options line)) := by
  induction lines with
  | nil => exact Logged.yields_pure _
  | cons line later ih =>
    exact (yields_evaluateLogged options line).bind (ih.bind (Logged.yields_pure _))

theorem yields_run (options : SessionOptions) (input : List UInt8) :
    Logged.Yields (run options input) (transcript options input) :=
  (yields_entriesLogged options (lines input)).bind
    ((Logged.yields_note _).bind (Logged.yields_pure _))

end Session
end Calculator
