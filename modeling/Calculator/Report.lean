import Calculator.Json.Text
import Calculator.Pipeline
import Calculator.Text.Lines
import Calculator.Token.Printer

/-!
# Showing results and errors

An error is shown as one line, as a JSON object, or together with the source line it points at and
a caret below the offending character. The steps of a run are shown as three lines or as a JSON
object.

## Main statements

* `padding_length`: the caret stands in the column of the error.
* `padding_getElem?`: there is a tab before it where the line above has one, and a space elsewhere.
-/
namespace Calculator

structure Report where
  stage : String
  kind : ErrorKind
  message : String
  -- line and column, for an error that has a place in the source
  place : Option (Nat × Nat)
  deriving DecidableEq, Repr

namespace Report

def ofError (error : Error) : Report where
  stage := error.stage
  kind := error.kind
  message := error.message
  place := error.position?.map fun position => (position.line, position.column)

/-- The report as one line: the stage in brackets, the place if there is one, and the message. -/
def line (report : Report) : String :=
  let stage := "[" ++ report.stage ++ "] "
  match report.place with
  | some (line, column) =>
    stage ++ Decimal.ofNat line ++ ":" ++ Decimal.ofNat column ++ ": " ++ report.message
  | none => stage ++ report.message

def json (report : Report) : String :=
  let place :=
    match report.place with
    | some (line, column) => [("line", Decimal.ofNat line), ("column", Decimal.ofNat column)]
    | none => []
  Json.object <|
    [("phase", Json.string report.stage), ("kind", Json.string report.kind.name),
      ("message", Json.string report.message)] ++ place

end Report

namespace SourceContext

/-- The blanks before a caret after `width` characters of `text`: tabs stay tabs, so that the
caret lines up however wide they are shown. -/
def padding : (width : Nat) → (text : List Char) → List Char
  | 0, _ => []
  | width + 1, [] => ' ' :: padding width []
  | width + 1, char :: later => (if char = '\t' then '\t' else ' ') :: padding width later

@[simp] theorem padding_length (width : Nat) (text : List Char) :
    (padding width text).length = width := by
  induction width generalizing text with
  | zero => rfl
  | succ width ih => cases text <;> simp [padding, ih]

/-- The padding under a line repeats its tabs, so that the marker stands under its column. -/
theorem padding_getElem? {width index : Nat} (within : index < width) (text : List Char) :
    (padding width text)[index]? = some (if text[index]? = some '\t' then '\t' else ' ') := by
  induction width generalizing text index with
  | zero => cases within
  | succ width ih =>
    cases index with
    | zero => cases text <;> simp [padding]
    | succ index => cases text <;> simp [padding, ih (Nat.lt_of_succ_lt_succ within)]

/-- An empty line, the line `number` of the source and a caret below its column `column`, each
after a margin; nothing if the source has no such line. -/
def lines (source : String) (number column : Nat) : List (List Char) :=
  match number with
  | 0 => []
  | above + 1 =>
    match (Lines.ofText source.toList)[above]? with
    | none => []
    | some text =>
      let label := Decimal.digits number
      let margin := List.replicate label.length ' '
      [margin ++ [' ', '|'], label ++ [' ', '|', ' '] ++ text,
        margin ++ [' ', '|', ' '] ++ padding (column - 1) text ++ ['^']]

def text (source : String) (number column : Nat) : String :=
  String.ofList ((lines source number column).flatMap (· ++ ['\n']))

end SourceContext

namespace Error

def headline (error : Error) : String := "Error: " ++ error.message

/-- The headline and, for an error that has a place in `source`, the line it points at. -/
def withSource (error : Error) (source : String) : String :=
  error.headline ++ "\n" ++
    match error.position? with
    | some position => SourceContext.text source position.line position.column
    | none => ""

end Error

namespace Steps

/-- The three sequences of a run, one line each. -/
def lines (steps : Steps) : List String :=
  ["tokens   = " ++ Token.displayAll steps.tokens,
    "resolved = " ++ Token.displayAll steps.resolved,
    "postfix  = " ++ Token.displayAll steps.ordered]

def text (steps : Steps) : String := String.join (steps.lines.map (· ++ "\n"))

def json (steps : Steps) : String :=
  Json.object
    [("tokens", Json.string (Token.displayAll steps.tokens)),
      ("resolved", Json.string (Token.displayAll steps.resolved)),
      ("postfix", Json.string (Token.displayAll steps.ordered)),
      ("value", Decimal.ofInt steps.value.toInt)]

end Steps
end Calculator
