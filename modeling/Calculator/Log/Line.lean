import Calculator.Json.Text
import Calculator.Log.Recorder

/-!
# Log lines

A record is shown in one of four forms. The compact one names the scopes and puts their values
behind those of the event; the log file puts the values of each scope behind its name and shows the
target. The pretty one has a line for the event and one for each scope, and the last is a JSON
object.
-/
namespace Calculator

/-- The form of the lines on the console. -/
inductive ConsoleFormat where
  | pretty
  | compact
  | json
  deriving DecidableEq, Repr, Inhabited

def ConsoleFormat.ofName? : String → Option ConsoleFormat
  | "pretty" => some .pretty
  | "compact" => some .compact
  | "json" => some .json
  | _ => none

def Field.text (field : Field) : String :=
  field.name ++ "=" ++ if field.quoted then Quoted.text field.value else field.value

def Level.tag : Level → String
  | .error => "ERROR"
  | .warn => " WARN"
  | .info => " INFO"
  | .debug => "DEBUG"
  | .trace => "TRACE"

namespace Record

/-- The scopes joined by colons, each shown by `label`, and a colon behind them; nothing if there
are none. -/
def scopesText (label : Scope → String) (scopes : List Scope) : String :=
  if scopes.isEmpty then "" else ":".intercalate (scopes.map label) ++ ": "

def fieldsText (fields : List Field) : String :=
  String.join (fields.map fun field => " " ++ field.text)

def compactLine (record : Record) : String :=
  record.event.level.tag ++ " " ++ scopesText Scope.name record.scopes ++ record.event.message ++
    fieldsText (record.event.fields ++ record.scopes.flatMap Scope.fields)

def scopeLabel (scope : Scope) : String :=
  match scope.fields with
  | [] => scope.name
  | fields => scope.name ++ "\x7b" ++ " ".intercalate (fields.map Field.text) ++ "\x7d"

def fileLine (record : Record) : String :=
  record.event.level.tag ++ " " ++ scopesText scopeLabel record.scopes ++
    record.event.target.name ++ ": " ++ record.event.message ++ fieldsText record.event.fields

def listed (fields : List Field) : String :=
  String.join (fields.map fun field => ", " ++ field.name ++ ": " ++ field.value)

/-- The record as a line for the event and one for each scope, the innermost first. -/
def prettyLines (record : Record) : List String :=
  let event := record.event
  ["  " ++ event.level.tag ++ " " ++ event.target.name ++ ": " ++ event.message ++
      listed event.fields] ++
    record.scopes.reverse.map fun scope =>
      "    in " ++ scope.target.name ++ "::" ++ scope.name ++ listed scope.fields

def members (fields : List Field) : List (String × String) :=
  fields.map fun field => (field.name, Json.string field.value)

def jsonLine (record : Record) : String :=
  let event := record.event
  let scopes := record.scopes.map fun scope =>
    Json.object (members scope.fields ++ [("name", Json.string scope.name)])
  Json.object
    [("level", Json.string event.level.name),
      ("fields", Json.object (("message", Json.string event.message) :: members event.fields)),
      ("target", Json.string event.target.name),
      ("spans", "[" ++ ",".intercalate scopes ++ "]")]

end Record

def ConsoleFormat.text (format : ConsoleFormat) (records : List Record) : String :=
  String.join <| records.map fun record =>
    match format with
    | .pretty => String.join (record.prettyLines.map (· ++ "\n")) ++ "\n"
    | .compact => record.compactLine ++ "\n"
    | .json => record.jsonLine ++ "\n"

end Calculator
