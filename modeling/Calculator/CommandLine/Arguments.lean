import Calculator.Log.Line
import Calculator.Settings.Basic

/-!
# Arguments of the command

Arguments are read from left to right, and the first one that does not fit ends the reading, as
does a request for help or for the version. An option is a switch or takes a value, behind an equals
sign or as the next argument; only `--verbose` may be given more than once. One argument that is no
option is the expression, and after `--` no argument is an option.

## Main statements

* `read_append`: arguments are read in any grouping.
* `read_separated`: after the separator any text at all is an expression.
-/
namespace Calculator

structure Arguments where
  -- the expression; without one the command holds a session
  expression : Option String := none
  order : Order := .infixOrder
  showSteps : Bool := false
  json : Bool := false
  configuration : Option String := none
  overrides : Overrides := {}
  format : ConsoleFormat := .pretty
  -- the path of the file to which log lines are appended
  logFile : Option String := none
  deriving DecidableEq, Repr, Inhabited

inductive Switch where
  | postfixOrder
  | strict
  | saturate
  | showSteps
  | json
  | verbose
  | help
  | version
  deriving DecidableEq, Repr

namespace Switch

def all : List Switch :=
  [.postfixOrder, .strict, .saturate, .showSteps, .json, .verbose, .help, .version]

def name : Switch → String
  | .postfixOrder => "postfix"
  | .strict => "strict"
  | .saturate => "saturate"
  | .showSteps => "show-steps"
  | .json => "json"
  | .verbose => "verbose"
  | .help => "help"
  | .version => "version"

def ofLetter? : Char → Option Switch
  | 'v' => some .verbose
  | 'h' => some .help
  | 'V' => some .version
  | _ => none

end Switch

inductive Parameter where
  | configuration
  | filter (phase : Phase)
  | format
  | logFile
  deriving DecidableEq, Repr

namespace Parameter

def all : List Parameter :=
  [.configuration, .format, .logFile] ++ Phase.all.map .filter

def name : Parameter → String
  | .configuration => "config"
  | .filter phase => "log-" ++ phase.name
  | .format => "format"
  | .logFile => "log-file"

end Parameter

def Overrides.withFilter (overrides : Overrides) (phase : Phase) (filter : Filter) : Overrides :=
  match phase with
  | .scanner => { overrides with scanner := some filter }
  | .resolver => { overrides with resolver := some filter }
  | .parser => { overrides with parser := some filter }
  | .eval => { overrides with eval := some filter }

/-- One argument by its form. -/
inductive Word where
  | separator
  -- two dashes and a name, and perhaps a value behind an equals sign
  | long (name : String) (value : Option String)
  -- one dash and letters
  | short (letters : List Char)
  -- anything else, the single dash included
  | operand (text : String)
  deriving DecidableEq, Repr

def Word.ofLong (text : List Char) : Word :=
  let name := text.takeWhile (· ≠ '=')
  match text.dropWhile (· ≠ '=') with
  | [] => .long (String.ofList name) none
  | _ :: value => .long (String.ofList name) (some (String.ofList value))

def Word.ofText (text : String) : Word :=
  match text.toList with
  | ['-', '-'] => .separator
  | '-' :: '-' :: later => ofLong later
  | '-' :: letter :: letters => .short (letter :: letters)
  | _ => .operand text

/-- Why the reading of arguments ends before their end. -/
inductive Interruption where
  | help
  | version
  | misuse
  deriving DecidableEq, Repr

/-- What has been read of the arguments. -/
structure ArgumentReader where
  arguments : Arguments := {}
  -- the options given so far that may be given only once
  switches : List Switch := []
  parameters : List Parameter := []
  awaiting : Option Parameter := none
  -- whether `--` has been read
  separated : Bool := false
  deriving DecidableEq, Repr, Inhabited

namespace ArgumentReader

abbrev Progress := Except Interruption ArgumentReader

def operand (reader : ArgumentReader) (text : String) : Progress :=
  match reader.arguments.expression with
  | some _ => .error .misuse
  | none => .ok { reader with arguments := { reader.arguments with expression := some text } }

def once (reader : ArgumentReader) (switch : Switch) (arguments : Arguments) : Progress :=
  if switch ∈ reader.switches then .error .misuse
  else .ok { reader with arguments, switches := switch :: reader.switches }

def switch (reader : ArgumentReader) (switch : Switch) : Progress :=
  let arguments := reader.arguments
  let overrides := arguments.overrides
  match switch with
  | .help => .error .help
  | .version => .error .version
  | .verbose =>
    let overrides := { overrides with verbosity := overrides.verbosity + 1 }
    .ok { reader with arguments := { arguments with overrides } }
  | .postfixOrder => reader.once switch { arguments with order := .postfixOrder }
  | .showSteps => reader.once switch { arguments with showSteps := true }
  | .json => reader.once switch { arguments with json := true }
  | .strict => reader.once switch { arguments with overrides := { overrides with strict := true } }
  | .saturate =>
    reader.once switch { arguments with overrides := { overrides with saturate := true } }

/-- The arguments with the value of an option, if it takes this value. -/
def assign? (arguments : Arguments) (value : String) : Parameter → Option Arguments
  | .configuration =>
    if value = "" then none else some { arguments with configuration := some value }
  | .filter phase =>
    (Filter.ofName? value).map fun filter =>
      { arguments with overrides := arguments.overrides.withFilter phase filter }
  | .format => (ConsoleFormat.ofName? value).map fun format => { arguments with format }
  | .logFile => some { arguments with logFile := some value }

def value (reader : ArgumentReader) (parameter : Parameter) (text : String) : Progress :=
  if parameter ∈ reader.parameters then .error .misuse
  else
    match assign? reader.arguments text parameter with
    | none => .error .misuse
    | some arguments =>
      .ok { reader with
              arguments, parameters := parameter :: reader.parameters, awaiting := none }

def long (reader : ArgumentReader) (name : String) (value : Option String) : Progress :=
  match Switch.all.find? (·.name = name), Parameter.all.find? (·.name = name), value with
  | some switch, _, none => reader.switch switch
  | none, some parameter, none => .ok { reader with awaiting := some parameter }
  | none, some parameter, some text => reader.value parameter text
  | _, _, _ => .error .misuse

def letter (reader : ArgumentReader) (char : Char) : Progress :=
  match Switch.ofLetter? char with
  | some switch => reader.switch switch
  | none => .error .misuse

def step (reader : ArgumentReader) (text : String) : Progress :=
  if reader.separated then reader.operand text
  else
    match reader.awaiting, Word.ofText text with
    -- a value may not look like an option
    | some parameter, .operand text => reader.value parameter text
    | some _, _ => .error .misuse
    | none, .operand text => reader.operand text
    | none, .separator => .ok { reader with separated := true }
    | none, .long name value => reader.long name value
    | none, .short letters => letters.foldlM letter reader

def finish (reader : ArgumentReader) : Except Interruption Arguments :=
  match reader.awaiting with
  | some _ => .error .misuse
  | none => .ok reader.arguments

def read (reader : ArgumentReader) (texts : List String) : Progress :=
  texts.foldlM step reader

theorem read_append (reader : ArgumentReader) (first second : List String) :
    reader.read (first ++ second) = reader.read first >>= fun reader => reader.read second :=
  List.foldlM_append

end ArgumentReader

def Arguments.ofTexts (texts : List String) : Except Interruption Arguments :=
  (({} : ArgumentReader).read texts).bind ArgumentReader.finish

namespace ArgumentReader

/-- After the separator a text without an expression before it is the expression. -/
theorem read_separated {reader : ArgumentReader} (separated : reader.separated = true)
    (free : reader.arguments.expression = none) (text : String) :
    reader.read [text] =
      .ok { reader with arguments := { reader.arguments with expression := some text } } := by
  simp [read, step, separated, operand, free]

end ArgumentReader
end Calculator
