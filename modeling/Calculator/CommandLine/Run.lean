import Calculator.CommandLine.Arguments
import Calculator.CommandLine.Directory
import Calculator.Session

/-!
# Running the command

The command reads its arguments and its configuration, opens its log file and then evaluates its
expression or, if there is none, holds a session. Each of these can end it. Results go to the
output, log lines and complaints to the console.

## Main statements

* `yields_perform`: the answer of the command is that of the evaluation or the session without a
  log, so it does not depend on what is logged.
-/
namespace Calculator

inductive Status where
  | success
  -- the settings or the expression are in error
  | failure
  | misuse
  | noLogFile
  deriving DecidableEq, Repr

def Status.code : Status → Nat
  | .success => 0
  | .failure => 1
  | .misuse => 2
  | .noLogFile => 101

structure Answer where
  status : Status := .success
  output : String := ""
  -- what is shown on the console after the log lines
  complaint : String := ""
  deriving DecidableEq, Repr

structure Outcome where
  answer : Answer
  records : List Record := []
  format : ConsoleFormat := .pretty
  directory : Directory

namespace CommandLine

/-- Records as they are written to the log file. The lines carry no time. -/
def fileText (records : List Record) : String :=
  String.join (records.map fun record => record.fileLine ++ "\n")

def version : String := "calc 0.1.0\n"

def usage : String :=
  "Usage: calc [OPTIONS] [EXPR]\n\nFor more information, try '--help'.\n"

def help : String := String.join
  ["Integer expression calculator\n\n",
    "Usage: calc [OPTIONS] [EXPR]\n\n",
    "Arguments:\n",
    "  [EXPR]  Expression to evaluate (starts the REPL when omitted)\n\n",
    "Options:\n",
    "      --postfix               Read postfix notation (`1 2 +`) instead of infix\n",
    "      --strict                Fail when more than one operand is left at the end\n",
    "      --saturate              Clamp out-of-range literals instead of rejecting them\n",
    "      --show-steps            Print the token, resolved and postfix sequences\n",
    "      --json                  Print results and errors as JSON\n",
    "      --config <FILE>         JSON config file\n",
    "  -v, --verbose...            Log level (-v=info, -vv=debug, -vvv=trace)\n",
    "      --log-scanner <LEVEL>   Scanner log level\n",
    "      --log-resolver <LEVEL>  Minus resolver log level\n",
    "      --log-parser <LEVEL>    Shunting-yard log level\n",
    "      --log-eval <LEVEL>      Evaluator log level\n",
    "      --format <FORMAT>       Log output format [default: pretty]\n",
    "      --log-file <FILE>       Also append logs to a file\n",
    "  -h, --help                  Print help\n",
    "  -V, --version               Print version\n"]

def interrupted : Interruption → Answer
  | .help => { output := help }
  | .version => { output := version }
  | .misuse => { status := .misuse, complaint := usage }

def unsettled (error : SettingsError) : Answer :=
  { status := .failure, complaint := "Error: " ++ error.message ++ "\n" }

def noLogFile (path : String) : Answer :=
  { status := .noLogFile, complaint := "Failed to open log file: " ++ path ++ "\n" }

end CommandLine

namespace Arguments

/-- The settings that the arguments and the configuration file make, where `read` reads a file. -/
def settings (arguments : Arguments) (read : String → Except ReadFailure (List UInt8)) :
    Except SettingsError Settings :=
  match arguments.configuration with
  | none => Settings.layered none arguments.overrides
  | some path => do
    let file ← FileSettings.load path (read path)
    Settings.layered (some file) arguments.overrides

def sessionOptions (arguments : Arguments) (policies : Policies) : SessionOptions :=
  { order := arguments.order, showSteps := arguments.showSteps, policies }

/-- How the expression is evaluated: its sequences are kept if they are shown in any form. -/
def expressionOptions (arguments : Arguments) (policies : Policies) : SessionOptions :=
  { order := arguments.order, showSteps := arguments.showSteps || arguments.json, policies }

def valueText (arguments : Arguments) (value : Value) (steps : Option Steps) : String :=
  if arguments.json then
    match steps with
    | some steps => steps.json ++ "\n"
    | none => Json.object [("value", Decimal.ofInt value.toInt)] ++ "\n"
  else (steps.map Steps.text).getD "" ++ Decimal.ofInt value.toInt ++ "\n"

def answer (arguments : Arguments) (source : String) : Session.Result → Answer
  | .ok (value, steps) => { output := arguments.valueText value steps }
  | .error error =>
    if arguments.json then
      { status := .failure, output := (Report.ofError error).json ++ "\n" }
    else { status := .failure, complaint := error.withSource source }

def reply (arguments : Arguments) (policies : Policies) (input : List UInt8) : Answer :=
  match arguments.expression with
  | some source =>
    arguments.answer source (Session.evaluate (arguments.expressionOptions policies) source)
  | none => { output := Session.transcript (arguments.sessionOptions policies) input }

def perform (arguments : Arguments) (policies : Policies) (input : List UInt8) : Logged Answer :=
  match arguments.expression with
  | some source => do
    Logged.note (.expressionGiven source arguments.order)
    return arguments.answer source
      (← Session.evaluateLogged (arguments.expressionOptions policies) source)
  | none => do
    Logged.note (.sessionStarted arguments.order)
    return { output := ← Session.run (arguments.sessionOptions policies) input }

/-- The log makes no difference to what the command replies. -/
theorem yields_perform (arguments : Arguments) (policies : Policies) (input : List UInt8) :
    Logged.Yields (arguments.perform policies input) (arguments.reply policies input) := by
  unfold perform reply
  cases arguments.expression with
  | some source =>
    apply (Logged.yields_note _).bind
    exact (Session.yields_evaluateLogged _ source).bind (Logged.yields_pure _)
  | none =>
    apply (Logged.yields_note _).bind
    exact (Session.yields_run _ input).bind (Logged.yields_pure _)

end Arguments

namespace CommandLine

def runWith (arguments : Arguments) (settings : Settings) (directory : Directory)
    (input : List UInt8) : Outcome :=
  let recorded := (arguments.perform settings.policies input).run settings.log
  let outcome (directory : Directory) : Outcome :=
    { answer := recorded.value, records := recorded.records, format := arguments.format, directory }
  match arguments.logFile with
  | none => outcome directory
  | some path =>
    match directory.writable? path with
    -- the log file is opened first, so nothing has been shown yet
    | none => { answer := noLogFile path, directory }
    | some name => outcome (directory.append name (Utf8.encode (fileText recorded.records).toList))

/-- What the command does when it is called with `texts` in a directory. -/
def run (texts : List String) (directory : Directory) (input : List UInt8) : Outcome :=
  match Arguments.ofTexts texts with
  | .error interruption => { answer := interrupted interruption, directory }
  | .ok arguments =>
    match arguments.settings directory.read with
    | .error error => { answer := unsettled error, directory }
    | .ok settings => runWith arguments settings directory input

end CommandLine

/-- All that a run shows on the console: its log and its complaint. -/
def Outcome.console (outcome : Outcome) : String :=
  outcome.format.text outcome.records ++ outcome.answer.complaint

end Calculator
