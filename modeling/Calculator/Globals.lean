import Calculator.Log.Line
import Calculator.Pipeline
import Calculator.Settings.Basic

/-!
# Settings shared by a whole program

A program has one cell for settings, which is written once, and one for its logger, which is set up
once and only after the settings. An operation that comes too early or too late is refused and
changes nothing more.
-/
namespace Calculator

/-- The log settings and the form of the log lines, as they were when the logger was set up. -/
structure Logger where
  settings : LogSettings
  format : ConsoleFormat
  deriving DecidableEq, Repr, Inhabited

structure Globals where
  settings : Option Settings := none
  logger : Option Logger := none
  deriving DecidableEq, Repr, Inhabited

inductive Refusal where
  | alreadyWritten
  | notWritten
  | loggerTooEarly
  | loggerTwice
  deriving DecidableEq, Repr

def Refusal.message : Refusal → String
  | .alreadyWritten => "Config already initialized"
  | .notWritten => "Config not initialized"
  | .loggerTooEarly => "Config must be initialized before logger"
  | .loggerTwice => "failed to set global default subscriber"

/-- What may be asked of the shared state. -/
inductive Request where
  | isWritten
  | write (settings : Settings)
  | writeAndStartLogger (settings : Settings) (format : ConsoleFormat := .pretty)
  | startLogger
  | read
  | readOrWrite
  -- for each stage, whether details about it are recorded
  | debugging
  | evaluate (source : String)
  -- the value of an infix expression under policies of its own
  | evaluateWith (source : String) (policies : Policies)
  deriving DecidableEq, Repr

inductive Response where
  | truth (value : Bool)
  | outcome (result : Except Refusal Unit)
  | settings (result : Except Refusal Settings)
  | debugging (stages : List Bool)
  | result (result : Except Error Value)
  deriving Repr

namespace Globals

def isWritten (globals : Globals) : Bool := globals.settings.isSome

def write (settings : Settings) (globals : Globals) : Except Refusal Unit × Globals :=
  match globals.settings with
  | some _ => (.error .alreadyWritten, globals)
  | none => (.ok (), { globals with settings := some settings })

def startLogger (globals : Globals) (format : ConsoleFormat := .pretty) :
    Except Refusal Unit × Globals :=
  match globals.settings, globals.logger with
  | none, _ => (.error .loggerTooEarly, globals)
  | some _, some _ => (.error .loggerTwice, globals)
  | some settings, none => (.ok (), { globals with logger := some ⟨settings.log, format⟩ })

def writeAndStartLogger (settings : Settings) (format : ConsoleFormat) (globals : Globals) :
    Except Refusal Unit × Globals :=
  match globals.write settings with
  | (.error refusal, globals) => (.error refusal, globals)
  | (.ok _, globals) => globals.startLogger format

def read (globals : Globals) : Except Refusal Settings :=
  match globals.settings with
  | some settings => .ok settings
  | none => .error .notWritten

/-- The settings; the default ones are written if there are none. -/
def readOrWrite (globals : Globals) : Settings × Globals :=
  match globals.settings with
  | some settings => (settings, globals)
  | none => ({}, { globals with settings := some {} })

/-- Whether details about a stage are recorded; without a logger nothing is. -/
def debugging (globals : Globals) (phase : Phase) : Bool :=
  globals.logger.any fun logger => logger.settings.debugging phase

def evaluate (source : String) (globals : Globals) : Except Error Value × Globals :=
  let (settings, globals) := globals.readOrWrite
  (Calculator.evaluate source settings.policies, globals)

def serve (globals : Globals) : Request → Response × Globals
  | .isWritten => (.truth globals.isWritten, globals)
  | .write settings => (globals.write settings).map .outcome id
  | .writeAndStartLogger settings format =>
    (globals.writeAndStartLogger settings format).map .outcome id
  | .startLogger => globals.startLogger.map .outcome id
  | .read => (.settings globals.read, globals)
  | .readOrWrite => globals.readOrWrite.map (fun settings => .settings (.ok settings)) id
  | .debugging => (.debugging (Phase.all.map globals.debugging), globals)
  | .evaluate source => (globals.evaluate source).map .result id
  | .evaluateWith source policies => (.result (Calculator.evaluate source policies), globals)

def serveAll (globals : Globals) : List Request → List Response × Globals
  | [] => ([], globals)
  | request :: later =>
    let (response, globals) := globals.serve request
    let (responses, globals) := globals.serveAll later
    (response :: responses, globals)

end Globals
end Calculator
