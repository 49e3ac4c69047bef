import Calculator.CommandLine.Run

/-!
# The command

Standard input, standard output and the console, the configuration file and the log file. All that
is shown and written comes from `Calculator.CommandLine.Run`; a session is held line by line, so
that each answer is shown before the next line is read.
-/
namespace Calculator.Command

/-- The number of a failed operation; some operations give it negated. -/
def failureNumber (code : UInt32) : UInt32 := if code > 0x7FFFFFFF then 0 - code else code

def failureOf : IO.Error → ReadFailure
  | .inappropriateType _ code _ => if failureNumber code = 20 then .notDirectory else .isDirectory
  | .invalidArgument _ code _ => if failureNumber code = 36 then .nameTooLong else .notFound
  | _ => .notFound

def readConfiguration (path : Option String) : IO (Except ReadFailure (List UInt8)) := do
  match path with
  | none => return .error .notFound
  | some path =>
    try
      return .ok (← IO.FS.readBinFile path).toList
    catch error => return .error (failureOf error)

def openLog (path : Option String) : IO (Except String (Option IO.FS.Handle)) := do
  match path with
  | none => return .ok none
  | some path =>
    try
      return .ok (some (← IO.FS.Handle.mk path .append))
    catch _ => return .error path

def report (format : ConsoleFormat) (log : Option IO.FS.Handle) (records : List Record) :
    IO Unit := do
  (← IO.getStderr).putStr (format.text records)
  if let some log := log then
    log.putStr (CommandLine.fileText records)
    log.flush

def conclude (answer : Answer) : IO UInt32 := do
  (← IO.getStdout).putStr answer.output
  (← IO.getStderr).putStr answer.complaint
  return answer.status.code.toUInt32

def tell (text : String) : IO Unit := do
  let output ← IO.getStdout
  output.putStr text
  output.flush

/-- Reads bytes up to the next line feed and with it, or up to the end. -/
partial def nextLine (input : IO.FS.Stream) (before : Array UInt8) : IO (Array UInt8) := do
  match (← input.read 1).toList with
  | [] => return before
  | byte :: _ => if byte = 0x0A then return before.push byte else nextLine input (before.push byte)

partial def converse (options : SessionOptions) (settings : LogSettings)
    (note : List Record → IO Unit) (input : IO.FS.Stream) : IO Unit := do
  tell options.order.prompt
  match Session.lines (← nextLine input #[]).toList with
  | [] =>
    tell Session.farewell
    note ((Logged.note .sessionEnded).run settings).records
  | line :: _ =>
    let recorded := (Session.evaluateLogged options line).run settings
    note recorded.records
    tell (Session.reply line recorded.value)
    converse options settings note input

def perform (arguments : Arguments) (settings : Settings) (note : List Record → IO Unit) :
    IO UInt32 := do
  match arguments.expression with
  | some _ =>
    let recorded := (arguments.perform settings.policies []).run settings.log
    note recorded.records
    conclude recorded.value
  | none =>
    note ((Logged.note (.sessionStarted arguments.order)).run settings.log).records
    converse (arguments.sessionOptions settings.policies) settings.log note (← IO.getStdin)
    return 0

/-- Reads the arguments, builds the settings and opens the log file; each of these can end the
command. -/
def run (texts : List String) : IO UInt32 := do
  match Arguments.ofTexts texts with
  | .error interruption => conclude (CommandLine.interrupted interruption)
  | .ok arguments =>
    let content ← readConfiguration arguments.configuration
    match arguments.settings fun _ => content with
    | .error error => conclude (CommandLine.unsettled error)
    | .ok settings =>
      match ← openLog arguments.logFile with
      | .error path => conclude (CommandLine.noLogFile path)
      | .ok log => perform arguments settings (report arguments.format log)

end Calculator.Command

def main (texts : List String) : IO UInt32 := Calculator.Command.run texts
