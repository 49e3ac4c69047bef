import Calculator.Json.Reader
import Calculator.Settings.Basic
import Calculator.Text.Utf8

/-!
# The configuration file

The file is a JSON object, of which the members `log_level`, `strict` and `overflow` matter; it may
also be an array of exactly these three values. What is null or missing is not set. The texts are
looked at only when the file is laid over other settings, the log level first.
-/
namespace Calculator

/-- What a configuration file sets, before its texts are understood. -/
structure FileSettings where
  logLevel : Option String := none
  strict : Option Bool := none
  overflow : Option String := none
  deriving DecidableEq, Repr, Inhabited

inductive ReadFailure where
  | notFound
  -- a part of the path before the last is a file
  | notDirectory
  | isDirectory
  | nameTooLong
  | notText
  deriving DecidableEq, Repr

def ReadFailure.message : ReadFailure → String
  | .notFound => "No such file or directory (os error 2)"
  | .notDirectory => "Not a directory (os error 20)"
  | .isDirectory => "Is a directory (os error 21)"
  | .nameTooLong => "File name too long (os error 36)"
  | .notText => "stream did not contain valid UTF-8"

inductive SettingsError where
  | unreadable (path : String) (cause : ReadFailure)
  -- the file is not a JSON text of the right form
  | malformed (path : String)
  | unknownLogLevel (name : String)
  | unknownOverflowPolicy (name : String)
  deriving DecidableEq, Repr

namespace SettingsError

/-- The wording of an error, without the reason why a file cannot be used. -/
def summary : SettingsError → String
  | .unreadable path _ => "cannot read '" ++ path ++ "': "
  | .malformed path => "cannot parse '" ++ path ++ "': "
  | .unknownLogLevel name => "unknown log level '" ++ name ++ "'"
  | .unknownOverflowPolicy name =>
    "unknown overflow policy '" ++ name ++ "' (expected \"reject\" or \"saturate\")"

def message (error : SettingsError) : String :=
  match error with
  | .unreadable _ cause => error.summary ++ cause.message
  | .malformed _ => error.summary ++ "not an object of settings"
  | .unknownLogLevel _ | .unknownOverflowPolicy _ => error.summary

end SettingsError

def OverflowPolicy.ofName? (name : String) : Option OverflowPolicy :=
  let folded := String.ofList (name.toList.map Char.toLower)
  if folded = "reject" then some .reject
  else if folded = "saturate" then some .saturate
  else none

namespace FileSettings

def text? : Json.Tree → Option (Option String)
  | .null => some none
  | .string (some text) => some (some text)
  | _ => none

def flag? : Json.Tree → Option (Option Bool)
  | .null => some none
  | .bool value => some (some value)
  | _ => none

/-- The value of the member called `name`, null if there is none; it must not be repeated. -/
def member? (members : List (Option String × Json.Tree)) (name : String) : Option Json.Tree :=
  match members.filter fun entry => entry.1 = some name with
  | [] => some .null
  | [entry] => some entry.2
  | _ => none

def ofTree? : Json.Tree → Option FileSettings
  | .object members => do
    if members.any fun entry => entry.1.isNone then none
    else
      return { logLevel := ← text? (← member? members "log_level")
               strict := ← flag? (← member? members "strict")
               overflow := ← text? (← member? members "overflow") }
  | .array [logLevel, strict, overflow] => do
    return { logLevel := ← text? logLevel
             strict := ← flag? strict
             overflow := ← text? overflow }
  | _ => none

def read? (text : String) : Option FileSettings := (Json.read? text).bind ofTree?

def load (path : String) (content : Except ReadFailure (List UInt8)) :
    Except SettingsError FileSettings :=
  match content with
  | .error cause => .error (.unreadable path cause)
  | .ok bytes =>
    match Utf8.decode? bytes with
    | none => .error (.unreadable path .notText)
    | some text =>
      match read? (String.ofList text) with
      | none => .error (.malformed path)
      | some file => .ok file

def applyLevel (file : FileSettings) (below : Level) : Except SettingsError Level :=
  match file.logLevel with
  | none => .ok below
  | some name =>
    match Level.ofName? name with
    | some level => .ok level
    | none => .error (.unknownLogLevel name)

def applyOverflow (file : FileSettings) (below : OverflowPolicy) :
    Except SettingsError OverflowPolicy :=
  match file.overflow with
  | none => .ok below
  | some name =>
    match OverflowPolicy.ofName? name with
    | some policy => .ok policy
    | none => .error (.unknownOverflowPolicy name)

def applyStack (file : FileSettings) (below : StackPolicy) : StackPolicy :=
  match file.strict with
  | none => below
  | some true => .strict
  | some false => .lenient

def apply (file : FileSettings) (below : Settings) : Except SettingsError Settings := do
  -- of two unknown names, that of the level is reported
  let global ← file.applyLevel below.log.global
  let overflow ← file.applyOverflow below.policies.overflow
  return { log := { below.log with global }
           policies := { overflow, stack := file.applyStack below.policies.stack } }

end FileSettings

/-- The base settings with the file, if there is one, and then the overrides laid over them. -/
def Settings.layered (file : Option FileSettings) (overrides : Overrides) :
    Except SettingsError Settings :=
  match file with
  | none => .ok (overrides.apply .base)
  | some file => (file.apply .base).map overrides.apply

end Calculator
