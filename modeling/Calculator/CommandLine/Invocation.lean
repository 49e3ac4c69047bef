import Calculator.CommandLine.Run

/-!
# Calling the command for one expression

The command is called with options and an expression. An option is a switch by its name, the letter
of `--verbose` any number of times behind one dash, or a parameter with its value, which stands
behind an equals sign or is the next argument. Options may be given in any order, and all but
`--verbose` at most once. The expression stands anywhere among them or, behind the separator, after
them; if it is not behind the separator, it must not look like an option.

What the command then answers depends on its switches, on the policies of its configuration file, and
on the value of the expression.
-/
namespace Calculator

/-- A text that begins with a dash and is not the dash alone. -/
def LooksLikeOption (text : String) : Prop := text.toList.head? = some '-' ∧ text ≠ "-"

def Parameter.Takes : Parameter → String → Prop
  | .configuration, value => value ≠ ""
  | .filter _, value => value ∈ ["off", "error", "warn", "info", "debug", "trace"]
  | .format, value => value ∈ ["pretty", "compact", "json"]
  | .logFile, _ => True

/-- An option as it is given. -/
inductive Choice where
  | switch (given : Switch)
  -- the letter `v`, and `more` of them
  | letters (more : Nat)
  -- `joined` says whether the value stands behind an equals sign
  | setting (parameter : Parameter) (value : String) (joined : Bool)
  deriving DecidableEq, Repr

namespace Choice

def texts : Choice → List String
  | .switch given => ["--" ++ given.name]
  | .letters more => [String.ofList ('-' :: 'v' :: List.replicate more 'v')]
  | .setting parameter value true => ["--" ++ parameter.name ++ "=" ++ value]
  | .setting parameter value false => ["--" ++ parameter.name, value]

/-- The option can be given, and the command goes on after it. -/
def Fits : Choice → Prop
  | .switch given => given ≠ .help ∧ given ≠ .version
  | .letters _ => True
  | .setting parameter value joined =>
    parameter.Takes value ∧ (joined = true ∨ ¬ LooksLikeOption value)

/-- The switch or the parameter, if it may be given only once. -/
def single? : Choice → Option (Switch ⊕ Parameter)
  | .switch .verbose | .letters _ => none
  | .switch given => some (.inl given)
  | .setting parameter _ _ => some (.inr parameter)

/-- Whether the option is about the log lines on the console only. -/
def isLogging : Choice → Bool
  | .switch .verbose | .letters _ | .setting (.filter _) _ _ | .setting .format _ _ => true
  | .switch _ | .setting .configuration _ _ | .setting .logFile _ _ => false

def withoutLogging (choices : List Choice) : List Choice :=
  choices.filter fun choice => !choice.isLogging

/-- Options that can be given together. -/
structure Compatible (choices : List Choice) : Prop where
  fits : ∀ choice ∈ choices, choice.Fits
  once : (choices.filterMap single?).Nodup

/-- The policies with the switches laid over them. -/
def policies (choices : List Choice) (below : Policies) : Policies where
  overflow := if .switch .saturate ∈ choices then .saturate else below.overflow
  stack := if .switch .strict ∈ choices then .strict else below.stack

/-- The result of the expression, in the order that the switches say. -/
def result (choices : List Choice) (source : String) (policies : Policies) : Except Error Value :=
  if .switch .postfixOrder ∈ choices then evaluatePostfix source policies
  else evaluate source policies

end Choice

/-- The texts call the command with an expression and options. -/
inductive Invokes (source : String) : List Choice → List String → Prop where
  | among {before after : List Choice} :
    ¬ LooksLikeOption source → Invokes source (before ++ after)
      (before.flatMap Choice.texts ++ source :: after.flatMap Choice.texts)
  | separated {choices : List Choice} :
    Invokes source choices (choices.flatMap Choice.texts ++ ["--", source])

/-- The file holds valid values, and these are its policies. -/
structure FileSettings.Sets (file : FileSettings) (policies : Policies) : Prop where
  level : ∀ name, file.logLevel = some name → ∃ level, Level.ofName? name = some level
  overflow : ∀ name, file.overflow = some name → OverflowPolicy.ofName? name = some policies.overflow
  noOverflow : file.overflow = none → policies.overflow = .reject
  stack : policies.stack = if file.strict = some true then .strict else .lenient

/-- The policies that the switches are laid over: those of the configuration file that is chosen, if
it can be used, and the default ones if none is. -/
inductive Underlies (directory : Directory) (choices : List Choice) : Policies → Prop where
  | withoutFile : (∀ path joined, .setting .configuration path joined ∉ choices) →
    Underlies directory choices {}
  | file {path : String} {joined : Bool} {file : FileSettings} {policies : Policies} :
    .setting .configuration path joined ∈ choices →
      FileSettings.load path (directory.read path) = .ok file → file.Sets policies →
      Underlies directory choices policies

/-- The output is these lines, each ended by a line feed. -/
structure HasLines (output : String) (lines : List String) : Prop where
  joined : output = String.join (lines.map (· ++ "\n"))
  single : ∀ line ∈ lines, '\n' ∉ line.toList

/-- How a value is answered: by its numeral, after the sequences of the evaluation if they are asked
for and the expression is read as infix, or as the last member of an object. -/
structure ShowsValue (choices : List Choice) (source : String) (policies : Policies) (value : Value)
    (answer : Answer) : Prop where
  code : answer.status.code = 0
  alone : .switch .json ∉ choices → .switch .showSteps ∉ choices ∨ .switch .postfixOrder ∈ choices →
    HasLines answer.output [Decimal.ofInt value.toInt]
  sequences : .switch .json ∉ choices → .switch .showSteps ∈ choices →
    .switch .postfixOrder ∉ choices → ∃ run : Steps, steps source policies = .ok run ∧
      HasLines answer.output ["tokens   = " ++ Token.displayAll run.tokens,
        "resolved = " ++ Token.displayAll run.resolved,
        "postfix  = " ++ Token.displayAll run.ordered, Decimal.ofInt value.toInt]
  object : .switch .json ∈ choices → ∃ others : List (String × String),
    (∀ other ∈ others, other.1 ≠ "value") ∧ HasLines answer.output [Json.object <|
      (others.map fun other => (other.1, Json.string other.2)) ++
        [("value", Decimal.ofInt value.toInt)]]

/-- What an object tells of an error: its stage, its kind and its message, and where it stands if it
is about the source. -/
def Error.members (error : Error) : List (String × String) :=
  let kind := ("kind", Json.string error.kind.name)
  match error with
  | .scan found =>
    [("phase", Json.string "scanner"), kind, ("message", Json.string found.message),
      ("line", Decimal.ofNat found.position.line), ("column", Decimal.ofNat found.position.column)]
  | .parse found =>
    [("phase", Json.string "parser"), kind, ("message", Json.string found.message)]
  | .eval found => [("phase", Json.string "eval"), kind, ("message", Json.string found.message)]

/-- How an error is answered: not at all on the output, or by an object that tells it. -/
structure ShowsError (choices : List Choice) (error : Error) (answer : Answer) : Prop where
  code : answer.status.code = 1
  silent : .switch .json ∉ choices → answer.output = ""
  report : .switch .json ∈ choices → HasLines answer.output [Json.object error.members]

/-- The answer reports the result of the expression. -/
inductive Reports (choices : List Choice) (source : String) (policies : Policies)
    (answer : Answer) : Prop where
  | value {value : Value} : Choice.result choices source policies = .ok value →
    ShowsValue choices source policies value answer → Reports choices source policies answer
  | error {error : Error} : Choice.result choices source policies = .error error →
    ShowsError choices error answer → Reports choices source policies answer

end Calculator
