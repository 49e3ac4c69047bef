import Calculator.Log.Level

/-!
# Log settings

Events and scopes belong to targets, which have names. Each stage of an evaluation is a target with
a filter of its own, the command is one that follows the global level, and so does every other
target. A filter given to a name also holds for all names that begin with it.

## Main statements

* `debugging_iff`: detail about a stage is worth preparing exactly when it would be recorded.
-/
namespace Calculator

inductive Phase where
  | scanner
  | resolver
  | parser
  | eval
  deriving DecidableEq, Repr

namespace Phase

def all : List Phase := [.scanner, .resolver, .parser, .eval]

def name : Phase → String
  | .scanner => "scanner"
  | .resolver => "resolver"
  | .parser => "parser"
  | .eval => "eval"

def target : Phase → String
  | .scanner => "calc::scanner"
  | .resolver => "calc::resolver"
  | .parser => "calc::parser"
  | .eval => "calc::eval"

end Phase

inductive Target where
  | phase (phase : Phase)
  | pipeline
  -- the command and its sessions
  | command
  deriving DecidableEq, Repr

def Target.name : Target → String
  | .phase stage => stage.target
  | .pipeline => "infix_calc::api"
  | .command => "calc::cli"

/-- What is logged: a global level, and filters for single stages. -/
structure LogSettings where
  global : Level := .info
  scanner : Option Filter := none
  resolver : Option Filter := none
  parser : Option Filter := none
  eval : Option Filter := none
  deriving DecidableEq, Repr, Inhabited

namespace LogSettings

def everything : LogSettings := { global := .trace }

def specific (settings : LogSettings) : Phase → Option Filter
  | .scanner => settings.scanner
  | .resolver => settings.resolver
  | .parser => settings.parser
  | .eval => settings.eval

/-- The filter of a stage: its own, or else the global level. -/
def effective (settings : LogSettings) (phase : Phase) : Filter :=
  (settings.specific phase).getD (.upTo settings.global)

def entries (settings : LogSettings) : List (String × Filter) :=
  Phase.all.map (fun phase => (phase.target, settings.effective phase)) ++
    [(Target.command.name, .upTo settings.global)]

/-- The filter of the target called `name`: that of the entry it begins with, or else the global
level. -/
def filterFor (settings : LogSettings) (name : String) : Filter :=
  match settings.entries.find? fun entry => entry.1.toList.isPrefixOf name.toList with
  | some entry => entry.2
  | none => .upTo settings.global

def admits (settings : LogSettings) (target : Target) (level : Level) : Bool :=
  (settings.filterFor target.name).admits level

def debugging (settings : LogSettings) (phase : Phase) : Bool :=
  settings.admits (.phase phase) .debug

theorem filterFor_phase (settings : LogSettings) (phase : Phase) :
    settings.filterFor phase.target = settings.effective phase := by
  cases phase <;> simp [filterFor, entries, Phase.all, Phase.target]

theorem admits_phase (settings : LogSettings) (phase : Phase) (level : Level) :
    settings.admits (.phase phase) level = (settings.effective phase).admits level := by
  simp only [admits, Target.name, filterFor_phase]

/-- The guard of a phase looks at the filter that its own debug events meet. -/
theorem debugging_iff (settings : LogSettings) (phase : Phase) :
    settings.debugging phase = true ↔ (settings.effective phase).admits .debug = true := by
  rw [debugging, admits_phase]

end LogSettings
end Calculator
