import Calculator.Log.Settings
import Calculator.Policy

/-!
# Settings

Settings say what is logged and how expressions are evaluated. They are built in layers: a base,
then a configuration file, then the options of the command line. Each layer replaces what it names
and leaves the rest.
-/
namespace Calculator

structure Settings where
  log : LogSettings := {}
  policies : Policies := {}
  deriving DecidableEq, Repr, Inhabited

/-- The settings under the first layer: warnings and errors are logged. -/
def Settings.base : Settings := { log := { global := .warn } }

structure Overrides where
  -- how often more detail was asked for; not at all leaves the level as it is
  verbosity : Nat := 0
  scanner : Option Filter := none
  resolver : Option Filter := none
  parser : Option Filter := none
  eval : Option Filter := none
  strict : Bool := false
  saturate : Bool := false
  deriving DecidableEq, Repr, Inhabited

namespace Overrides

def level? (overrides : Overrides) : Option Level :=
  match overrides.verbosity with
  | 0 => none
  | 1 => some .info
  | 2 => some .debug
  | _ => some .trace

/-- The settings with the options of the command line laid over them. -/
def apply (overrides : Overrides) (below : Settings) : Settings where
  log :=
    { global := overrides.level?.getD below.log.global
      scanner := overrides.scanner.or below.log.scanner
      resolver := overrides.resolver.or below.log.resolver
      parser := overrides.parser.or below.log.parser
      eval := overrides.eval.or below.log.eval }
  policies :=
    { overflow := if overrides.saturate then .saturate else below.policies.overflow
      stack := if overrides.strict then .strict else below.policies.stack }

end Overrides
end Calculator
