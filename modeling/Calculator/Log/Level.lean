/-!
# Log levels

Every log event has a level, from errors down to the finest detail. A filter lets through the
levels up to some limit, or none.
-/
namespace Calculator

/-- How important a log event is, the most important level first. -/
inductive Level where
  | error
  | warn
  | info
  | debug
  | trace
  deriving DecidableEq, Repr, Inhabited

inductive Filter where
  | off
  | upTo (limit : Level)
  deriving DecidableEq, Repr, Inhabited

namespace Level

def all : List Level := [.error, .warn, .info, .debug, .trace]

def detail : Level → Nat
  | .error => 1
  | .warn => 2
  | .info => 3
  | .debug => 4
  | .trace => 5

def name : Level → String
  | .error => "error"
  | .warn => "warn"
  | .info => "info"
  | .debug => "debug"
  | .trace => "trace"

/-- The level with a given name. Case does not matter, and `silent` stands for errors only. -/
def ofName? (name : String) : Option Level :=
  let folded := String.ofList (name.toList.map Char.toLower)
  if folded = "silent" then some .error else all.find? fun level => level.name = folded

end Level

namespace Filter

def admits : Filter → Level → Bool
  | .off, _ => false
  | .upTo limit, level => level.detail ≤ limit.detail

def name : Filter → String
  | .off => "off"
  | .upTo limit => limit.name

/-- The filter with a given name, in lower case. -/
def ofName? (name : String) : Option Filter :=
  (.off :: Level.all.map .upTo).find? fun filter => filter.name = name

end Filter
end Calculator
