import Calculator.Log.Event

/-!
# Recording events

A computation that logs reads the settings and the scopes it stands in, and leaves a value and the
records of the events that the settings let through. A scope that they do not let through is not
opened, but what happens in it is recorded all the same.

## Main statements

* `Yields.bind`: what a computation yields follows from what its parts yield.
-/
namespace Calculator

/-- An event with the scopes in which it happened, the outermost first. -/
structure Record where
  event : Event
  scopes : List Scope
  deriving DecidableEq, Repr

/-- A value, and what was recorded on the way to it. -/
structure Recorded (α : Type) where
  value : α
  records : List Record
  deriving Repr

/-- A computation that logs under the settings and in the scopes it is given. -/
def Logged (α : Type) : Type := LogSettings → List Scope → Recorded α

namespace Logged

protected def pure {α : Type} (value : α) : Logged α := fun _ _ => ⟨value, []⟩

protected def bind {α β : Type} (first : Logged α) (next : α → Logged β) : Logged β :=
  fun settings scopes =>
    let before := first settings scopes
    let after := next before.value settings scopes
    ⟨after.value, before.records ++ after.records⟩

instance : Monad Logged where
  pure := Logged.pure
  bind := Logged.bind

def run {α : Type} (computation : Logged α) (settings : LogSettings) : Recorded α :=
  computation settings []

def note (event : Event) : Logged Unit := fun settings scopes =>
  ⟨(), if settings.admits event.target event.level then [⟨event, scopes⟩] else []⟩

def noteAll (events : List Event) : Logged Unit := fun settings scopes =>
  ⟨(), (events.filter fun event => settings.admits event.target event.level).map (⟨·, scopes⟩)⟩

def within {α : Type} (scope : Scope) (computation : Logged α) : Logged α :=
  fun settings scopes =>
    computation settings
      (if settings.admits scope.target Scope.level then scopes ++ [scope] else scopes)

def whenDebugging (phase : Phase) (event : Event) : Logged Unit := fun settings scopes =>
  if settings.debugging phase then note event settings scopes else ⟨(), []⟩

/-- A computation leaves this value, whatever the settings and scopes are. -/
def Yields {α : Type} (computation : Logged α) (value : α) : Prop :=
  ∀ settings scopes, (computation settings scopes).value = value

theorem yields_pure {α : Type} (value : α) : Yields (pure value) value := fun _ _ => rfl

theorem Yields.bind {α β : Type} {first : Logged α} {next : α → Logged β} {value : α} {result : β}
    (before : Yields first value) (after : Yields (next value) result) :
    Yields (first >>= next) result := by
  intro settings scopes
  change (next (first settings scopes).value settings scopes).value = result
  rw [before settings scopes]
  exact after settings scopes

theorem Yields.within {α : Type} {computation : Logged α} {value : α} (scope : Scope)
    (inner : Yields computation value) : Yields (within scope computation) value :=
  fun settings _ => inner settings _

theorem yields_note (event : Event) : Yields (note event) () := fun _ _ => rfl

theorem yields_noteAll (events : List Event) : Yields (noteAll events) () := fun _ _ => rfl

theorem yields_whenDebugging (phase : Phase) (event : Event) :
    Yields (whenDebugging phase event) () := fun _ _ => rfl

end Logged
end Calculator
