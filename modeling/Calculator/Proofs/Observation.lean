import Calculator.Session

/-!
# Logging only observes

What is recorded under some settings is a part of what is recorded if nothing is held back: the
records of the events that the settings let through, in the same order, each without the scopes that
the settings do not let through. Nothing else depends on the settings, and the value does not.

A detail that is recorded only where a stage is debugged is a detail about this stage, so asking
before it is prepared holds nothing back that would be recorded.

## Main statements

* `whenDebugging_eq_note`: a detail that is asked for is recorded as if it were not.
* `Filtered.bind`, `Filtered.within`: a computation observes if its parts do.
* `logging_observes`: the value and the records of every call.
-/
namespace Calculator

namespace LogSettings

/-- Whether a scope is opened, so that the records of what happens in it show it. -/
def opens (settings : LogSettings) (scope : Scope) : Bool :=
  settings.admits scope.target Scope.level

theorem filterFor_everything (name : String) : everything.filterFor name = .upTo .trace := by
  have entries : everything.entries =
      (Phase.all.map Phase.target ++ [Target.command.name]).map (·, Filter.upTo .trace) := rfl
  rw [filterFor]
  split
  next entry found =>
    have member := List.mem_of_find?_eq_some found
    rw [entries] at member
    obtain ⟨name, -, rfl⟩ := List.mem_map.mp member
    rfl
  · rfl

@[simp] theorem admits_everything (target : Target) (level : Level) :
    everything.admits target level = true := by
  rw [admits, filterFor_everything]
  cases level <;> rfl

end LogSettings

/-- What the settings let through of a record: nothing, or the event with some of its scopes. -/
def Record.under? (settings : LogSettings) (record : Record) : Option Record :=
  if settings.admits record.event.target record.event.level then
    some ⟨record.event, record.scopes.filter settings.opens⟩
  else none

namespace Logged

variable {α β : Type}

/-- The settings decide only which records of a computation are let through. The scopes in which it
stands are subject to them as well. -/
def Filtered (computation : Logged α) : Prop :=
  ∀ settings scopes, computation settings (scopes.filter settings.opens) =
    ⟨(computation .everything scopes).value,
      (computation .everything scopes).records.filterMap (Record.under? settings)⟩

/-- A call has this value, and its records are those that the settings let through of all of them. -/
def Observes (computation : Logged α) (value : α) : Prop :=
  ∀ settings, computation.run settings =
    ⟨value, (computation.run .everything).records.filterMap (Record.under? settings)⟩

/-- A call stands in no scope, so that its records are filtered as they are. -/
theorem Filtered.observes {computation : Logged α} {value : α} (filtered : Filtered computation)
    (yields : Yields computation value) : Observes computation value := by
  intro settings
  rw [run, ← yields .everything []]
  exact filtered settings []

/-! ### Single events -/

theorem filtered_pure (value : α) : Filtered (pure value : Logged α) := fun _ _ => rfl

theorem filtered_note (event : Event) : Filtered (note event) := by
  intro settings scopes
  simp only [note, LogSettings.admits_everything, if_true, List.filterMap_cons, Record.under?]
  split <;> rfl

/-- A detail about a stage is recorded as if nothing had been asked before. -/
theorem whenDebugging_eq_note {phase : Phase} {event : Event}
    (target : event.target = .phase phase) (level : event.level = .debug) :
    whenDebugging phase event = note event := by
  funext settings scopes
  have same : settings.debugging phase = settings.admits event.target event.level := by
    rw [LogSettings.debugging, target, level]
  rw [whenDebugging, note, same]
  split
  · rfl
  · rfl

/-- A guarded event is filtered like any other: where the guard holds it back, its filter does too.
-/
theorem filtered_whenDebugging {phase : Phase} {event : Event}
    (target : event.target = .phase phase) (level : event.level = .debug) :
    Filtered (whenDebugging phase event) := by
  rw [whenDebugging_eq_note target level]
  exact filtered_note event

/-! ### Computations put together -/

/-- Of two computations one after another the records are filtered one by one. -/
theorem Filtered.bind {first : Logged α} {next : α → Logged β} (before : Filtered first)
    (after : ∀ value, Filtered (next value)) : Filtered (first >>= next) := by
  intro settings scopes
  have start := before settings scopes
  have rest := after (first .everything scopes).value settings scopes
  simp only [Bind.bind, Logged.bind, start, rest, List.filterMap_append]

theorem noteAll_cons (event : Event) (later : List Event) :
    noteAll (event :: later) = note event >>= fun _ => noteAll later := by
  funext settings scopes
  simp only [noteAll, note, Bind.bind, Logged.bind, List.filter_cons]
  split <;> rfl

theorem filtered_noteAll (events : List Event) : Filtered (noteAll events) := by
  induction events with
  | nil => exact filtered_pure ()
  | cons event later ih =>
    rw [noteAll_cons]
    exact (filtered_note event).bind fun _ => ih

/-- A scope that the settings close is missing from the records within it, and changes nothing else
about them. -/
theorem Filtered.within {computation : Logged α} (scope : Scope)
    (inner : Filtered computation) : Filtered (within scope computation) := by
  intro settings scopes
  have opened : (if settings.opens scope then scopes.filter settings.opens ++ [scope]
      else scopes.filter settings.opens) = (scopes ++ [scope]).filter settings.opens := by
    rw [List.filter_append, List.filter_cons, List.filter_nil]
    split
    · rfl
    · rw [List.append_nil]
  have inside := inner settings (scopes ++ [scope])
  rw [← opened] at inside
  simp only [Logged.within, LogSettings.admits_everything, if_true]
  exact inside

/-! ### The calls -/

theorem filtered_scan (source : String) (overflow : OverflowPolicy) :
    Filtered (scan source overflow) := by
  apply Filtered.within
  apply (filtered_noteAll _).bind
  intro _
  cases Reading.collect (Scanner.ofSource source overflow).readings with
  | error error => exact filtered_pure _
  | ok tokens => exact (filtered_whenDebugging rfl rfl).bind fun _ => filtered_pure _

theorem filtered_resolve (tokens : List Token) : Filtered (resolve tokens) := by
  apply Filtered.within
  apply (filtered_noteAll _).bind
  exact fun _ => (filtered_whenDebugging rfl rfl).bind fun _ => filtered_pure _

theorem filtered_convert (tokens : List Token) : Filtered (convert tokens) := by
  apply Filtered.within
  apply (filtered_noteAll _).bind
  intro _
  cases Postfix.ofInfix tokens with
  | error error => exact filtered_pure _
  | ok ordered => exact (filtered_whenDebugging rfl rfl).bind fun _ => filtered_pure _

theorem filtered_evalPostfix (tokens : List Token) (policy : StackPolicy) :
    Filtered (evalPostfix tokens policy) := by
  apply Filtered.within
  apply (filtered_noteAll _).bind
  intro _
  cases Postfix.eval policy tokens with
  | error error => exact (filtered_note _).bind fun _ => filtered_pure _
  | ok value => exact (filtered_note _).bind fun _ => filtered_pure _

/-- No stage looks at the settings except through its notes. -/
theorem filtered_stages (source : String) (policies : Policies) :
    Filtered (stages source policies) := by
  apply (filtered_scan source policies.overflow).bind
  rintro (error | tokens)
  · exact filtered_pure _
  apply (filtered_resolve tokens).bind
  intro resolved
  apply (filtered_convert resolved).bind
  rintro (error | ordered)
  · exact filtered_pure _
  apply (filtered_evalPostfix ordered policies.stack).bind
  rintro (error | value)
  · exact filtered_pure _
  · exact filtered_pure _

theorem filtered_steps (source : String) (policies : Policies) :
    Filtered (steps source policies) := by
  apply Filtered.within
  apply (filtered_stages source policies).bind
  rintro (error | run)
  · exact (filtered_note _).bind fun _ => filtered_pure _
  · exact (filtered_note _).bind fun _ => filtered_pure _

theorem filtered_evaluate (source : String) (policies : Policies) :
    Filtered (evaluate source policies) :=
  (filtered_steps source policies).bind fun _ => filtered_pure _

theorem filtered_evaluatePostfix (source : String) (policies : Policies) :
    Filtered (evaluatePostfix source policies) := by
  apply Filtered.within
  apply (filtered_scan source policies.overflow).bind
  rintro (error | tokens)
  · exact filtered_pure _
  · exact filtered_evalPostfix tokens policies.stack

end Logged

namespace Session

open Logged

theorem filtered_evaluateLogged (options : SessionOptions) (line : String) :
    Filtered (evaluateLogged options line) := by
  unfold evaluateLogged
  cases options.order with
  | infixOrder => exact (filtered_steps line options.policies).bind fun _ => filtered_pure _
  | postfixOrder =>
    exact (filtered_evaluatePostfix line options.policies).bind fun _ => filtered_pure _

theorem filtered_entriesLogged (options : SessionOptions) (lines : List String) :
    Filtered (entriesLogged options lines) := by
  induction lines with
  | nil => exact filtered_pure _
  | cons line later ih =>
    apply (filtered_evaluateLogged options line).bind
    exact fun _ => ih.bind fun _ => filtered_pure _

theorem filtered_run (options : SessionOptions) (input : List UInt8) :
    Filtered (run options input) := by
  apply (filtered_entriesLogged options (lines input)).bind
  exact fun _ => (filtered_note _).bind fun _ => filtered_pure _

end Session

/-- Whatever the log settings are, a call gives the value that it gives without a log, and its
records are those of the same call under the settings that let everything through, in the same order,
without the events and the scopes that the settings do not let through. This holds of an evaluation
and of each of its stages, and of whole sessions.

Asking whether a stage is debugged holds nothing back: the answer is what the filter of the stage
says, and a detail about the stage is recorded as if nothing had been asked. -/
theorem Logged.logging_observes :
    (∀ source policies,
      Observes (evaluate source policies) (Calculator.evaluate source policies)) ∧
    (∀ source policies, Observes (steps source policies) (Calculator.steps source policies)) ∧
    (∀ source policies,
      Observes (evaluatePostfix source policies) (Calculator.evaluatePostfix source policies)) ∧
    (∀ source overflow,
      Observes (scan source overflow) ((Calculator.scan source overflow).mapError .scan)) ∧
    (∀ tokens, Observes (resolve tokens) (Token.resolveMinus tokens)) ∧
    (∀ tokens, Observes (convert tokens) ((Postfix.ofInfix tokens).mapError .parse)) ∧
    (∀ tokens policy,
      Observes (evalPostfix tokens policy) ((Postfix.eval policy tokens).mapError .eval)) ∧
    (∀ options input,
      Observes (Session.run options input) (Session.transcript options input)) ∧
    (∀ (settings : LogSettings) (phase : Phase),
      settings.debugging phase = true ↔ (settings.effective phase).admits .debug = true) ∧
    ∀ (phase : Phase) (event : Event), event.target = .phase phase → event.level = .debug →
      whenDebugging phase event = note event := by
  refine ⟨fun source policies => ?_, fun source policies => ?_, fun source policies => ?_,
    fun source overflow => ?_, fun tokens => ?_, fun tokens => ?_, fun tokens policy => ?_,
    fun options input => ?_, LogSettings.debugging_iff, fun _ _ => whenDebugging_eq_note⟩
  · exact (filtered_evaluate source policies).observes (yields_evaluate source policies)
  · exact (filtered_steps source policies).observes (yields_steps source policies)
  · exact (filtered_evaluatePostfix source policies).observes (yields_evaluatePostfix source policies)
  · exact (filtered_scan source overflow).observes (yields_scan source overflow)
  · exact (filtered_resolve tokens).observes (yields_resolve tokens)
  · exact (filtered_convert tokens).observes (yields_convert tokens)
  · exact (filtered_evalPostfix tokens policy).observes (yields_evalPostfix tokens policy)
  · exact (Session.filtered_run options input).observes (Session.yields_run options input)

theorem Logged.logging_observes_guard :
    Event.target (.scanCompleted [.number 7]) = .phase .scanner ∧
      Event.level (.scanCompleted [.number 7]) = .debug ∧
      whenDebugging .scanner (.scanCompleted [.number 7]) = note (.scanCompleted [.number 7]) := by
  obtain ⟨-, -, -, -, -, -, -, -, -, guard⟩ := logging_observes
  exact ⟨rfl, rfl, guard .scanner (.scanCompleted [.number 7]) rfl rfl⟩

-- The scope of a silent stage is not shown, but what happens in it is.
example : ((Logged.scan "" .reject).run { global := .error }).records = [] ∧
    ((Logged.within (.resolve 0) (Logged.scan "" .reject)).run
      { global := .error, scanner := some (.upTo .trace) }).records =
      [⟨.sourceEnded, [.scan 0]⟩, ⟨.scanCompleted [], [.scan 0]⟩] := by decide +kernel

end Calculator
