import Calculator.Proofs.Observation

/-!
# The events of an evaluation

If nothing is held back, the events of an evaluation are those of its stages, one stage after another
up to the first that fails, and then the one that tells the result. Each stage has a target of its
own, so what is told about a target depends on the steps of one stage only.

## Main statements

* `Emits.bind`: what a computation emits follows from what its parts emit.
* `emits_evaluate`: the events of an evaluation, stage by stage.
* `about_evaluation`: the events about each target.
-/
namespace Calculator

/-! ### Everything is let through -/

/-- No event of any target is held back. -/
def LogSettings.Traces (settings : LogSettings) : Prop :=
  ∀ target : Target, settings.filterFor target.name = .upTo .trace

theorem LogSettings.traces_everything : everything.Traces := fun _ => filterFor_everything _

theorem LogSettings.Traces.admits {settings : LogSettings} (traces : settings.Traces)
    (target : Target) (level : Level) : settings.admits target level = true := by
  rw [LogSettings.admits, traces target]
  cases level <;> rfl

namespace Logged

variable {α β : Type}

/-- The events of a computation from which nothing is held back. -/
def Emits (computation : Logged α) (events : List Event) : Prop :=
  ∀ settings : LogSettings, settings.Traces → ∀ scopes,
    (computation settings scopes).records.map Record.event = events

theorem emits_pure (value : α) : Emits (pure value : Logged α) [] := fun _ _ _ => rfl

theorem emits_note (event : Event) : Emits (note event) [event] := by
  intro settings traces scopes
  rw [note, if_pos (traces.admits _ _)]
  rfl

theorem emits_noteAll (events : List Event) : Emits (noteAll events) events := by
  intro settings traces scopes
  have kept : events.filter (fun event => settings.admits event.target event.level) = events :=
    List.filter_eq_self.mpr fun event _ => traces.admits event.target event.level
  rw [noteAll, kept, List.map_map]
  exact List.map_id events

/-- Where nothing is held back the guard lets its event through as well. -/
theorem emits_whenDebugging (phase : Phase) (event : Event) :
    Emits (whenDebugging phase event) [event] := by
  intro settings traces scopes
  rw [whenDebugging, LogSettings.debugging, if_pos (traces.admits _ _)]
  exact emits_note event settings traces scopes

/-- One computation after another emits the events of both, in this order. Which events come second
depends on the value of the first, hence the hypothesis on it. -/
theorem Emits.bind {first : Logged α} {next : α → Logged β} {value : α} {start rest : List Event}
    (before : Emits first start) (yields : Yields first value) (after : Emits (next value) rest) :
    Emits (first >>= next) (start ++ rest) := by
  intro settings traces scopes
  change ((first settings scopes).records ++
    (next (first settings scopes).value settings scopes).records).map Record.event = start ++ rest
  rw [List.map_append, before settings traces, yields settings, after settings traces]

theorem Emits.within {computation : Logged α} {events : List Event} (scope : Scope)
    (inner : Emits computation events) : Emits (within scope computation) events :=
  fun settings traces _ => inner settings traces _

/-! ### The events of the stages -/

/-- What happens after a success, and nothing after a failure. -/
def onSuccess {ε : Type} (result : Except ε α) (events : α → List Event) : List Event :=
  match result with
  | .error _ => []
  | .ok value => events value

def scanEvents (source : String) (overflow : OverflowPolicy) : List Event :=
  (Scanner.ofSource source overflow).readings.flatMap Reading.events ++
    onSuccess (Calculator.scan source overflow) fun tokens => [.scanCompleted tokens]

def resolveEvents (tokens : List Token) : List Event :=
  Token.resolveEvents none 0 tokens ++ [.minusResolved (Token.resolveMinus tokens)]

def convertEvents (tokens : List Token) : List Event :=
  Postfix.convertEvents [] tokens ++
    onSuccess (Postfix.ofInfix tokens) fun ordered => [.orderProduced ordered]

def evalEvents (tokens : List Token) (policy : StackPolicy) : List Event :=
  Postfix.runEvents policy .empty tokens ++
    match Postfix.eval policy tokens with
    | .error error => [.postfixFailed error]
    | .ok value => [.postfixEvaluated value]

/-- The events of the stages of an infix evaluation, up to the first that fails. -/
def stageEvents (source : String) (policies : Policies) : List Event :=
  scanEvents source policies.overflow ++
    onSuccess (Calculator.scan source policies.overflow) fun tokens =>
      resolveEvents tokens ++ (convertEvents (Token.resolveMinus tokens) ++
        onSuccess (Postfix.ofInfix (Token.resolveMinus tokens)) fun ordered =>
          evalEvents ordered policies.stack)

/-- The event that tells the result of an evaluation. -/
def resultEvent (source : String) (policies : Policies) : Event :=
  match Calculator.steps source policies with
  | .ok run => .succeeded run.value
  | .error error => .failed error

theorem emits_scan (source : String) (overflow : OverflowPolicy) :
    Emits (scan source overflow) (scanEvents source overflow) := by
  apply Emits.within
  apply (emits_noteAll _).bind (yields_noteAll _)
  unfold Calculator.scan Scanner.scanAll
  cases Reading.collect (Scanner.ofSource source overflow).readings with
  | error error => exact emits_pure _
  | ok tokens =>
    exact (emits_whenDebugging _ _).bind (yields_whenDebugging _ _) (emits_pure _)

theorem emits_resolve (tokens : List Token) : Emits (resolve tokens) (resolveEvents tokens) := by
  apply Emits.within
  apply (emits_noteAll _).bind (yields_noteAll _)
  exact (emits_whenDebugging _ _).bind (yields_whenDebugging _ _) (emits_pure _)

theorem emits_convert (tokens : List Token) : Emits (convert tokens) (convertEvents tokens) := by
  apply Emits.within
  apply (emits_noteAll _).bind (yields_noteAll _)
  cases Postfix.ofInfix tokens with
  | error error => exact emits_pure _
  | ok ordered =>
    exact (emits_whenDebugging _ _).bind (yields_whenDebugging _ _) (emits_pure _)

theorem emits_evalPostfix (tokens : List Token) (policy : StackPolicy) :
    Emits (evalPostfix tokens policy) (evalEvents tokens policy) := by
  apply Emits.within
  apply (emits_noteAll _).bind (yields_noteAll _)
  cases Postfix.eval policy tokens with
  | error error => exact (emits_note _).bind (yields_note _) (emits_pure _)
  | ok value => exact (emits_note _).bind (yields_note _) (emits_pure _)

/-- The events of a run: each stage adds its own, up to the first that fails. -/
theorem emits_stages (source : String) (policies : Policies) :
    Emits (stages source policies) (stageEvents source policies) := by
  apply (emits_scan source policies.overflow).bind (yields_scan source policies.overflow)
  -- the stages are taken one by one, and a failure leaves no events after it
  cases Calculator.scan source policies.overflow with
  | error error => exact emits_pure _
  | ok tokens =>
    apply (emits_resolve tokens).bind (yields_resolve tokens)
    apply (emits_convert _).bind (yields_convert _)
    cases Postfix.ofInfix (Token.resolveMinus tokens) with
    | error error => exact emits_pure _
    | ok ordered =>
      have evaluated := yields_evalPostfix ordered policies.stack
      rw [← List.append_nil (onSuccess _ _)]
      apply (emits_evalPostfix ordered policies.stack).bind evaluated
      cases Postfix.eval policies.stack ordered with
      | error error => exact emits_pure _
      | ok value => exact emits_pure _

/-- An evaluation ends with the event of its result, also where a stage has failed. -/
theorem emits_evaluate (source : String) (policies : Policies) :
    Emits (evaluate source policies)
      (stageEvents source policies ++ [resultEvent source policies]) := by
  have logged : Emits (steps source policies)
      (stageEvents source policies ++ [resultEvent source policies]) := by
    apply Emits.within
    apply (emits_stages source policies).bind (yields_stages source policies)
    unfold resultEvent
    cases Calculator.steps source policies with
    | error error => exact (emits_note _).bind (yields_note _) (emits_pure _)
    | ok run => exact (emits_note _).bind (yields_note _) (emits_pure _)
  have whole := logged.bind (yields_steps source policies) (emits_pure _)
  rwa [List.append_nil] at whole

/-! ### Each stage has its own messages -/

/-- All events belong to one target. -/
def Concerns (target : Target) (events : List Event) : Prop :=
  ∀ event ∈ events, event.target = target

theorem concerns_nil (target : Target) : Concerns target [] := fun _ member => by cases member

theorem concerns_single {target : Target} {event : Event} (here : event.target = target) :
    Concerns target [event] := List.forall_mem_singleton.mpr here

theorem Concerns.cons {target : Target} {event : Event} {events : List Event}
    (first : event.target = target) (later : Concerns target events) :
    Concerns target (event :: events) :=
  List.forall_mem_cons.mpr ⟨first, later⟩

theorem Concerns.append {target : Target} {first second : List Event}
    (before : Concerns target first) (after : Concerns target second) :
    Concerns target (first ++ second) :=
  List.forall_mem_append.mpr ⟨before, after⟩

/-- What happens only after a success concerns the target that it concerns then. -/
theorem concerns_onSuccess {ε : Type} {target : Target} {events : α → List Event}
    (same : ∀ value, Concerns target (events value)) (result : Except ε α) :
    Concerns target (onSuccess result events) := by
  cases result with
  | error error => exact concerns_nil target
  | ok value => exact same value

theorem concerns_reading (reading : Reading) :
    Concerns (.phase .scanner) reading.events := by
  cases reading with
  | finished | found => exact concerns_single rfl
  | saturated => exact (concerns_single rfl).cons rfl
  | failed error =>
    cases error with
    | unknownCharacter => exact concerns_single rfl
    | literalOverflow => exact concerns_nil _

theorem concerns_scanEvents (source : String) (overflow : OverflowPolicy) :
    Concerns (.phase .scanner) (scanEvents source overflow) := by
  apply Concerns.append
  · intro event member
    obtain ⟨reading, -, found⟩ := List.mem_flatMap.mp member
    exact concerns_reading reading event found
  · apply concerns_onSuccess
    exact fun tokens => concerns_single rfl

theorem concerns_minusSigns (previous : Option Token) (index : Nat) (tokens : List Token) :
    Concerns (.phase .resolver) (Token.resolveEvents previous index tokens) := by
  induction tokens generalizing previous index with
  | nil => exact concerns_nil _
  | cons token later ih =>
    rw [Token.resolveEvents]
    split
    · exact ih _ _
    · exact (ih _ _).cons rfl

theorem concerns_resolveEvents (tokens : List Token) :
    Concerns (.phase .resolver) (resolveEvents tokens) :=
  (concerns_minusSigns none 0 tokens).append (concerns_single rfl)

theorem concerns_stepEvents (pending : List Postfix.Pending) (token : Token) :
    Concerns (.phase .parser) (Postfix.stepEvents pending token) := by
  cases token with
  | leftParen | number => exact concerns_nil _
  | rightParen =>
    rw [Postfix.stepEvents]
    split
    · exact concerns_single rfl
    · exact concerns_nil _
  | operator incoming =>
    intro event member
    obtain ⟨item, -, shown⟩ := List.mem_filterMap.mp member
    cases item with
    | group => cases shown
    | operator top =>
      cases shown
      rfl

theorem concerns_conversion (pending : List Postfix.Pending) (tokens : List Token) :
    Concerns (.phase .parser) (Postfix.convertEvents pending tokens) := by
  induction tokens generalizing pending with
  | nil =>
    rw [Postfix.convertEvents]
    split
    · exact concerns_single rfl
    · exact concerns_nil _
  | cons token later ih =>
    refine (concerns_stepEvents pending token).append ?_
    split
    · exact concerns_nil _
    · exact ih _

theorem concerns_convertEvents (tokens : List Token) :
    Concerns (.phase .parser) (convertEvents tokens) := by
  apply (concerns_conversion [] tokens).append
  apply concerns_onSuccess
  exact fun ordered => concerns_single rfl

theorem concerns_runEvents (policy : StackPolicy) (stack : OperandStack) (tokens : List Token) :
    Concerns (.phase .eval) (Postfix.runEvents policy stack tokens) := by
  induction tokens generalizing stack with
  | nil =>
    cases policy with
    | strict => exact concerns_nil _
    | lenient =>
      rw [Postfix.runEvents]
      split
      · exact concerns_single rfl
      · exact concerns_nil _
  | cons token later ih =>
    cases token with
    | leftParen | rightParen => exact concerns_nil _
    | number value => exact ih _
    | operator op =>
      rw [Postfix.runEvents]
      split
      · exact concerns_nil _
      · exact (ih _).cons rfl

theorem concerns_evalEvents (tokens : List Token) (policy : StackPolicy) :
    Concerns (.phase .eval) (evalEvents tokens policy) := by
  refine (concerns_runEvents policy .empty tokens).append ?_
  split
  · exact concerns_single rfl
  · exact concerns_single rfl

/-- The events of one target. -/
def about (target : Target) (events : List Event) : List Event :=
  events.filter fun event => event.target = target

theorem about_append (target : Target) (first second : List Event) :
    about target (first ++ second) = about target first ++ about target second :=
  List.filter_append first second

/-- Of the events of one target all are about it and none about another. -/
theorem Concerns.about_eq {own : Target} {events : List Event} (concerns : Concerns own events)
    (target : Target) : about target events = if own = target then events else [] := by
  split
  next same =>
    rw [about, List.filter_eq_self]
    exact fun event member => decide_eq_true ((concerns event member).trans same)
  next differs =>
    rw [about, List.filter_eq_nil_iff]
    intro event member same
    exact differs ((concerns event member).symm.trans (of_decide_eq_true same))

theorem about_onSuccess {ε : Type} (target : Target) (result : Except ε α)
    (events : α → List Event) :
    about target (onSuccess result events) =
      onSuccess result fun value => about target (events value) := by
  cases result <;> rfl

theorem onSuccess_nil {ε : Type} (result : Except ε α) : onSuccess result (fun _ => []) = [] := by
  cases result <;> rfl

/-- What an evaluation tells about each target. -/
def targetEvents (source : String) (policies : Policies) : Target → List Event
  | .phase .scanner => scanEvents source policies.overflow
  | .phase .resolver => onSuccess (Calculator.scan source policies.overflow) resolveEvents
  | .phase .parser =>
    onSuccess (Calculator.scan source policies.overflow) fun tokens =>
      convertEvents (Token.resolveMinus tokens)
  | .phase .eval =>
    onSuccess (Calculator.scan source policies.overflow) fun tokens =>
      onSuccess (Postfix.ofInfix (Token.resolveMinus tokens)) fun ordered =>
        evalEvents ordered policies.stack
  | .pipeline => [resultEvent source policies]
  | .command => []

theorem concerns_resultEvent (source : String) (policies : Policies) :
    Concerns .pipeline [resultEvent source policies] := by
  apply concerns_single
  unfold resultEvent
  split
  · rfl
  · rfl

/-- The stages do not mix: among the events about a target are those of its stage only. -/
theorem about_evaluation (source : String) (policies : Policies) (target : Target) :
    about target (stageEvents source policies ++ [resultEvent source policies]) =
      targetEvents source policies target := by
  have scanning := (concerns_scanEvents source policies.overflow).about_eq target
  have resolving := fun tokens => (concerns_resolveEvents tokens).about_eq target
  have converting := fun tokens => (concerns_convertEvents tokens).about_eq target
  have evaluating := fun tokens => (concerns_evalEvents tokens policies.stack).about_eq target
  have result := (concerns_resultEvent source policies).about_eq target
  simp only [stageEvents, about_append, about_onSuccess, scanning, resolving, converting, evaluating,
    result]
  cases target with
  | phase stage => cases stage <;> simp [targetEvents, onSuccess_nil]
  | pipeline | command => simp [targetEvents, onSuccess_nil]

/-- The events with one of these messages. -/
def named (messages : List String) (events : List Event) : List Event :=
  events.filter fun event => event.message ∈ messages

theorem named_append (messages : List String) (first second : List Event) :
    named messages (first ++ second) = named messages first ++ named messages second :=
  List.filter_append first second

/-- Messages of one target are found among the events of this target. -/
theorem named_about {messages : List String} {target : Target}
    (belong : ∀ event : Event, event.message ∈ messages → event.target = target)
    (events : List Event) : named messages (about target events) = named messages events := by
  rw [named, about, List.filter_filter]
  apply List.filter_congr
  intro event _
  by_cases used : event.message ∈ messages
  · simp [used, belong event used]
  · simp [used]

/-- What the scanner tells of the tokens that it finds. -/
def scanMessages : List String := ["Produced token", "Reached EOF"]

/-- No stage but the scanner uses one of its messages. -/
theorem target_of_scanMessages (event : Event) (used : event.message ∈ scanMessages) :
    event.target = .phase .scanner := by
  cases event with
  | sourceEnded | unknownCharacter | literalSaturated | tokenProduced | scanCompleted => rfl
  | _ => simp [Event.message, scanMessages] at used

theorem target_of_minusMessage (event : Event) (used : event.message ∈ ["Minus is unary"]) :
    event.target = .phase .resolver := by
  cases event with
  | minusIsUnary | minusResolved => rfl
  | _ => simp [Event.message] at used

theorem target_of_applyMessage (event : Event) (used : event.message ∈ ["Applied operator"]) :
    event.target = .phase .eval := by
  cases event with
  | operatorApplied | operandsIgnored | postfixEvaluated | postfixFailed => rfl
  | _ => simp [Event.message] at used

end Logged
end Calculator
