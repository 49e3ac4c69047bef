import Calculator.Proofs.Acceptance
import Calculator.Proofs.Events

/-!
# What the log tells of an evaluation

Each message of the log belongs to one target, so what is logged with it is up to one stage of the
evaluation. The scanner tells the tokens that it finds, minus resolution tells the numbers of the
tokens that it changes, and the evaluation of a postfix sequence tells the operators that it applies.
All this is told in the middle of the steps that give the results, and it agrees with the results.

What a record tells is what it shows: its message, and the names and values of its fields.

## Main statements

* `showing_eq`: what records show with some messages, from their events.
* `told_readings`: which tokens are reported before the end of a text or its first offence, and where.
* `Token.resolveEvents_eq`: a minus sign is reported as unary exactly where the sequence changes.
* `applied_runEvents`: the operators that are reported as applied.
* `showing_evaluate`: the records with the messages of one target come from one stage.
* `evaluate_narrates`: what can be read off the log of an evaluation.
-/
namespace Calculator

open Token (AllBlank Layout Spells)
open Logged

/-! ### What records show -/

/-- What a record shows of its event: the message and the fields. -/
abbrev Shown := String × List Field

def Event.shown (event : Event) : Shown := (event.message, event.fields)

/-- What records show with one of these messages. -/
def showing (messages : List String) (records : List Record) : List Shown :=
  (records.map fun record => (record.event.message, record.event.fields)).filter fun shown =>
    shown.1 ∈ messages

/-- What records show is up to their events, so it may be found among the events first. -/
theorem showing_eq (messages : List String) (records : List Record) :
    showing messages records = (named messages (records.map Record.event)).map Event.shown := by
  rw [showing, named, List.filter_map, List.filter_map, List.map_map]
  rfl

/-! ### Tokens that are produced -/

/-- A text after `before` that lays out tokens, each at the position of its first character. -/
inductive Located (policy : OverflowPolicy) :
    (before text : List Char) → List (Token × Position) → Prop where
  | blanks {before text : List Char} : AllBlank text → Located policy before text []
  | token {before blanks text rest : List Char} {token : Token}
    {later : List (Token × Position)} :
    AllBlank blanks → Spells policy text token → Located policy (before ++ blanks ++ text) rest later →
      (token.isNumber = true → Token.startsWithNumber (later.map Prod.fst) = true →
        rest.head?.any isBlank = true) →
      Located policy before (blanks ++ text ++ rest) ((token, .after (before ++ blanks)) :: later)

/-- What is shown of a token that is found: its display, and the line and column of its first
character. -/
def produced (found : Token × Position) : Shown :=
  ("Produced token", [⟨"token", found.1.display, false⟩,
    ⟨"start", Decimal.ofNat found.2.line ++ ":" ++ Decimal.ofNat found.2.column, false⟩])

/-- What the scanner shows of a text after `before`: the tokens that the whole text lays out, and
then its end, or the tokens that it lays out up to the offence that is the error of the scan. -/
inductive Told (policy : OverflowPolicy) (before text : List Char) :
    Except ScanError (List Token) → List Shown → Prop where
  | complete {located : List (Token × Position)} :
    Located policy before text located →
      Told policy before text (.ok (located.map Prod.fst))
        (located.map produced ++ [("Reached EOF", [])])
  | stopped {scanned : List Char} {located : List (Token × Position)} {error : ScanError} :
    Located policy before scanned located →
      Offence policy (before ++ text) (before ++ scanned) error →
      Told policy before text (.error error) (located.map produced)

theorem Located.layout {policy : OverflowPolicy} {before text : List Char}
    {located : List (Token × Position)} (whole : Located policy before text located) :
    Layout policy text (located.map Prod.fst) := by
  induction whole with
  | blanks allBlank => exact .blanks allBlank
  | token allBlank spells _ apart ih => exact .token allBlank spells ih apart

theorem Located.blank {policy : OverflowPolicy} {before text : List Char} {char : Char}
    {located : List (Token × Position)} (blank : isBlank char = true)
    (rest : Located policy (before ++ [char]) text located) :
    Located policy before (char :: text) located := by
  cases rest with
  | blanks allBlank => exact .blanks (allBlank_cons blank allBlank)
  | @token _ blanks spelled rest token later allBlank spells located apart =>
    have same : before ++ [char] ++ blanks = before ++ (char :: blanks) := by simp
    rw [same] at located ⊢
    exact .token (allBlank_cons blank allBlank) spells located apart

theorem Located.spells {policy : OverflowPolicy} {before text rest : List Char} {token : Token}
    {later : List (Token × Position)} (spells : Spells policy text token)
    (located : Located policy (before ++ text) rest later)
    (ends : token.isNumber = true → startsWithDigit rest = false) :
    Located policy before (text ++ rest) ((token, .after before) :: later) := by
  have apart : token.isNumber = true → Token.startsWithNumber (later.map Prod.fst) = true →
      rest.head?.any isBlank = true :=
    fun number next => blank_of_startsWithNumber located.layout next (ends number)
  rw [← List.append_nil before] at located
  have whole := Located.token allBlank_nil spells located apart
  rwa [List.append_nil] at whole

theorem startsWithDigit_of_isPrefix {text rest : List Char} (isPrefix : text <+: rest)
    (ends : startsWithDigit rest = false) : startsWithDigit text = false := by
  obtain ⟨more, rfl⟩ := isPrefix
  cases text with
  | nil => rfl
  | cons char text => exact ends

theorem Told.of_offence {policy : OverflowPolicy} {before text : List Char} {error : ScanError}
    (offence : Offence policy (before ++ text) before error) :
    Told policy before text (.error error) [] := by
  have nothing : Located policy before [] [] := .blanks allBlank_nil
  refine .stopped nothing ?_
  rwa [List.append_nil]

/-- A blank moves what is told by one position. -/
theorem Told.blank {policy : OverflowPolicy} {before text : List Char} {char : Char}
    {result : Except ScanError (List Token)} {shown : List Shown} (blank : isBlank char = true)
    (told : Told policy (before ++ [char]) text result shown) :
    Told policy before (char :: text) result shown := by
  cases told with
  | complete located => exact .complete (located.blank blank)
  | stopped located offence =>
    rw [List.append_assoc, List.append_assoc] at offence
    exact .stopped (located.blank blank) offence

/-- What spells a token is told at the position where it begins, before all that comes later. -/
theorem Told.spells {policy : OverflowPolicy} {before text rest : List Char} {token : Token}
    {result : Except ScanError (List Token)} {shown : List Shown}
    (spells : Spells policy text token)
    (ends : token.isNumber = true → startsWithDigit rest = false)
    (told : Told policy (before ++ text) rest result shown) :
    Told policy before (text ++ rest) (result.map (token :: ·))
      (produced (token, .after before) :: shown) := by
  cases told with
  | complete located => exact .complete (located.spells spells ends)
  | @stopped scanned _ _ located offence =>
    rw [List.append_assoc, List.append_assoc] at offence
    -- the part before the offence ends a number where the whole text does
    have isPrefix : scanned <+: rest := by
      have within := offence.isPrefix
      rwa [← List.append_assoc, ← List.append_assoc, List.prefix_append_right_inj] at within
    have located := located.spells spells fun number =>
      startsWithDigit_of_isPrefix isPrefix (ends number)
    exact .stopped located offence

/-- What the scanner shows of the text that it has not read. -/
def Scanner.tells (scanner : Scanner) : List Shown :=
  (named scanMessages (scanner.readings.flatMap Reading.events)).map Event.shown

/-- The scanner tells of the token that a text spells, at its own position, and goes on behind the
text. -/
theorem Scanner.tells_spells {policy : OverflowPolicy} {text rest : List Char} {token : Token}
    (spells : Spells policy text token)
    (ends : token.isNumber = true → startsWithDigit rest = false) (position : Position) :
    tells ⟨⟨text ++ rest, position⟩, policy⟩ =
      produced (token, position) :: tells ⟨⟨rest, position.advanceAll text⟩, policy⟩ := by
  unfold tells
  cases spells with
  | leftParen | rightParen =>
    rw [List.singleton_append, readings_sign rfl]
    rfl
  | operator op =>
    rw [List.singleton_append, readings_sign (ofSign?_sign op)]
    rfl
  | number isLiteral denotes =>
    rw [readings_literal isLiteral (ends rfl) denotes]
    rfl
  | saturated isLiteral saturates large =>
    subst saturates
    rw [readings_tooLarge isLiteral (ends rfl) large]
    rfl

/-- What the scanner tells is what the text calls for up to the first offence, by induction on its
pieces. -/
theorem told_readings (policy : OverflowPolicy) (before rest : List Char)
    (whole : ¬ SplitsLiteral before rest) :
    Told policy before rest (Scanner.scanAll ⟨⟨rest, .after before⟩, policy⟩)
      (Scanner.tells ⟨⟨rest, .after before⟩, policy⟩) := by
  -- induction on the pieces of the unread part; each piece that is read moves to `before`
  induction rest using text_induction generalizing before with
  | nil =>
    rw [Scanner.scanAll_nil, Scanner.tells, Scanner.readings_nil]
    exact .complete (.blanks allBlank_nil)
  | blank char rest blank ih =>
    rw [Scanner.scanAll_blank blank, Scanner.tells, Scanner.readings_blank blank,
      ← Position.after_append_singleton]
    exact (ih (before ++ [char]) (not_splits_after_char (not_digit_of_blank blank))).blank blank
  | sign char rest token sign ih =>
    obtain ⟨spells, other⟩ := spells_of_sign policy sign
    have ends : token.isNumber = true → startsWithDigit rest = false := by simp [other]
    have later := ih (before ++ [char]) (not_splits_after_char (not_digit_of_sign sign))
    rw [← List.singleton_append, Scanner.scanAll_spells spells ends,
      Scanner.tells_spells spells ends, Position.advanceAll_after]
    exact later.spells spells ends
  | literal literal rest isLiteral ends ih =>
    rcases spells_or_tooLarge policy isLiteral with ⟨value, spells⟩ | ⟨rfl, large⟩
    · have later := ih (before ++ literal) (not_splits_before ends _)
      rw [Scanner.scanAll_spells spells fun _ => ends, Scanner.tells_spells spells fun _ => ends,
        Position.advanceAll_after]
      exact later.spells spells fun _ => ends
    · rw [Scanner.scanAll_tooLarge isLiteral ends large, Scanner.tells,
        Scanner.readings_tooLarge isLiteral ends large]
      exact .of_offence (offence_tooLarge isLiteral whole ends large)
  | unknown char rest illegal =>
    rw [Scanner.scanAll_unknown illegal, Scanner.tells, Scanner.readings_unknown illegal]
    exact .of_offence (.unknown rfl illegal)

/-! ### Minus signs that are unary -/

/-- The positions at which a sequence is no longer as given, in increasing order. -/
def Token.changes (given resolved : List Token) : List Nat :=
  (List.range given.length).filter fun index => resolved[index]? ≠ given[index]?

/-- A first token that is changed is at position zero, and the other positions move by one. -/
theorem Token.changes_cons (token other : Token) (given resolved : List Token) :
    changes (token :: given) (other :: resolved) =
      (if other = token then [] else [0]) ++ (changes given resolved).map (· + 1) := by
  rw [changes, List.length_cons, List.range_succ_eq_map, List.filter_cons, List.filter_map]
  by_cases same : other = token
  · simp [same, changes, Function.comp_def]
  · simp [same, changes, Function.comp_def]

/-- A token is reported with its number if it changes. -/
theorem Token.resolveEvents_eq (previous : Option Token) (start : Nat) (tokens : List Token) :
    resolveEvents previous start tokens =
      (changes tokens (resolveAfter previous tokens)).map fun index =>
        .minusIsUnary (start + index) := by
  induction tokens generalizing previous start with
  | nil => rfl
  | cons token later ih =>
    have shifted : ((changes later (resolveAfter (some (resolveOne previous token)) later)).map
        (· + 1)).map (fun index => Event.minusIsUnary (start + index)) =
          resolveEvents (some (resolveOne previous token)) (start + 1) later := by
      rw [ih, List.map_map]
      simp only [Function.comp_def, Nat.add_assoc, Nat.add_comm 1]
    rw [resolveEvents, resolveAfter, changes_cons, List.map_append, shifted]
    split
    · rfl
    · rfl

/-! ### Operators that are applied -/

/-- A run that succeeds applies the operators of its sequence, each once and in their order. -/
theorem applied_runEvents {policy : StackPolicy} {stack final : OperandStack} {tokens : List Token}
    (ran : Postfix.run stack tokens = .ok final) :
    ∃ applied : List (Operator × Value),
      named ["Applied operator"] (Postfix.runEvents policy stack tokens) =
          applied.map (fun step => .operatorApplied step.1 step.2) ∧
        applied.map (fun step => Token.operator step.1) = tokens.filter Token.isOperator := by
  -- the run has no failing step, so that each operator of the sequence reports a result
  induction tokens generalizing stack with
  | nil =>
    refine ⟨[], ?_, rfl⟩
    cases policy with
    | strict => rfl
    | lenient =>
      rw [Postfix.runEvents]
      split
      · rfl
      · rfl
  | cons token later ih =>
    obtain ⟨pushed, evaluates, rest⟩ := Postfix.run_cons_ok ran
    obtain ⟨applied, told, operators⟩ := ih rest
    cases token with
    | leftParen | rightParen => cases evaluates
    | number value =>
      cases evaluates
      exact ⟨applied, told, operators⟩
    | operator op =>
      obtain ⟨⟨value, below⟩, applies, rfl⟩ := map_eq_ok evaluates
      refine ⟨(op, value) :: applied, ?_, ?_⟩
      · rw [Postfix.runEvents, applies, List.map_cons, ← told]
        rfl
      · rw [List.map_cons, operators]
        rfl

/-! ### The log of an evaluation -/

namespace Logged

/-- What is shown of a minus sign that turns out to be unary: its number in the sequence. -/
def unary (index : Nat) : Shown := ("Minus is unary", [⟨"index", Decimal.ofNat index, false⟩])

/-- What is shown of an operator that is applied: its display, and the result. -/
def applied (step : Operator × Value) : Shown :=
  ("Applied operator", [⟨"op", (Token.operator step.1).display, false⟩,
    ⟨"value", Decimal.ofInt step.2.toInt, false⟩])

/-- What can be read off the records of an evaluation. -/
structure Narrates (source : String) (policies : Policies) (records : List Record) : Prop where
  -- the tokens up to the end of the source or to the error of the scan, each with its position
  scanning : Told policies.overflow [] source.toList (Calculator.scan source policies.overflow)
    (showing ["Produced token", "Reached EOF"] records)
  -- if the scan succeeds, the minus signs that are not binary any more
  resolving : ∀ tokens, Calculator.scan source policies.overflow = .ok tokens →
    showing ["Minus is unary"] records =
      (Token.changes tokens (Token.resolveMinus tokens)).map unary
  -- if the evaluation succeeds, the operators of the postfix sequence
  applying : ∀ run, Calculator.steps source policies = .ok run →
    ∃ results : List (Operator × Value),
      showing ["Applied operator"] records = results.map applied ∧
        results.map (fun step => Token.operator step.1) = run.ordered.filter Token.isOperator

variable (source : String) (policies : Policies)

/-- Of the scanner events those that are told are its readings, since the last one has another
message. -/
theorem named_scanEvents :
    (named scanMessages (scanEvents source policies.overflow)).map Event.shown =
      (Scanner.ofSource source policies.overflow).tells := by
  rw [scanEvents, named_append, List.map_append]
  cases Calculator.scan source policies.overflow with
  | error error => exact List.append_nil _
  | ok tokens => exact List.append_nil _

/-- The unary minus signs that are reported are the tokens that the resolution changes. -/
theorem named_resolveEvents (tokens : List Token) :
    (named ["Minus is unary"] (resolveEvents tokens)).map Event.shown =
      (Token.changes tokens (Token.resolveMinus tokens)).map unary := by
  have signs : Token.resolveEvents none 0 tokens =
      (Token.changes tokens (Token.resolveMinus tokens)).map .minusIsUnary := by
    rw [Token.resolveEvents_eq, Token.resolveMinus]
    simp only [Nat.zero_add]
  have told : named ["Minus is unary"] (Token.resolveEvents none 0 tokens) =
      Token.resolveEvents none 0 tokens := by
    rw [signs, named, List.filter_eq_self]
    intro event member
    obtain ⟨index, -, rfl⟩ := List.mem_map.mp member
    rfl
  have last : named ["Minus is unary"] [.minusResolved (Token.resolveMinus tokens)] = [] := rfl
  rw [resolveEvents, named_append, told, last, List.append_nil, signs, List.map_map]
  rfl

/-- An evaluation that succeeds reports one result for each operator of the sequence. -/
theorem named_evalEvents {tokens : List Token} {policy : StackPolicy} {value : Value}
    (evaluates : Postfix.eval policy tokens = .ok value) :
    ∃ results : List (Operator × Value),
      (named ["Applied operator"] (evalEvents tokens policy)).map Event.shown =
          results.map applied ∧
        results.map (fun step => Token.operator step.1) = tokens.filter Token.isOperator := by
  have last : named ["Applied operator"] [.postfixEvaluated value] = [] := rfl
  rw [evalEvents, named_append, evaluates]
  dsimp only
  rw [last, List.append_nil]
  rw [Postfix.eval] at evaluates
  split at evaluates
  · cases evaluates
  next final ran =>
    obtain ⟨results, told, operators⟩ := applied_runEvents ran
    refine ⟨results, ?_, operators⟩
    rw [told, List.map_map]
    rfl

/-- The messages of one target are shown by the events of its stage, as no other stage has them. -/
theorem showing_evaluate {messages : List String} {target : Target} {settings : LogSettings}
    (traces : settings.Traces)
    (own : ∀ event : Event, event.message ∈ messages → event.target = target) :
    showing messages ((evaluate source policies).run settings).records =
      (named messages (targetEvents source policies target)).map Event.shown := by
  have events := emits_evaluate source policies settings traces []
  rw [showing_eq, Logged.run, events, ← named_about own, about_evaluation]

/-- With nothing held back, the records of an evaluation show what its stages did: which tokens were
scanned and where they stand, up to the end of the source or to the error of the scan; which minus
signs are unary, if the scan succeeds; and which operators were applied, if the evaluation does. -/
theorem evaluate_narrates {settings : LogSettings} (traces : settings.Traces) :
    Narrates source policies ((evaluate source policies).run settings).records := by
  refine ⟨?_, fun tokens scanned => ?_, fun run succeeds => ?_⟩
  · have whole : ¬ SplitsLiteral [] source.toList := by simp [SplitsLiteral]
    rw [← scanMessages, showing_evaluate source policies traces target_of_scanMessages,
      targetEvents, named_scanEvents]
    exact told_readings policies.overflow [] source.toList whole
  · rw [showing_evaluate source policies traces target_of_minusMessage, targetEvents, scanned]
    exact named_resolveEvents tokens
  · obtain ⟨scanned, resolved, converted, evaluated⟩ := steps_eq_ok succeeds
    rw [resolved] at converted
    rw [showing_evaluate source policies traces target_of_applyMessage, targetEvents, scanned]
    simp only [onSuccess, converted]
    exact named_evalEvents evaluated

theorem evaluate_narrates_everything :
    LogSettings.everything.Traces ∧
      Narrates "2 * -\n(3 - -1)" {}
        ((evaluate "2 * -\n(3 - -1)" {}).run .everything).records :=
  ⟨LogSettings.traces_everything,
    evaluate_narrates "2 * -\n(3 - -1)" {} LogSettings.traces_everything⟩

-- An evaluation that fails has applied operators before.
example : showing ["Minus is unary", "Applied operator"]
    ((evaluate "-7 / (1 - 1)" {}).run .everything).records =
      [unary 0, applied (.negate, -7), applied (.binary .minus, 0)] := by
  decide +kernel

end Logged
end Calculator
