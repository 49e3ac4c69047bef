import Calculator.CommandLine.Invocation

/-!
# Reading a call of the command

Every call with options that fit and an expression is read, and the arguments that are read hold the
expression and say what the options say. The reader goes through the options one after another:
after each of them the arguments are those of the options so far, and only these count as given.

## Main statements

* `ofText_switch`, `ofText_parameter`, `ofText_joined`, `ofText_letters`, `ofText_operand`: the form
  of each argument.
* `Holds.read_texts`: reading one option more.
* `Holds.read_all`: reading any options.
* `ofTexts_of_invokes`: reading a call.
-/
namespace Calculator

/-! ### Forms of arguments -/

namespace Word

/-- A switch written with its name is read as that name, since no name holds an equals sign. -/
theorem ofText_switch (given : Switch) : ofText ("--" ++ given.name) = .long given.name none := by
  cases given <;> rfl

theorem ofText_parameter (parameter : Parameter) :
    ofText ("--" ++ parameter.name) = .long parameter.name none := by
  cases parameter with
  | filter phase => cases phase <;> rfl
  | configuration | format | logFile => rfl

/-- The value of a parameter begins after the first equals sign, so that it may hold others. -/
theorem ofText_joined (parameter : Parameter) (value : String) :
    ofText ("--" ++ parameter.name ++ "=" ++ value) = .long parameter.name (some value) := by
  cases parameter with
  | filter phase => cases phase <;> simp [ofText, ofLong, Parameter.name, Phase.name]
  | configuration | format | logFile => simp [ofText, ofLong, Parameter.name]

/-- Any number of letters after one dash is read as letters, and never as a long name. -/
theorem ofText_letters (more : Nat) :
    ofText (String.ofList ('-' :: 'v' :: List.replicate more 'v')) =
      .short ('v' :: List.replicate more 'v') := by
  simp [ofText]

theorem ofText_operand {text : String} (plain : ¬ LooksLikeOption text) :
    ofText text = .operand text := by
  have dash : ∀ second later, text.toList ≠ '-' :: second :: later := by
    intro second later found
    refine plain ⟨by rw [found]; rfl, ?_⟩
    rintro rfl
    cases found
  unfold ofText
  split
  next found => exact absurd found (dash '-' [])
  next later _ found => exact absurd found (dash '-' later)
  next letter later _ _ found => exact absurd found (dash letter later)
  · rfl

end Word

theorem Switch.find?_name (given : Switch) : all.find? (·.name = given.name) = some given := by
  cases given <;> rfl

theorem Parameter.find?_name (parameter : Parameter) :
    all.find? (·.name = parameter.name) = some parameter := by
  cases parameter with
  | filter phase => cases phase <;> rfl
  | configuration | format | logFile => rfl

/-- No parameter has the name of a switch. -/
theorem Switch.find?_parameter (parameter : Parameter) :
    all.find? (·.name = parameter.name) = none := by
  cases parameter with
  | filter phase => cases phase <;> rfl
  | configuration | format | logFile => rfl

/-! ### What arguments say -/

/-- The arguments say what the options say. -/
structure Given (choices : List Choice) (arguments : Arguments) : Prop where
  order : arguments.order =
    if .switch .postfixOrder ∈ choices then .postfixOrder else .infixOrder
  showSteps : arguments.showSteps = true ↔ .switch .showSteps ∈ choices
  json : arguments.json = true ↔ .switch .json ∈ choices
  strict : arguments.overrides.strict = true ↔ .switch .strict ∈ choices
  saturate : arguments.overrides.saturate = true ↔ .switch .saturate ∈ choices
  configuration : ∀ path, arguments.configuration = some path ↔
    ∃ joined, .setting .configuration path joined ∈ choices
  logFile : ∀ path, arguments.logFile = some path ↔
    ∃ joined, .setting .logFile path joined ∈ choices

namespace Given

variable {choices : List Choice}

theorem nil : Given [] {} := by
  constructor <;> simp

theorem of_switch {reader after : ArgumentReader} {given : Switch}
    (before : Given choices reader.arguments) (gives : reader.switch given = .ok after) :
    Given (choices ++ [.switch given]) after.arguments := by
  obtain ⟨order, showSteps, json, strict, saturate, configuration, logFile⟩ := before
  cases given with
  | help | version => cases gives
  | verbose =>
    cases gives
    constructor <;> simp [order, showSteps, json, strict, saturate, configuration, logFile]
  | postfixOrder | strict | saturate | showSteps | json =>
    simp only [ArgumentReader.switch, ArgumentReader.once] at gives
    split at gives
    · cases gives
    · cases gives
      constructor <;> simp [order, showSteps, json, strict, saturate, configuration, logFile]

/-- Letters set only the verbosity, which is not among what the arguments are asked for. -/
theorem of_letters {arguments : Arguments} (before : Given choices arguments) (more count : Nat) :
    Given (choices ++ [.letters more])
      { arguments with overrides := { arguments.overrides with verbosity := count } } := by
  obtain ⟨order, showSteps, json, strict, saturate, configuration, logFile⟩ := before
  constructor <;> simp [order, showSteps, json, strict, saturate, configuration, logFile]

/-- A path that is set for the first time is the only one. -/
theorem of_assign {arguments after : Arguments} {parameter : Parameter} {value : String}
    (before : Given choices arguments)
    (fresh : ∀ value joined, .setting parameter value joined ∉ choices)
    (assigns : ArgumentReader.assign? arguments value parameter = some after) (joined : Bool) :
    Given (choices ++ [.setting parameter value joined]) after := by
  obtain ⟨order, showSteps, json, strict, saturate, configuration, logFile⟩ := before
  -- what may be given once is fresh, so that the last one given is the only one
  cases parameter with
  | configuration =>
    rw [ArgumentReader.assign?] at assigns
    split at assigns
    · cases assigns
    · cases assigns
      constructor <;> simp [order, showSteps, json, strict, saturate, logFile, fresh, eq_comm]
  | filter phase =>
    obtain ⟨filter, -, rfl⟩ := Option.map_eq_some_iff.mp assigns
    cases phase <;> constructor <;>
      simp [Overrides.withFilter, order, showSteps, json, strict, saturate, configuration, logFile]
  | format =>
    obtain ⟨format, -, rfl⟩ := Option.map_eq_some_iff.mp assigns
    constructor <;> simp [order, showSteps, json, strict, saturate, configuration, logFile]
  | logFile =>
    cases assigns
    constructor <;> simp [order, showSteps, json, strict, saturate, configuration, fresh, eq_comm]

end Given

/-! ### Reading options -/

/-- Options that may be given together may be given without some of them. -/
theorem Choice.Compatible.sublist {choices others : List Choice}
    (compatible : Choice.Compatible choices) (fewer : others.Sublist choices) :
    Choice.Compatible others where
  fits := fun choice member => compatible.fits choice (fewer.subset member)
  once := (fewer.filterMap _).nodup compatible.once

/-- What may not be given again after one more option is that option or was excluded before. -/
theorem Choice.mem_single_snoc {choices : List Choice} {choice : Choice}
    {single : Switch ⊕ Parameter} : single ∈ (choices ++ [choice]).filterMap single? ↔
      choice.single? = some single ∨ single ∈ choices.filterMap single? := by
  have last : single ∈ [choice].filterMap single? ↔ choice.single? = some single := by
    simp [List.mem_filterMap]
  rw [List.filterMap_append, List.mem_append, last, or_comm]

namespace ArgumentReader

/-- What the reader holds after some options and perhaps the expression. -/
structure Holds (choices : List Choice) (expression : Option String) (reader : ArgumentReader) :
    Prop where
  given : Given choices reader.arguments
  expression_eq : reader.arguments.expression = expression
  switches : ∀ switch ∈ reader.switches, .inl switch ∈ choices.filterMap Choice.single?
  parameters : ∀ parameter ∈ reader.parameters, .inr parameter ∈ choices.filterMap Choice.single?
  awaiting : reader.awaiting = none
  separated : reader.separated = false

theorem holds_nil : Holds [] none {} where
  given := .nil
  expression_eq := rfl
  switches := nofun
  parameters := nofun
  awaiting := rfl
  separated := rfl

theorem read_singleton (reader : ArgumentReader) (text : String) :
    reader.read [text] = reader.step text := by
  rw [read, List.foldlM_cons]
  cases reader.step text <;> rfl

theorem read_cons {reader after : ArgumentReader} {text : String}
    (first : reader.step text = .ok after) (later : List String) :
    reader.read (text :: later) = after.read later := by
  rw [read, List.foldlM_cons, first]
  rfl

theorem long_switch (reader : ArgumentReader) (given : Switch) :
    reader.long given.name none = reader.switch given := by
  simp [long, Switch.find?_name]

theorem long_parameter (reader : ArgumentReader) (parameter : Parameter) :
    reader.long parameter.name none = .ok { reader with awaiting := some parameter } := by
  simp [long, Switch.find?_parameter, Parameter.find?_name]

theorem long_joined (reader : ArgumentReader) (parameter : Parameter) (text : String) :
    reader.long parameter.name (some text) = reader.value parameter text := by
  simp [long, Switch.find?_parameter, Parameter.find?_name]

/-- Each letter raises the verbosity by one. -/
theorem foldlM_letter (reader : ArgumentReader) (count : Nat) :
    (List.replicate count 'v').foldlM letter reader =
      .ok { reader with arguments := { reader.arguments with overrides :=
        { reader.arguments.overrides with
          verbosity := reader.arguments.overrides.verbosity + count } } } := by
  induction count generalizing reader with
  | zero => rfl
  | succ count ih =>
    rw [List.replicate_succ, List.foldlM_cons]
    refine (ih _).trans ?_
    simp [Nat.add_assoc, Nat.add_comm 1]

theorem exists_assign {parameter : Parameter} {value : String} (takes : parameter.Takes value)
    (arguments : Arguments) : ∃ after, assign? arguments value parameter = some after := by
  cases parameter with
  | configuration => exact ⟨_, if_neg takes⟩
  | filter phase =>
    simp only [Parameter.Takes, List.mem_cons, List.not_mem_nil, or_false] at takes
    rcases takes with rfl | rfl | rfl | rfl | rfl | rfl <;> exact ⟨_, rfl⟩
  | format =>
    simp only [Parameter.Takes, List.mem_cons, List.not_mem_nil, or_false] at takes
    rcases takes with rfl | rfl | rfl <;> exact ⟨_, rfl⟩
  | logFile => exact ⟨_, rfl⟩

theorem expression_assign {arguments after : Arguments} {parameter : Parameter} {value : String}
    (assigns : assign? arguments value parameter = some after) :
    after.expression = arguments.expression := by
  cases parameter with
  | configuration =>
    rw [assign?] at assigns
    split at assigns
    · cases assigns
    · cases assigns
      rfl
  | filter phase | format =>
    obtain ⟨_, -, rfl⟩ := Option.map_eq_some_iff.mp assigns
    rfl
  | logFile =>
    cases assigns
    rfl

namespace Holds

variable {choices : List Choice} {expression : Option String} {reader after : ArgumentReader}

/-- An option with a long name is read as such, since no value is awaited and no separator was read.
-/
theorem step_long (holds : Holds choices expression reader) {text name : String}
    {value : Option String} (form : Word.ofText text = .long name value) :
    reader.step text = reader.long name value := by
  simp [step, holds.separated, holds.awaiting, form]

theorem step_letters (holds : Holds choices expression reader) {text : String}
    {letters : List Char} (form : Word.ofText text = .short letters) :
    reader.step text = letters.foldlM letter reader := by
  simp [step, holds.separated, holds.awaiting, form]

theorem step_operand (holds : Holds choices expression reader) {text : String}
    (plain : ¬ LooksLikeOption text) : reader.step text = reader.operand text := by
  simp [step, holds.separated, holds.awaiting, Word.ofText_operand plain]

/-- One option more, which counts as given if it may be given only once. -/
theorem snoc (holds : Holds choices expression reader) (choice : Choice)
    (given : Given (choices ++ [choice]) after.arguments)
    (kept : after.arguments.expression = reader.arguments.expression)
    (switches : ∀ switch ∈ after.switches,
      choice.single? = some (.inl switch) ∨ switch ∈ reader.switches)
    (parameters : ∀ parameter ∈ after.parameters,
      choice.single? = some (.inr parameter) ∨ parameter ∈ reader.parameters)
    (awaiting : after.awaiting = none) (separated : after.separated = reader.separated) :
    Holds (choices ++ [choice]) expression after where
  given := given
  expression_eq := kept.trans holds.expression_eq
  switches := fun switch member =>
    Choice.mem_single_snoc.mpr ((switches switch member).imp_right (holds.switches switch))
  parameters := fun parameter member =>
    Choice.mem_single_snoc.mpr ((parameters parameter member).imp_right (holds.parameters parameter))
  awaiting := awaiting
  separated := separated.trans holds.separated

/-- A switch that fits, and was not given before if it may be given only once, is accepted. -/
theorem switch (holds : Holds choices expression reader) {given : Switch}
    (fits : (Choice.switch given).Fits)
    (fresh : (Choice.switch given).single? = some (.inl given) → given ∉ reader.switches) :
    ∃ after, reader.switch given = .ok after ∧
      Holds (choices ++ [.switch given]) expression after := by
  cases given with
  | help => exact absurd rfl fits.1
  | version => exact absurd rfl fits.2
  | verbose =>
    exact ⟨_, rfl, holds.snoc _ (holds.given.of_switch rfl) rfl (fun _ => .inr) (fun _ => .inr)
      holds.awaiting rfl⟩
  | postfixOrder | strict | saturate | showSteps | json =>
    refine ⟨_, if_neg (fresh rfl), holds.snoc _ (holds.given.of_switch (if_neg (fresh rfl))) rfl
      ?_ (fun _ => .inr) holds.awaiting rfl⟩
    intro switch member
    exact (List.mem_cons.mp member).imp_left (by rintro rfl; rfl)

theorem letters (holds : Holds choices expression reader) (more : Nat) :
    ∃ after, ('v' :: List.replicate more 'v').foldlM letter reader = .ok after ∧
      Holds (choices ++ [.letters more]) expression after := by
  refine ⟨_, foldlM_letter reader (more + 1), ?_⟩
  exact holds.snoc _ (holds.given.of_letters more _) rfl (fun _ => .inr) (fun _ => .inr)
    holds.awaiting rfl

theorem value (holds : Holds choices expression reader) {parameter : Parameter} {text : String}
    (takes : parameter.Takes text) (fresh : .inr parameter ∉ choices.filterMap Choice.single?)
    (joined : Bool) :
    ∃ after, reader.value parameter text = .ok after ∧
      Holds (choices ++ [.setting parameter text joined]) expression after := by
  have unread : parameter ∉ reader.parameters := fun read => fresh (holds.parameters _ read)
  have unset : ∀ value joined, .setting parameter value joined ∉ choices := by
    intro value joined member
    exact fresh (List.mem_filterMap.mpr ⟨_, member, rfl⟩)
  obtain ⟨arguments, assigns⟩ := exists_assign takes reader.arguments
  refine ⟨_, by rw [ArgumentReader.value, if_neg unread, assigns], ?_⟩
  refine holds.snoc _ (holds.given.of_assign unset assigns joined) (expression_assign assigns)
    (fun _ => .inr) ?_ rfl rfl
  intro other member
  exact (List.mem_cons.mp member).imp_left (by rintro rfl; rfl)

/-- Reading one option more. -/
theorem read_texts (holds : Holds choices expression reader) {choice : Choice}
    (fits : choice.Fits)
    (fresh : ∀ single, choice.single? = some single → single ∉ choices.filterMap Choice.single?) :
    ∃ after, reader.read choice.texts = .ok after ∧
      Holds (choices ++ [choice]) expression after := by
  cases choice with
  | switch given =>
    have unread : (Choice.switch given).single? = some (.inl given) → given ∉ reader.switches :=
      fun single read => fresh _ single (holds.switches given read)
    rw [Choice.texts, read_singleton, holds.step_long (Word.ofText_switch given), long_switch]
    exact holds.switch fits unread
  | letters more =>
    rw [Choice.texts, read_singleton, holds.step_letters (Word.ofText_letters more)]
    exact holds.letters more
  | setting parameter text joined =>
    obtain ⟨takes, form⟩ := fits
    obtain ⟨after, sets, held⟩ := holds.value takes (fresh _ rfl) joined
    refine ⟨after, Eq.trans ?_ sets, held⟩
    -- the value is part of the same text, or the next text is awaited for it
    cases joined with
    | true =>
      rw [Choice.texts, read_singleton, holds.step_long (Word.ofText_joined parameter text),
        long_joined]
    | false =>
      have awaits := (holds.step_long (Word.ofText_parameter parameter)).trans
        (long_parameter reader parameter)
      have plain := form.resolve_left Bool.false_ne_true
      rw [Choice.texts, read_cons awaits, read_singleton]
      simp [step, holds.separated, Word.ofText_operand plain, ArgumentReader.value]

/-- Reading any options, one after another. -/
theorem read_all (holds : Holds choices expression reader) {more : List Choice}
    (compatible : Choice.Compatible (choices ++ more)) :
    ∃ after, reader.read (more.flatMap Choice.texts) = .ok after ∧
      Holds (choices ++ more) expression after := by
  induction more generalizing choices reader with
  | nil => exact ⟨reader, rfl, by rwa [List.append_nil]⟩
  | cons choice more ih =>
    have fits := compatible.fits choice (by simp)
    have fresh : ∀ single, choice.single? = some single →
        single ∉ choices.filterMap Choice.single? := by
      -- were it given before, it would stand twice among all options
      intro single found read
      have once := compatible.once
      rw [List.filterMap_append, List.filterMap_cons, found] at once
      exact (List.nodup_append.mp once).2.2 single read single List.mem_cons_self rfl
    obtain ⟨between, first, held⟩ := holds.read_texts fits fresh
    rw [List.append_cons] at compatible ⊢
    obtain ⟨after, others, all⟩ := ih held compatible
    refine ⟨after, ?_, all⟩
    rw [List.flatMap_cons, read_append, first]
    exact others

end Holds

/-! ### Reading a call -/

namespace Holds

variable {choices : List Choice} {reader : ArgumentReader} {source : String}

/-- The first text that does not look like an option is taken as the expression. -/
theorem read_source (holds : Holds choices none reader) (plain : ¬ LooksLikeOption source) :
    ∃ after, reader.step source = .ok after ∧ Holds choices (some source) after := by
  rw [holds.step_operand plain, operand, holds.expression_eq]
  exact ⟨_, rfl, { holds.given with }, rfl, holds.switches, holds.parameters, holds.awaiting,
    holds.separated⟩

/-- Behind a separator any text is taken as the expression, also one that looks like an option. -/
theorem read_behind_separator (holds : Holds choices none reader) (source : String) :
    ∃ after, reader.read ["--", source] = .ok after ∧ after.awaiting = none ∧
      after.arguments.expression = some source ∧ Given choices after.arguments := by
  have separates : reader.step "--" = .ok { reader with separated := true } := by
    have form : Word.ofText "--" = .separator := rfl
    simp [step, holds.separated, holds.awaiting, form]
  have free : ({ reader with separated := true } : ArgumentReader).arguments.expression = none :=
    holds.expression_eq
  exact ⟨_, (read_cons separates _).trans (read_separated rfl free source), holds.awaiting, rfl,
    { holds.given with }⟩

end Holds

end ArgumentReader

open ArgumentReader in
/-- Every call is read, and the arguments hold its expression and say what its options say. -/
theorem ofTexts_of_invokes {source : String} {choices : List Choice} {texts : List String}
    (compatible : Choice.Compatible choices) (invokes : Invokes source choices texts) :
    ∃ arguments, Arguments.ofTexts texts = .ok arguments ∧
      arguments.expression = some source ∧ Given choices arguments := by
  have finishes : ∀ {after : ArgumentReader}, ({} : ArgumentReader).read texts = .ok after →
      after.awaiting = none → Arguments.ofTexts texts = .ok after.arguments := by
    intro after reads complete
    rw [Arguments.ofTexts, reads, Except.bind, finish, complete]
  cases invokes with
  | @among before after plain =>
    obtain ⟨first, readsFirst, heldFirst⟩ :=
      holds_nil.read_all (compatible.sublist (List.sublist_append_left _ _))
    -- the expression stands between two runs of options, and is the first text that is none
    obtain ⟨second, steps, heldSecond⟩ := heldFirst.read_source plain
    obtain ⟨last, readsLast, held⟩ := heldSecond.read_all compatible
    refine ⟨_, finishes ?_ held.awaiting, held.expression_eq, held.given⟩
    rw [read_append, readsFirst]
    exact (read_cons steps _).trans readsLast
  | separated =>
    obtain ⟨first, readsFirst, heldFirst⟩ := holds_nil.read_all compatible
    obtain ⟨last, readsLast, complete, expression, given⟩ := heldFirst.read_behind_separator source
    refine ⟨_, finishes ?_ complete, expression, given⟩
    rw [read_append, readsFirst]
    exact readsLast

end Calculator
