import Calculator.Proofs.Invocation
import Calculator.Proofs.Transcript
import Calculator.Text.Utf8.Lemmas
import Mathlib.Tactic.SplitIfs

/-!
# What the command answers

However the command is called for an expression, its answer reports the result of the expression
under the policies of the configuration file with those of the switches laid over them. The way from
the arguments to the answer asks for the order, the policies and the form of the output only, so the
options about the log lines on the console do not change it.

## Main statements

* `feed_not_mem_object`: an object is one line.
* `settings_of_underlies`: the policies under which the command evaluates.
* `answer_of_invokes`: the answer of a call.
* `showsValue`, `showsError`: the answer reports the value or the error.
* `run_reports`: all of this for a run of the command, with and without log options.
-/
namespace Calculator

/-! ### One line of JSON -/

namespace Json

theorem feed_not_mem_unicodeEscape : ∀ code < 0x20, '\n' ∉ unicodeEscape code := by decide

theorem feed_not_mem_escapeChar (char : Char) : '\n' ∉ escapeChar char := by
  unfold escapeChar
  split_ifs with _ _ feed _ _ _ _ control
  -- the escapes of two characters
  iterate 7 · decide
  · exact feed_not_mem_unicodeEscape _ control
  · rw [List.mem_singleton]
    exact Ne.symm feed

/-- A JSON string stands on one line: a line feed within it is escaped. -/
theorem feed_not_mem_string (text : String) : '\n' ∉ (string text).toList := by
  have inside : '\n' ∉ text.toList.flatMap escapeChar := by
    rw [List.mem_flatMap]
    rintro ⟨char, -, feed⟩
    exact feed_not_mem_escapeChar char feed
  simp [string, inside]

theorem feed_not_mem_object {members : List (String × String)}
    (values : ∀ entry ∈ members, '\n' ∉ entry.2.toList) : '\n' ∉ (object members).toList := by
  have inside : '\n' ∉ (",".intercalate
      (members.map fun entry => string entry.1 ++ ":" ++ entry.2)).toList := by
    rw [String.toList_intercalate]
    refine Lines.not_mem_intercalate (by decide) fun part member => ?_
    rw [List.map_map] at member
    obtain ⟨entry, among, rfl⟩ := List.mem_map.mp member
    simp [feed_not_mem_string, values entry among]
  simp only [object, String.toList_append, List.mem_append, not_or]
  exact ⟨⟨by decide, inside⟩, by decide⟩

end Json

theorem Report.feed_not_mem_json (report : Report) : '\n' ∉ report.json.toList := by
  apply Json.feed_not_mem_object
  intro entry member
  rcases List.mem_append.mp member with text | place
  · simp only [List.mem_cons, List.not_mem_nil, or_false] at text
    rcases text with rfl | rfl | rfl <;> exact Json.feed_not_mem_string _
  · split at place
    · simp only [List.mem_cons, List.not_mem_nil, or_false] at place
      rcases place with rfl | rfl <;> exact Decimal.feed_not_mem_ofNat _
    · cases place

theorem Report.json_ofError (error : Error) :
    (Report.ofError error).json = Json.object error.members := by
  cases error with
  | scan | parse | eval => rfl

/-! ### Policies -/

/-- The bytes of a text are decoded to it again, so that a file is read as the text that was
written. -/
theorem FileSettings.load_encode {text : String} {file : FileSettings}
    (reads : read? text = some file) (path : String) :
    load path (.ok (Utf8.encode text.toList)) = .ok file := by
  have decoded : Utf8.decode? (Utf8.encode text.toList) = some text.toList :=
    Utf8.decode?_eq_some_iff.mpr rfl
  simp only [load, decoded, String.ofList_toList, reads]

namespace FileSettings.Sets

variable {file : FileSettings} {policies : Policies}

theorem exists_level (sets : file.Sets policies) (below : Level) :
    ∃ level, file.applyLevel below = .ok level := by
  unfold applyLevel
  split
  · exact ⟨below, rfl⟩
  next name named =>
    obtain ⟨level, known⟩ := sets.level name named
    exact ⟨level, by rw [known]⟩

theorem applyOverflow_eq (sets : file.Sets policies) :
    file.applyOverflow .reject = .ok policies.overflow := by
  unfold applyOverflow
  split
  next none => rw [sets.noOverflow none]
  next name named => rw [sets.overflow name named]

theorem applyStack_eq (sets : file.Sets policies) : file.applyStack .lenient = policies.stack := by
  rw [sets.stack, applyStack]
  cases file.strict with
  | none => rfl
  | some strict => cases strict <;> rfl

/-- A file with valid values is accepted, and the settings have its policies. -/
theorem exists_apply (sets : file.Sets policies) :
    ∃ settings, file.apply .base = .ok settings ∧ settings.policies = policies := by
  obtain ⟨level, levels⟩ := sets.exists_level Settings.base.log.global
  refine ⟨{ log := { Settings.base.log with global := level }, policies }, ?_, rfl⟩
  have overflows : file.applyOverflow Settings.base.policies.overflow = .ok policies.overflow :=
    sets.applyOverflow_eq
  have strictness : file.applyStack Settings.base.policies.stack = policies.stack := sets.applyStack_eq
  rw [FileSettings.apply, levels, overflows, strictness]
  rfl

end FileSettings.Sets

namespace Given

variable {choices : List Choice} {arguments : Arguments} {directory : Directory} {below : Policies}

/-- The switches are laid over the policies below them: each replaces its own policy, and the others
stay. -/
theorem policies_apply (given : Given choices arguments) {settings : Settings}
    (same : settings.policies = below) :
    (arguments.overrides.apply settings).policies = Choice.policies choices below := by
  simp [Overrides.apply, Choice.policies, given.saturate, given.strict, same]

/-- The policies under which the command evaluates. -/
theorem settings_of_underlies (given : Given choices arguments)
    (underlies : Underlies directory choices below) :
    ∃ settings, arguments.settings directory.read = .ok settings ∧
      settings.policies = Choice.policies choices below := by
  unfold Arguments.settings
  cases underlies with
  | withoutFile absent =>
    have none : arguments.configuration = none := by
      rw [Option.eq_none_iff_forall_ne_some]
      intro path found
      obtain ⟨joined, member⟩ := (given.configuration path).mp found
      exact absent path joined member
    rw [none]
    exact ⟨_, rfl, given.policies_apply rfl⟩
  | @file path joined file _ chosen loads sets =>
    -- the file is the one that was chosen, as the options name one file only
    have found := (given.configuration path).mpr ⟨joined, chosen⟩
    obtain ⟨settings, applies, same⟩ := sets.exists_apply
    refine ⟨arguments.overrides.apply settings, ?_, given.policies_apply same⟩
    have layered : Settings.layered (some file) arguments.overrides =
        .ok (arguments.overrides.apply settings) := by
      rw [Settings.layered, applies]
      rfl
    simp only [found, loads]
    exact layered

end Given

/-! ### The answer of a call -/

namespace CommandLine

/-- A run whose arguments and settings are accepted answers with the evaluation of the expression
under them. -/
theorem answer_run {texts : List String} {arguments : Arguments} {source : String}
    {directory : Directory} {settings : Settings} (reads : Arguments.ofTexts texts = .ok arguments)
    (expression : arguments.expression = some source) (noLogFile : arguments.logFile = none)
    (settles : arguments.settings directory.read = .ok settings) (input : List UInt8) :
    (run texts directory input).answer = arguments.answer source
      (Session.evaluate (arguments.expressionOptions settings.policies) source) := by
  have performs := arguments.yields_perform settings.policies input settings.log []
  rw [Arguments.reply, expression] at performs
  simp only [run, reads, settles, runWith, noLogFile]
  exact performs

/-- The command answers a call with the result of the expression under its policies. -/
theorem answer_of_invokes {source : String} {choices : List Choice} {texts : List String}
    {directory : Directory} {below : Policies} (compatible : Choice.Compatible choices)
    (noLogFile : ∀ path joined, .setting .logFile path joined ∉ choices)
    (invokes : Invokes source choices texts) (underlies : Underlies directory choices below) :
    ∃ arguments, Given choices arguments ∧ ∀ input, (run texts directory input).answer =
      arguments.answer source (Session.evaluate
        (arguments.expressionOptions (Choice.policies choices below)) source) := by
  obtain ⟨arguments, reads, expression, given⟩ := ofTexts_of_invokes compatible invokes
  obtain ⟨settings, settles, policies⟩ := given.settings_of_underlies underlies
  have unlogged : arguments.logFile = none := by
    rw [Option.eq_none_iff_forall_ne_some]
    intro path found
    obtain ⟨joined, member⟩ := (given.logFile path).mp found
    exact noLogFile path joined member
  refine ⟨arguments, given, fun input => ?_⟩
  rw [answer_run reads expression unlogged settles, policies]

end CommandLine

/-! ### Reports -/

theorem hasLines_append {first second : String} {lines later : List String}
    (above : HasLines first lines) (below : HasLines second later) :
    HasLines (first ++ second) (lines ++ later) where
  joined := by rw [above.joined, below.joined, List.map_append, String.join_append]
  single := fun line member => (List.mem_append.mp member).elim (above.single line) (below.single line)

theorem hasLines_singleton {line : String} (single : '\n' ∉ line.toList) :
    HasLines (line ++ "\n") [line] where
  joined := by simp [String.join]
  single := by simpa using single

theorem Steps.hasLines_text (run : Steps) : HasLines run.text run.lines :=
  ⟨rfl, run.feed_not_mem_lines⟩

theorem Value.hasLines_numeral (value : Value) :
    HasLines (Decimal.ofInt value.toInt ++ "\n") [Decimal.ofInt value.toInt] :=
  hasLines_singleton (Decimal.feed_not_mem_ofInt value.toInt)

/-- An object of texts, and of the value as the last member. -/
theorem Value.hasLines_object (value : Value) (others : List (String × String)) :
    let object := Json.object <| (others.map fun other => (other.1, Json.string other.2)) ++
      [("value", Decimal.ofInt value.toInt)]
    HasLines (object ++ "\n") [object] := by
  apply hasLines_singleton
  apply Json.feed_not_mem_object
  intro entry member
  rcases List.mem_append.mp member with text | last
  · obtain ⟨other, -, rfl⟩ := List.mem_map.mp text
    exact Json.feed_not_mem_string other.2
  · rw [List.mem_singleton.mp last]
    exact Decimal.feed_not_mem_ofInt value.toInt

namespace Given

variable {choices : List Choice} {arguments : Arguments} {source : String} {policies : Policies}

/-- In postfix order there are no sequences to show, so that only the value is answered. -/
theorem showsValue_postfix (given : Given choices arguments)
    (postfixOrder : .switch .postfixOrder ∈ choices) (value : Value) :
    ShowsValue choices source policies value (arguments.answer source (.ok (value, none))) where
  code := rfl
  alone := by
    intro plain _
    have text : arguments.valueText value none = Decimal.ofInt value.toInt ++ "\n" := by
      simp [Arguments.valueText, mt given.json.mp plain]
    rw [Arguments.answer, text]
    exact value.hasLines_numeral
  sequences := fun _ _ infixOrder => absurd postfixOrder infixOrder
  object := by
    intro json
    rw [Arguments.answer, Arguments.valueText, if_pos (given.json.mpr json)]
    exact ⟨[], nofun, value.hasLines_object []⟩

/-- In infix order the value is answered with the sequences of its run, where the options ask for
them. -/
theorem showsValue_infix (given : Given choices arguments)
    (infixOrder : .switch .postfixOrder ∉ choices) {run : Steps}
    (evaluates : steps source policies = .ok run) :
    ShowsValue choices source policies run.value (arguments.answer source
      (.ok (run.value, if arguments.showSteps || arguments.json then some run else none))) where
  code := rfl
  alone := by
    intro plain hidden
    have unasked := mt given.showSteps.mp (hidden.resolve_right infixOrder)
    have text : arguments.valueText run.value none = Decimal.ofInt run.value.toInt ++ "\n" := by
      simp [Arguments.valueText, mt given.json.mp plain]
    have silent : ¬ (arguments.showSteps || arguments.json) = true := by
      simp [unasked, mt given.json.mp plain]
    rw [if_neg silent, Arguments.answer, text]
    exact run.value.hasLines_numeral
  sequences := by
    intro plain asked _
    have text : arguments.valueText run.value (some run) =
        run.text ++ (Decimal.ofInt run.value.toInt ++ "\n") := by
      simp [Arguments.valueText, mt given.json.mp plain, String.append_assoc]
    have kept : (arguments.showSteps || arguments.json) = true := by
      simp [given.showSteps.mpr asked]
    rw [if_pos kept, Arguments.answer, text]
    exact ⟨run, evaluates, hasLines_append run.hasLines_text run.value.hasLines_numeral⟩
  object := by
    intro json
    have kept : (arguments.showSteps || arguments.json) = true := by
      simp [given.json.mpr json]
    have text : arguments.valueText run.value (some run) = run.json ++ "\n" := by
      simp [Arguments.valueText, given.json.mpr json]
    have lines := run.value.hasLines_object [("tokens", Token.displayAll run.tokens),
      ("resolved", Token.displayAll run.resolved), ("postfix", Token.displayAll run.ordered)]
    rw [if_pos kept, Arguments.answer, text]
    exact ⟨_, by simp, lines⟩

/-- The answer reports the value of the expression. -/
theorem showsValue (given : Given choices arguments) {value : Value}
    (hasValue : Choice.result choices source policies = .ok value) :
    ShowsValue choices source policies value (arguments.answer source
      (Session.evaluate (arguments.expressionOptions policies) source)) := by
  simp only [Session.evaluate, Arguments.expressionOptions, given.order]
  unfold Choice.result at hasValue
  split at hasValue
  next postfixOrder =>
    rw [if_pos postfixOrder, hasValue]
    exact given.showsValue_postfix postfixOrder value
  next infixOrder =>
    obtain ⟨run, evaluates, rfl⟩ := map_eq_ok hasValue
    rw [if_neg infixOrder, evaluates]
    exact given.showsValue_infix infixOrder evaluates

/-- The answer reports the error of the expression. -/
theorem showsError (given : Given choices arguments) {error : Error}
    (fails : Choice.result choices source policies = .error error) :
    ShowsError choices error (arguments.answer source
      (Session.evaluate (arguments.expressionOptions policies) source)) := by
  have evaluates : Session.evaluate (arguments.expressionOptions policies) source =
      .error error := by
    simp only [Session.evaluate, Arguments.expressionOptions, given.order]
    unfold Choice.result at fails
    split at fails
    next postfixOrder => simp [postfixOrder, fails]
    next infixOrder => simpa [infixOrder, evaluate] using fails
  rw [evaluates, Arguments.answer]
  by_cases json : Choice.switch .json ∈ choices
  · have lines := hasLines_singleton (Report.ofError error).feed_not_mem_json
    rw [if_pos (given.json.mpr json)]
    refine ⟨rfl, fun plain => absurd json plain, fun _ => ?_⟩
    rw [← Report.json_ofError]
    exact lines
  · rw [if_neg (mt given.json.mp json)]
    exact ⟨rfl, fun _ => rfl, fun asked => absurd asked json⟩

theorem reports (given : Given choices arguments) (source : String) (policies : Policies) :
    Reports choices source policies (arguments.answer source
      (Session.evaluate (arguments.expressionOptions policies) source)) := by
  cases results : Choice.result choices source policies with
  | ok value => exact .value results (given.showsValue results)
  | error error => exact .error results (given.showsError results)

/-- Arguments that say the same are answered alike, whatever they say about the log. -/
theorem answer_congr {others : Arguments} (given : Given choices arguments)
    (same : Given choices others) (source : String) (policies : Policies) :
    others.answer source (Session.evaluate (others.expressionOptions policies) source) =
      arguments.answer source (Session.evaluate (arguments.expressionOptions policies) source) := by
  have order : others.order = arguments.order := same.order.trans given.order.symm
  have showSteps : others.showSteps = arguments.showSteps :=
    Bool.eq_iff_iff.mpr (same.showSteps.trans given.showSteps.symm)
  have json : others.json = arguments.json :=
    Bool.eq_iff_iff.mpr (same.json.trans given.json.symm)
  simp only [Arguments.expressionOptions, Arguments.answer, Arguments.valueText, order, showSteps,
    json]

end Given

/-! ### Log options -/

namespace Choice

variable {choices : List Choice} {choice : Choice}

theorem mem_withoutLogging (other : choice.isLogging = false) :
    choice ∈ withoutLogging choices ↔ choice ∈ choices := by
  simp [withoutLogging, other]

/-- Without the log options the others may still be given together. -/
theorem Compatible.withoutLogging (compatible : Compatible choices) :
    Compatible (withoutLogging choices) :=
  compatible.sublist List.filter_sublist

theorem policies_withoutLogging (choices : List Choice) (below : Policies) :
    policies (withoutLogging choices) below = policies choices below := by
  simp (disch := decide) only [policies, mem_withoutLogging]

end Choice

/-- Arguments that say what the options say without the log options say what all of them say. -/
theorem Given.of_withoutLogging {choices : List Choice} {arguments : Arguments}
    (given : Given (Choice.withoutLogging choices) arguments) : Given choices arguments := by
  obtain ⟨order, showSteps, json, strict, saturate, configuration, logFile⟩ := given
  simp (disch := decide) only [Choice.mem_withoutLogging] at order showSteps json strict saturate
  exact ⟨order, showSteps, json, strict, saturate,
    fun path => (configuration path).trans (exists_congr fun _ => Choice.mem_withoutLogging rfl),
    fun path => (logFile path).trans (exists_congr fun _ => Choice.mem_withoutLogging rfl)⟩

/-- The configuration file is the same without the log options. -/
theorem Underlies.withoutLogging {directory : Directory} {choices : List Choice}
    {below : Policies} (underlies : Underlies directory choices below) :
    Underlies directory (Choice.withoutLogging choices) below := by
  cases underlies with
  | withoutFile absent =>
    exact .withoutFile fun path joined => mt (Choice.mem_withoutLogging rfl).mp (absent path joined)
  | file chosen loads sets => exact .file ((Choice.mem_withoutLogging rfl).mpr chosen) loads sets

/-! ### Runs of the command -/

/-- The command reports the result of the expression under the policies of the configuration file
and of the switches, in the order and in the form that the switches ask for. The options about the
log lines on the console make no difference, and neither does the input. -/
theorem CommandLine.run_reports {source : String} {choices : List Choice} {texts : List String}
    {directory : Directory} {below : Policies} (compatible : Choice.Compatible choices)
    (noLogFile : ∀ path joined, .setting .logFile path joined ∉ choices)
    (invokes : Invokes source choices texts) (underlies : Underlies directory choices below)
    (input : List UInt8) :
    Reports choices source (Choice.policies choices below) (run texts directory input).answer ∧
      ∀ others, Invokes source (Choice.withoutLogging choices) others → ∀ otherInput,
        (run others directory otherInput).answer = (run texts directory input).answer := by
  obtain ⟨arguments, given, answers⟩ := answer_of_invokes compatible noLogFile invokes underlies
  constructor
  · rw [answers]
    exact given.reports source _
  · intro others calls otherInput
    have noOtherFile : ∀ path joined,
        .setting .logFile path joined ∉ Choice.withoutLogging choices :=
      fun path joined => mt (Choice.mem_withoutLogging rfl).mp (noLogFile path joined)
    obtain ⟨fewer, same, answersSame⟩ :=
      answer_of_invokes compatible.withoutLogging noOtherFile calls underlies.withoutLogging
    rw [answers, answersSame, Choice.policies_withoutLogging]
    exact given.answer_congr same.of_withoutLogging source _

theorem CommandLine.run_reports_configured :
    Reports [.switch .showSteps, .setting .configuration "calc.json" true, .letters 1,
        .setting (.filter .eval) "off" false] "-7" ⟨.reject, .strict⟩
      (run ["--show-steps", "--config=calc.json", "-vv", "--log-eval", "off", "--", "-7"]
        ⟨[("calc.json", Utf8.encode "\x7b\"strict\":true\x7d".toList)]⟩ []).answer ∧
    (run ["--show-steps", "--config=calc.json", "--", "-7"]
        ⟨[("calc.json", Utf8.encode "\x7b\"strict\":true\x7d".toList)]⟩ []).answer =
      (run ["--show-steps", "--config=calc.json", "-vv", "--log-eval", "off", "--", "-7"]
        ⟨[("calc.json", Utf8.encode "\x7b\"strict\":true\x7d".toList)]⟩ []).answer := by
  have compatible : Choice.Compatible [.switch .showSteps,
      .setting .configuration "calc.json" true, .letters 1,
      .setting (.filter .eval) "off" false] :=
    ⟨by simp [Choice.Fits, Parameter.Takes, LooksLikeOption], by decide⟩
  have chosen : Choice.setting .configuration "calc.json" true ∈ [.switch .showSteps,
      .setting .configuration "calc.json" true, .letters 1,
      .setting (.filter .eval) "off" false] := by decide
  have lexemes : Json.lexemes? "\x7b\"strict\":true\x7d".toList =
      some [.openObject, .string (some "strict"), .colon, .bool true, .closeObject] := by
    change Json.lexemes? ['{', '"', 's', 't', 'r', 'i', 'c', 't', '"', ':', 't', 'r', 'u', 'e', '}']
      = _
    iterate 5 rw [Json.lexemes?_cons rfl rfl]
    rw [Json.lexemes?]
    rfl
  have reads : FileSettings.read? "\x7b\"strict\":true\x7d" = some { strict := some true } := by
    rw [FileSettings.read?, Json.read?, lexemes]
    rfl
  have loads : FileSettings.load "calc.json" (Directory.read
      ⟨[("calc.json", Utf8.encode "\x7b\"strict\":true\x7d".toList)]⟩ "calc.json") =
      .ok { strict := some true } := FileSettings.load_encode reads "calc.json"
  have sets : FileSettings.Sets { strict := some true } ⟨.reject, .strict⟩ :=
    ⟨by simp, by simp, fun _ => rfl, rfl⟩
  obtain ⟨reports, unchanged⟩ :=
    run_reports compatible (by simp) .separated (.file chosen loads sets) []
  exact ⟨reports, unchanged _ .separated []⟩

end Calculator
