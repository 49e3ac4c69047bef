import Calculator.Proofs.Display
import Calculator.Session
import Mathlib.Logic.ExistsUnique

/-!
# What a session shows

A session shows some lines for each line of its input: the prompt with the echo, the sequences of
the evaluation if they are asked for, and the value or the error. No text that is shown within one
of them holds a line feed, whatever the bytes of the input are: the echo makes line ends visible,
and the scanner complains of no character of a line end. So the lines of the output tell the lines
of the input apart, and none of them depends on another line of the input.

## Main statements

* `inputLines_iff`: every input falls into lines in one way.
* `toList_entries`: the entries of the input lines are some lines for each, ended by line feeds.
* `feed_not_mem_shown`: none of them holds a line feed itself.
* `transcript_lines`: the lines of a whole session.
-/
namespace Calculator

/-! ### Texts on one line -/

theorem Decimal.feed_not_mem_numeral (n : Int) : '\n' ∉ numeral n := by
  cases n with
  | ofNat n => exact SourceContext.feed_not_mem_digits n
  | negSucc n =>
    rw [numeral, List.mem_cons, not_or]
    exact ⟨by decide, SourceContext.feed_not_mem_digits (n + 1)⟩

theorem Decimal.feed_not_mem_ofInt (n : Int) : '\n' ∉ (ofInt n).toList := by
  rw [ofInt, String.toList_ofList]
  exact feed_not_mem_numeral n

namespace Token

theorem feed_not_mem_displayChars (token : Token) : '\n' ∉ token.displayChars := by
  cases token with
  | number value => simp [displayChars, Decimal.feed_not_mem_numeral]
  | leftParen | rightParen => decide
  | operator op =>
    cases op with
    | negate => decide
    | binary op => cases op <;> decide

theorem feed_not_mem_displayAll (tokens : List Token) : '\n' ∉ (displayAll tokens).toList := by
  have inside : '\n' ∉ List.intercalate [',', ' '] (tokens.map displayChars) := by
    refine Lines.not_mem_intercalate (by decide) fun part member => ?_
    obtain ⟨token, -, rfl⟩ := List.mem_map.mp member
    exact feed_not_mem_displayChars token
  simp [displayAll, inside]

end Token

theorem Steps.feed_not_mem_lines (run : Steps) : ∀ line ∈ run.lines, '\n' ∉ line.toList := by
  intro line member
  simp only [lines, List.mem_cons, List.not_mem_nil, or_false] at member
  rcases member with rfl | rfl | rfl <;>
    · rw [String.toList_append, List.mem_append, not_or]
      exact ⟨by decide, Token.feed_not_mem_displayAll _⟩

namespace Session

/-- The lines of an input: each is ended by a line feed, but the last one may go on to the end of
the input if it is not empty. -/
inductive InputLines : List UInt8 → List (List UInt8) → Prop where
  | finished : InputLines [] []
  | unended {line : List UInt8} : line ≠ [] → 0x0A ∉ line → InputLines line [line]
  | ended {line later : List UInt8} {lines : List (List UInt8)} :
    0x0A ∉ line → InputLines later lines → InputLines (line ++ 0x0A :: later) (line :: lines)

/-- The value or the error of one line by itself. -/
def valueOf (options : SessionOptions) (line : String) : Except Error Value :=
  match options.order with
  | .infixOrder => Calculator.evaluate line options.policies
  | .postfixOrder => evaluatePostfix line options.policies

def verdict : Except Error Value → String
  | .ok value => "val = " ++ Decimal.ofInt value.toInt
  | .error error => "Error: " ++ error.message

/-- The sequences of one line by itself, where they are asked for and the line has a value. -/
def sequences (options : SessionOptions) (line : String) : List String :=
  match options.order, options.showSteps, steps line options.policies with
  | .infixOrder, true, .ok run => run.lines
  | _, _, _ => []

/-- The output lines for one input line. -/
def shown (options : SessionOptions) (line : String) : List String :=
  (options.order.prompt ++ "input=" ++ Echo.quote (Echo.visible line)) ::
    (sequences options line ++ [verdict (valueOf options line)])

/-! ### Input lines -/

/-- The lines of an input are determined by it: they are what is read. -/
theorem rawLines_of_inputLines {input : List UInt8} {lines : List (List UInt8)}
    (inputLines : InputLines input lines) : rawLines input = lines := by
  induction inputLines with
  | finished => rfl
  | @unended line present noFeed =>
    have visible : ¬ [line].getLast? = some [] := fun empty => present (Option.some.inj empty)
    rw [rawLines, Lines.pieces_of_not_mem noFeed]
    exact if_neg visible
  | ended noFeed _ ih =>
    rw [rawLines_append_feed, Lines.pieces_of_not_mem noFeed, ih]
    rfl

theorem exists_inputLines (input : List UInt8) : ∃ lines, InputLines input lines := by
  by_cases feed : 0x0A ∈ input
  · obtain ⟨line, later, rfl, noFeed⟩ := List.eq_append_cons_of_mem feed
    obtain ⟨lines, rest⟩ := exists_inputLines later
    exact ⟨line :: lines, .ended noFeed rest⟩
  · by_cases empty : input = []
    · exact ⟨[], empty ▸ .finished⟩
    · exact ⟨[input], .unended empty feed⟩
termination_by input.length
decreasing_by
  subst_vars
  simp only [List.length_append, List.length_cons]
  omega

theorem inputLines_iff {input : List UInt8} {lines : List (List UInt8)} :
    InputLines input lines ↔ rawLines input = lines := by
  constructor
  · exact rawLines_of_inputLines
  · rintro rfl
    obtain ⟨lines, inputLines⟩ := exists_inputLines input
    rwa [rawLines_of_inputLines inputLines]

/-! ### The lines of an entry -/

/-- Lines as they are shown, each ended by a line feed. -/
def ended (lines : List String) : List Char := (lines.map String.toList).flatMap (· ++ ['\n'])

@[simp] theorem ended_nil : ended [] = [] := rfl

@[simp] theorem ended_cons (line : String) (later : List String) :
    ended (line :: later) = line.toList ++ '\n' :: ended later := by
  simp [ended]

@[simp] theorem ended_append (first second : List String) :
    ended (first ++ second) = ended first ++ ended second := by
  simp [ended]

@[simp] theorem toList_text (run : Steps) : run.text.toList = ended run.lines := by
  simp [Steps.text, ended, List.flatMap_map]

theorem toList_answer (options : SessionOptions) (line : String) :
    (answer (evaluate options line)).toList =
      ended (sequences options line ++ [verdict (valueOf options line)]) := by
  obtain ⟨order, showSteps, policies⟩ := options
  cases order with
  | infixOrder =>
    simp only [evaluate, sequences, valueOf, Calculator.evaluate]
    cases steps line policies with
    | error error => cases showSteps <;> simp [answer, verdict, Error.headline, Except.map]
    | ok run => cases showSteps <;> simp [answer, verdict, Except.map]
  | postfixOrder =>
    simp only [evaluate, sequences, valueOf]
    cases evaluatePostfix line policies <;> simp [answer, verdict, Error.headline, Except.map]

theorem toList_entry (options : SessionOptions) (line : String) :
    (entry options line (evaluate options line)).toList = ended (shown options line) := by
  rw [shown, ended_cons, ← toList_answer]
  simp [entry, reply]

/-- The entries of the input lines, one after another: what one line shows is not changed by the
others. -/
theorem toList_entries (options : SessionOptions) (input : List UInt8) :
    (entries options input).toList = ended ((lines input).flatMap (shown options)) := by
  rw [entries, String.toList_join, List.flatMap_map]
  induction lines input with
  | nil => rfl
  | cons line later ih => rw [List.flatMap_cons, List.flatMap_cons, toList_entry, ih, ended_append]

/-- A transcript is what is shown for each line in turn, and a last prompt that no line answers. -/
theorem toList_transcript (options : SessionOptions) (input : List UInt8) :
    (transcript options input).toList =
      ended ((lines input).flatMap (shown options) ++ [options.order.prompt]) := by
  rw [transcript, String.toList_append, toList_entries, ended_append]
  simp [ending, farewell]

/-! ### No line feed within a shown line -/

theorem feed_not_mem_sequences (options : SessionOptions) (line : String) :
    ∀ part ∈ sequences options line, '\n' ∉ part.toList := by
  unfold sequences
  split
  next run _ _ _ => exact run.feed_not_mem_lines
  · exact fun _ member => by cases member

/-- A verdict is one line: none of the messages holds a line feed, and an unknown character is never
one. -/
theorem feed_not_mem_verdict (options : SessionOptions) (line : String) :
    '\n' ∉ (verdict (valueOf options line)).toList := by
  cases found : valueOf options line with
  | ok value =>
    rw [verdict, String.toList_append, List.mem_append, not_or]
    exact ⟨by decide, Decimal.feed_not_mem_ofInt _⟩
  | error error =>
    have arises : Arises line options.policies error := by
      unfold valueOf at found
      split at found
      · exact arises_of_evaluate found
      · exact arises_of_evaluatePostfix found
    exact feed_not_mem_headline arises

theorem feed_not_mem_prompt (order : Order) : '\n' ∉ order.prompt.toList := by
  cases order <;> decide

/-- The echo of a line is a single line, since a line feed within it is made visible. -/
theorem feed_not_mem_echo (options : SessionOptions) (line : String) :
    '\n' ∉ (options.order.prompt ++ "input=" ++ Echo.quote (Echo.visible line)).toList := by
  have visible : '\n' ∉ Echo.visibleChars ['.'] line.toList := by
    have dot : ∀ char ∈ ['.'], isBlank char = false := by simp [isBlank]
    intro member
    exact absurd (Echo.not_blank_of_mem_visibleChars dot _ member) (by decide)
  simp [Echo.quote, Echo.visible, visible, feed_not_mem_prompt]

theorem feed_not_mem_shown (options : SessionOptions) (line : String) :
    ∀ part ∈ shown options line, '\n' ∉ part.toList := by
  intro part member
  rcases List.mem_cons.mp member with rfl | member
  · exact feed_not_mem_echo options line
  rcases List.mem_append.mp member with among | last
  · exact feed_not_mem_sequences options line part among
  · rw [List.mem_singleton.mp last]
    exact feed_not_mem_verdict options line

/-! ### Counting the lines -/

/-- The line begins with a prompt. -/
def startsWithPrompt (options : SessionOptions) (line : String) : Bool :=
  options.order.prompt.toList.isPrefixOf line.toList

theorem countP_sequences (options : SessionOptions) (line : String) :
    (sequences options line).countP (startsWithPrompt options) = 0 := by
  rw [List.countP_eq_zero]
  intro part member
  unfold sequences at member
  split at member
  next run infixOrder _ _ =>
    simp only [Steps.lines, List.mem_cons, List.not_mem_nil, or_false] at member
    rcases member with rfl | rfl | rfl <;> simp [startsWithPrompt, infixOrder, Order.prompt]
  · cases member

/-- No verdict begins like a prompt. -/
theorem not_startsWithPrompt_verdict (options : SessionOptions) (result : Except Error Value) :
    ¬ startsWithPrompt options (verdict result) = true := by
  cases result <;> cases found : options.order <;>
    simp [startsWithPrompt, verdict, found, Order.prompt]

theorem countP_shown (options : SessionOptions) (line : String) :
    (shown options line).countP (startsWithPrompt options) = 1 := by
  have echo : startsWithPrompt options
      (options.order.prompt ++ "input=" ++ Echo.quote (Echo.visible line)) = true := by
    simp [startsWithPrompt]
  rw [shown, List.countP_cons_of_pos echo, List.countP_append, countP_sequences,
    List.countP_singleton, if_neg (not_startsWithPrompt_verdict _ _)]

/-- Whether the sequences of a line are shown: they are asked for, the line is read as an infix
expression, and it has a value. -/
def ShowsSequences (options : SessionOptions) (line : String) : Prop :=
  options.showSteps = true ∧ options.order = .infixOrder ∧
    ∃ value, Calculator.evaluate line options.policies = .ok value

theorem length_sequences (options : SessionOptions) (line : String) :
    (ShowsSequences options line → (sequences options line).length = 3) ∧
      (¬ ShowsSequences options line → (sequences options line).length = 0) := by
  unfold ShowsSequences sequences Calculator.evaluate
  split
  next run infixOrder asked evaluates =>
    refine ⟨fun _ => rfl, fun hidden => ?_⟩
    exact absurd ⟨asked, infixOrder, run.value, by rw [evaluates]; rfl⟩ hidden
  next other =>
    refine ⟨fun shows => ?_, fun _ => rfl⟩
    obtain ⟨asked, infixOrder, value, evaluates⟩ := shows
    obtain ⟨run, found, -⟩ := map_eq_ok evaluates
    exact absurd found (other run infixOrder asked)

theorem length_shown (options : SessionOptions) (line : String) :
    (ShowsSequences options line → (shown options line).length = 5) ∧
      (¬ ShowsSequences options line → (shown options line).length = 2) := by
  obtain ⟨three, none⟩ := length_sequences options line
  simp only [shown, List.length_cons, List.length_append, List.length_nil]
  exact ⟨fun shows => by rw [three shows], fun hides => by rw [none hides]⟩

/-! ### Whole sessions -/

/-- After a line that is ended the session goes on as if it began there. -/
theorem transcript_append_of_ended (options : SessionOptions) {first : List UInt8}
    (complete : first = [] ∨ first.getLast? = some 0x0A) (second : List UInt8) :
    transcript options (first ++ second) = entries options first ++ transcript options second := by
  rcases complete with rfl | ends
  · exact String.empty_append.symm
  · obtain ⟨before, rfl⟩ := List.getLast?_eq_some_iff.mp ends
    rw [List.append_assoc, List.singleton_append, transcript_append]

/-- The output cut at its line feeds is what is shown, one part for each line. -/
theorem pieces_transcript (options : SessionOptions) (input : List UInt8) :
    Lines.pieces '\n' (transcript options input).toList =
      ((lines input).flatMap (shown options) ++ [options.order.prompt]).map String.toList ++
        [[]] := by
  rw [toList_transcript]
  apply Lines.pieces_flatMap
  intro text member
  obtain ⟨part, among, rfl⟩ := List.mem_map.mp member
  rcases List.mem_append.mp among with inside | last
  · obtain ⟨line, -, within⟩ := List.mem_flatMap.mp inside
    exact feed_not_mem_shown options line part within
  · rw [List.mem_singleton.mp last]
    exact feed_not_mem_prompt options.order

theorem countP_flatMap_shown (options : SessionOptions) (texts : List String) :
    (texts.flatMap (shown options)).countP (startsWithPrompt options) = texts.length := by
  induction texts with
  | nil => rfl
  | cons line later ih =>
    rw [List.flatMap_cons, List.countP_append, countP_shown, ih, List.length_cons, Nat.add_comm]

/-- There is one prompt for each input line, and one more. -/
theorem countP_transcript (options : SessionOptions) (input : List UInt8) :
    (Lines.pieces '\n' (transcript options input).toList).countP
      (options.order.prompt.toList.isPrefixOf ·) = (lines input).length + 1 := by
  have last : startsWithPrompt options options.order.prompt = true := by simp [startsWithPrompt]
  have nothing : options.order.prompt.toList.isPrefixOf [] = false := by
    cases options.order <;> decide
  have shownLines : ∀ texts : List String, (texts.map String.toList).countP
      (options.order.prompt.toList.isPrefixOf ·) = texts.countP (startsWithPrompt options) :=
    fun texts => List.countP_map
  rw [pieces_transcript, List.countP_append, shownLines, List.countP_append, countP_flatMap_shown,
    List.countP_singleton, List.countP_singleton, if_pos last, nothing]
  rfl

/-- A session shows the lines of its input one after another and then prompts once more, whatever is
logged. If the input is cut after a line feed, the session on the first part ends with this prompt,
and without it goes on with the session on the second part. Each input line has two output lines,
its echo after the prompt and its value or error by itself, and three more in between where its
sequences are shown. So there is one prompt more than there are input lines, whatever bytes they
hold. -/
theorem transcript_lines (options : SessionOptions) :
    (∀ input, Logged.Yields (run options input) (transcript options input)) ∧
    (∀ first second : List UInt8, first = [] ∨ first.getLast? = some 0x0A →
      ∃ before, transcript options first = before ++ (options.order.prompt ++ "\n") ∧
        transcript options (first ++ second) = before ++ transcript options second) ∧
    (∀ input, ∃! lines, InputLines input lines) ∧
    ∀ input lines, InputLines input lines →
      Lines.pieces '\n' (transcript options input).toList =
        (lines.flatMap (fun line => shown options (lineText line)) ++ [options.order.prompt]).map
          String.toList ++ [[]] ∧
      (Lines.pieces '\n' (transcript options input).toList).countP
        (options.order.prompt.toList.isPrefixOf ·) = lines.length + 1 ∧
      ∀ line ∈ lines,
        (ShowsSequences options (lineText line) → (shown options (lineText line)).length = 5) ∧
        (¬ ShowsSequences options (lineText line) → (shown options (lineText line)).length = 2) := by
  refine ⟨yields_run options, ?_, fun input => ⟨rawLines input, ?_, ?_⟩, ?_⟩
  · intro first second complete
    exact ⟨entries options first, rfl, transcript_append_of_ended options complete second⟩
  · exact inputLines_iff.mpr rfl
  · exact fun _ others => (rawLines_of_inputLines others).symm
  · intro input lines inputLines
    have texts : Session.lines input = lines.map lineText := by
      rw [Session.lines, rawLines_of_inputLines inputLines]
    refine ⟨?_, ?_, fun line _ => length_shown options (lineText line)⟩
    · rw [pieces_transcript, texts, List.flatMap_map]
    · rw [countP_transcript, texts, List.length_map]

theorem transcript_lines_replaced :
    InputLines [0x31, 0xFF, 0x0D, 0x0A, 0x0A, 0x32] [[0x31, 0xFF, 0x0D], [], [0x32]] ∧
      (Lines.pieces '\n' (transcript {} [0x31, 0xFF, 0x0D, 0x0A, 0x0A, 0x32]).toList).countP
        ("infix> ".toList.isPrefixOf ·) = 4 := by
  have last : InputLines [0x32] [[0x32]] := .unended (by decide) (by decide)
  have blank : InputLines ([] ++ 0x0A :: [0x32]) [[], [0x32]] := .ended (by decide) last
  have whole : InputLines ([0x31, 0xFF, 0x0D] ++ 0x0A :: ([] ++ 0x0A :: [0x32]))
      [[0x31, 0xFF, 0x0D], [], [0x32]] := .ended (by decide) blank
  exact ⟨whole, ((transcript_lines {}).2.2.2 _ _ whole).2.1⟩

end Session
end Calculator
