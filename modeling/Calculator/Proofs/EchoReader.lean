import Calculator.Proofs.Encoding

/-!
# Reading the echo of a line

The echo of a line writes each blank with visible characters: a space as a dot, the others with a
backslash and a letter. A line may hold such characters itself, so different lines may be echoed
alike. No expression holds any of them, though, and the echo of a line without dots and backslashes
can be read back: each dot stands for a space there, and each backslash begins the name of a blank.

So lines that are scanned are told apart by their echoes, and a session whose lines all have values
tells the lines that it was given.

## Main statements

* `ofVisible_visible`: a line without dots and backslashes is read back from its echo.
* `plain_of_scan`: a line that is scanned has none.
* `filter_shown`: the echo is the only one of the lines shown that begins with a prompt.
* `echo_determines`: what the echo of a line and the transcript of a session tell.
-/
namespace Calculator

namespace Echo

/-- A text without the characters that are written for blanks. -/
def Plain (text : String) : Prop := '.' ∉ text.toList ∧ '\\' ∉ text.toList

instance (text : String) : Decidable (Plain text) := inferInstanceAs (Decidable (_ ∧ _))

/-- The characters of a text without dots and backslashes, read from its visible form. -/
def ofVisibleChars : List Char → List Char
  | '\\' :: 'n' :: later => '\n' :: ofVisibleChars later
  | '\\' :: 't' :: later => '\t' :: ofVisibleChars later
  | '\\' :: 'r' :: later => '\r' :: ofVisibleChars later
  | '.' :: later => ' ' :: ofVisibleChars later
  | char :: later => char :: ofVisibleChars later
  | [] => []

def ofVisible (echo : String) : String := String.ofList (ofVisibleChars echo.toList)

theorem ofVisibleChars_cons {char : Char} (noDot : char ≠ '.') (noBackslash : char ≠ '\\')
    (later : List Char) : ofVisibleChars (char :: later) = char :: ofVisibleChars later := by
  apply ofVisibleChars.eq_5
  · rintro _ rfl _
    exact noBackslash rfl
  · rintro _ rfl _
    exact noBackslash rfl
  · rintro _ rfl _
    exact noBackslash rfl
  · exact noDot

/-- One character is read back from its visible form: a backslash is that of a blank, and a dot is a
space. -/
theorem ofVisibleChars_visibleChar {char : Char} (noDot : char ≠ '.') (noBackslash : char ≠ '\\')
    (later : List Char) :
    ofVisibleChars (visibleChar ['.'] char ++ later) = char :: ofVisibleChars later := by
  unfold visibleChar
  split
  next feed => rw [feed]; rfl
  split
  next tab => rw [tab]; rfl
  split
  next carriageReturn => rw [carriageReturn]; rfl
  split
  next space => rw [space]; rfl
  · exact ofVisibleChars_cons noDot noBackslash later

theorem ofVisibleChars_visibleChars {text : List Char} (noDot : '.' ∉ text)
    (noBackslash : '\\' ∉ text) : ofVisibleChars (visibleChars ['.'] text) = text := by
  induction text with
  | nil => rfl
  | cons char later ih =>
    rw [List.mem_cons, not_or] at noDot noBackslash
    rw [visibleChars, List.flatMap_cons,
      ofVisibleChars_visibleChar (Ne.symm noDot.1) (Ne.symm noBackslash.1)]
    exact congrArg (char :: ·) (ih noDot.2 noBackslash.2)

theorem ofVisible_visible {text : String} (plain : Plain text) : ofVisible (visible text) = text := by
  have dot : ".".toList = ['.'] := rfl
  rw [ofVisible, visible, String.toList_ofList, dot, ofVisibleChars_visibleChars plain.1 plain.2,
    String.ofList_toList]

theorem visible_inj {first second : String} (plain : Plain first) (plainSecond : Plain second) :
    visible first = visible second ↔ first = second := by
  constructor
  · intro same
    rw [← ofVisible_visible plain, same, ofVisible_visible plainSecond]
  · rintro rfl
    rfl

-- With dots or backslashes of their own, different lines may be echoed alike.
example : visible "1.5" = visible "1 5" ∧ visible "\\t" = visible "\t" := by decide

/-- A text that scans is plain, since dots and backslashes are illegal. -/
theorem plain_of_scan {source : String} {policy : OverflowPolicy} {tokens : List Token}
    (scanned : scan source policy = .ok tokens) : Plain source := by
  have legal := legal_of_scan scanned
  have noDot : ¬ Legal '.' := by unfold Legal; decide
  have noBackslash : ¬ Legal '\\' := by unfold Legal; decide
  exact ⟨fun member => noDot (legal _ member), fun member => noBackslash (legal _ member)⟩

end Echo

namespace Session

/-! ### Lines with values -/

/-- A line with a value has been scanned, and so is plain. -/
theorem plain_of_valueOf {options : SessionOptions} {line : String} {value : Value}
    (evaluates : valueOf options line = .ok value) : Echo.Plain line := by
  cases scanned : scan line options.policies.overflow with
  | ok tokens => exact Echo.plain_of_scan scanned
  | error error =>
    rw [valueOf_of_scan_error scanned] at evaluates
    cases evaluates

/-! ### Transcripts -/

/-- The echoes of a transcript are its lines with a prompt. -/
theorem filter_shown (options : SessionOptions) (line : String) :
    (shown options line).filter (startsWithPrompt options) = [echo options line] := by
  have starts : startsWithPrompt options (echo options line) = true := by
    simp [startsWithPrompt, echo]
  have between : (sequences options line).filter (startsWithPrompt options) = [] := by
    rw [← List.length_eq_zero_iff, ← List.countP_eq_length_filter, countP_sequences]
  rw [shown, ← echo, List.filter_cons_of_pos starts, List.filter_append, between,
    List.filter_cons_of_neg (not_startsWithPrompt_verdict _ _)]
  rfl

theorem echoes_of_transcript {options : SessionOptions} {first second : List UInt8}
    (same : transcript options first = transcript options second) :
    (lines first).map (echo options) = (lines second).map (echo options) := by
  have pieces := pieces_transcript options first
  rw [same, pieces_transcript, List.append_cancel_right_eq] at pieces
  have shownAlike := List.map_injective_iff.mpr (fun _ _ => String.toList_inj.mp) pieces
  rw [List.append_cancel_right_eq] at shownAlike
  have echoes := congrArg (List.filter (startsWithPrompt options)) shownAlike
  simp only [List.filter_flatMap, filter_shown, ← List.map_eq_flatMap] at echoes
  exact echoes.symm

theorem map_ofVisible {texts : List String} (plain : ∀ line ∈ texts, Echo.Plain line) :
    (texts.map Echo.visible).map Echo.ofVisible = texts := by
  have read : ∀ line ∈ texts, (Echo.ofVisible ∘ Echo.visible) line = id line :=
    fun line member => Echo.ofVisible_visible (plain line member)
  rw [List.map_map, List.map_congr_left read, List.map_id]

theorem lines_of_transcript {options : SessionOptions} {first second : List UInt8}
    (plain : ∀ line ∈ lines first, Echo.Plain line)
    (plainSecond : ∀ line ∈ lines second, Echo.Plain line)
    (same : transcript options first = transcript options second) : lines first = lines second := by
  have frame : Function.Injective fun shown =>
      options.order.prompt ++ "input=" ++ Echo.quote shown := by
    intro shown other alike
    simpa [Echo.quote] using alike
  have echoes : (lines first).map Echo.visible = (lines second).map Echo.visible := by
    apply List.map_injective_iff.mpr frame
    rw [List.map_map, List.map_map]
    exact echoes_of_transcript same
  rw [← map_ofVisible plain, echoes, map_ofVisible plainSecond]

/-- The echo of a line holds no blank, and among the lines without dots and backslashes it is the
echo of one only. Every line that is scanned is one of them, so two lines that have values are the
same line if they are echoed alike, however they are evaluated; and two sessions whose lines all have
values were given the same lines if they have the same transcript. -/
theorem echo_determines :
    (∀ text : String, ∀ char ∈ (Echo.visible text).toList, isBlank char = false) ∧
    (∀ first second : String, Echo.Plain first → Echo.Plain second →
      (Echo.visible first = Echo.visible second ↔ first = second)) ∧
    (∀ source policy tokens, scan source policy = .ok tokens → Echo.Plain source) ∧
    (∀ (options others : SessionOptions) (first second : String) (value other : Value),
      valueOf options first = .ok value → valueOf others second = .ok other →
      Echo.visible first = Echo.visible second → first = second) ∧
    ∀ (options : SessionOptions) (first second : List UInt8),
      (∀ line ∈ lines first, ∃ value, valueOf options line = .ok value) →
      (∀ line ∈ lines second, ∃ value, valueOf options line = .ok value) →
      transcript options first = transcript options second → lines first = lines second := by
  have dot : ∀ char ∈ ".".toList, isBlank char = false := by
    intro char member
    rw [List.mem_singleton.mp member]
    rfl
  refine ⟨fun text => ?_, fun first second => Echo.visible_inj,
    fun source policy tokens => Echo.plain_of_scan, ?_, ?_⟩
  · rw [Echo.visible, String.toList_ofList]
    exact Echo.not_blank_of_mem_visibleChars dot
  · -- a value takes a scan, and what scans is plain
    intro options others first second value other evaluates evaluatesSecond same
    exact (Echo.visible_inj (plain_of_valueOf evaluates) (plain_of_valueOf evaluatesSecond)).mp same
  · intro options first second values valuesSecond same
    refine lines_of_transcript (fun line member => ?_) (fun line member => ?_) same
    · obtain ⟨value, evaluates⟩ := values line member
      exact plain_of_valueOf evaluates
    · obtain ⟨value, evaluates⟩ := valuesSecond line member
      exact plain_of_valueOf evaluates

theorem echo_determines_blanks :
    Echo.Plain "1 +\t2" ∧ Echo.visible "1 +\t2" = "1.+\\t2" ∧
      ∀ line, Echo.Plain line → Echo.visible line = "1.+\\t2" → line = "1 +\t2" := by
  have plain : Echo.Plain "1 +\t2" := by decide
  have echoed : Echo.visible "1 +\t2" = "1.+\\t2" := by decide
  refine ⟨plain, echoed, fun line plainLine same => ?_⟩
  exact (echo_determines.2.1 line "1 +\t2" plainLine plain).mp (same.trans echoed.symm)

end Session
end Calculator
