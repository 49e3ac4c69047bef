import Calculator.Proofs.Scanning
import Calculator.Report

/-!
# Errors in their source line

The scanner counts lines and columns while it reads; the display cuts the source into lines. Both
agree on every scanner error: the line that is shown holds the offending part of the source, and the
caret stands below its beginning. A line end that is cut off, with a carriage return or without,
comes after that part, because neither character of a line end is ever offending.

## Main statements

* `exists_line`: the line of a position holds what comes before the position on its line and what
  stands there.
* `arises_of_evaluate`, `arises_of_evaluatePostfix`: a scanner error comes from the scan.
* `withSource_points`: a scanner error is shown in four lines, with its caret in place, and any
  other error in one.
-/
namespace Calculator

/-- The part of a source that a scanner error is about. -/
def ScanError.mark : ScanError → List Char
  | .unknownCharacter char _ => [char]
  | .literalOverflow literal _ => literal

/-- A part of a line: it is not empty, and no character of it belongs to a line end. -/
structure WithinLine (part : List Char) : Prop where
  nonempty : part ≠ []
  noEnd : ∀ char ∈ part, char ≠ '\n' ∧ char ≠ '\r'

/-! ### The line of a position -/

namespace Position

/-- Along a single line only the column moves. -/
theorem advanceAll_of_not_mem {lead : List Char} (absent : '\n' ∉ lead) (position : Position) :
    (position.advanceAll lead).line = position.line ∧
      (position.advanceAll lead).column = position.column + lead.length := by
  induction lead generalizing position with
  | nil => exact ⟨rfl, rfl⟩
  | cons char lead ih =>
    rw [List.mem_cons, not_or] at absent
    obtain ⟨line, column⟩ := ih absent.2 (position.advance char)
    have moved : position.advance char =
        ⟨position.line, position.column + 1, position.byteOffset + char.utf8Size⟩ :=
      if_neg (Ne.symm absent.1)
    rw [advanceAll_cons, line, column, moved, List.length_cons]
    exact ⟨rfl, Nat.succ_add_eq_add_succ _ _⟩

theorem after_of_not_mem {lead : List Char} (absent : '\n' ∉ lead) :
    (after lead).line = 1 ∧ (after lead).column = lead.length + 1 := by
  obtain ⟨line, column⟩ := advanceAll_of_not_mem absent start
  rw [← advanceAll_start, line, column]
  exact ⟨rfl, Nat.add_comm _ _⟩

/-- Behind a line feed the column counts from it, and the line is one more than the line feeds
above. -/
theorem after_feed (upper : List Char) {lead : List Char} (absent : '\n' ∉ lead) :
    (after (upper ++ '\n' :: lead)).line = upper.count '\n' + 2 ∧
      (after (upper ++ '\n' :: lead)).column = lead.length + 1 := by
  have feed : (after upper).advance '\n' =
      ⟨(after upper).line + 1, 1, (after upper).byteOffset + '\n'.utf8Size⟩ := if_pos rfl
  obtain ⟨line, column⟩ := advanceAll_of_not_mem absent ((after upper).advance '\n')
  rw [← advanceAll_after, advanceAll_cons, line, column, feed]
  simp only [after]
  omega

end Position

/-- A text either is a single line so far or has a last line feed. -/
theorem exists_lead (place : List Char) :
    ∃ lead, '\n' ∉ lead ∧ (place = lead ∨ ∃ upper, place = upper ++ '\n' :: lead) := by
  by_cases feed : '\n' ∈ place.reverse
  · obtain ⟨after, before, split, absent⟩ := List.eq_append_cons_of_mem feed
    refine ⟨after.reverse, by simpa using absent, .inr ⟨before.reverse, ?_⟩⟩
    rw [← List.reverse_reverse place, split]
    simp
  · exact ⟨place, by simpa using feed, .inl rfl⟩

/-- The carriage return that may end a line is not taken from a part of the line. -/
theorem Lines.dropReturn_part {part : List Char} (within : WithinLine part)
    (before after : List Char) :
    ∃ tail, Lines.dropReturn (before ++ part ++ after) = before ++ part ++ tail := by
  unfold Lines.dropReturn
  split
  next last =>
    -- the carriage return is no character of the part, so it comes after it
    have present : after ≠ [] := by
      rintro rfl
      rw [List.append_nil, List.getLast?_append, List.getLast?_eq_some_getLast within.nonempty,
        Option.some_or, Option.some.injEq] at last
      exact (within.noEnd _ (List.getLast_mem within.nonempty)).2 last
    exact ⟨after.dropLast, List.dropLast_append_of_ne_nil present⟩
  · exact ⟨after, rfl⟩

theorem Lines.ofText_part {lead part : List Char} (absent : '\n' ∉ lead) (within : WithinLine part)
    (rest : List Char) :
    ∃ tail, (Lines.ofText (lead ++ part ++ rest))[0]? = some (lead ++ part ++ tail) := by
  have noFeed : '\n' ∉ lead ++ part := by
    rw [List.mem_append]
    rintro (before | inside)
    · exact absent before
    · exact (within.noEnd _ inside).1 rfl
  by_cases feed : '\n' ∈ rest
  · -- the line ends at the next line feed
    obtain ⟨line, later, rfl, ends⟩ := List.eq_append_cons_of_mem feed
    have single : Lines.pieces '\n' (lead ++ part ++ line) = [lead ++ part ++ line] := by
      apply Lines.pieces_of_not_mem
      rw [List.mem_append, not_or]
      exact ⟨noFeed, ends⟩
    obtain ⟨tail, dropped⟩ := Lines.dropReturn_part within lead line
    refine ⟨tail, ?_⟩
    rw [← List.append_assoc, Lines.ofText_append_feed, single, List.map_singleton, dropped]
    rfl
  · -- the line goes on to the end of the text, and is no empty one
    have single : Lines.pieces '\n' (lead ++ part ++ rest) = [lead ++ part ++ rest] := by
      apply Lines.pieces_of_not_mem
      rw [List.mem_append, not_or]
      exact ⟨noFeed, feed⟩
    have visible : lead ++ part ++ rest ≠ [] := by simp [within.nonempty]
    refine ⟨rest, ?_⟩
    rw [Lines.ofText, single, Lines.ofPieces, if_neg visible]
    rfl

/-- A part of a line is found in the line with the number of its position, at the column of its
position. -/
theorem exists_line {part : List Char} (within : WithinLine part) (place rest : List Char) :
    ∃ above lead tail, (Position.after place).line = above + 1 ∧
      (Position.after place).column = lead.length + 1 ∧
      (Lines.ofText (place ++ part ++ rest))[above]? = some (lead ++ part ++ tail) := by
  obtain ⟨lead, absent, rfl | ⟨upper, rfl⟩⟩ := exists_lead place
  · obtain ⟨tail, found⟩ := Lines.ofText_part absent within rest
    obtain ⟨line, column⟩ := Position.after_of_not_mem absent
    exact ⟨0, place, tail, line, column, found⟩
  · obtain ⟨tail, found⟩ := Lines.ofText_part absent within rest
    obtain ⟨line, column⟩ := Position.after_feed upper absent
    refine ⟨upper.count '\n' + 1, lead, tail, line, column, ?_⟩
    -- the lines above are the pieces of `upper`
    have above : ((Lines.pieces '\n' upper).map Lines.dropReturn).length =
        upper.count '\n' + 1 := by
      rw [List.length_map, Lines.length_pieces]
    rw [List.append_assoc, List.append_assoc, List.cons_append, Lines.ofText_append_feed,
      List.getElem?_append_right (Nat.le_of_eq above), above, Nat.sub_self, ← List.append_assoc]
    exact found

/-- An offence is at its mark: the characters that it is about begin at the position of its error.
-/
theorem Offence.at_mark {policy : OverflowPolicy} {text place : List Char} {error : ScanError}
    (offence : Offence policy text place error) :
    error.position = .after place ∧ WithinLine error.mark ∧
      ∃ rest, text = place ++ error.mark ++ rest := by
  cases offence with
  | @unknown rest char split illegal =>
    refine ⟨rfl, ⟨List.cons_ne_nil _ _, ?_⟩, rest, by rw [split]; simp [ScanError.mark]⟩
    intro other member
    rw [List.mem_singleton.mp member]
    constructor <;> rintro rfl <;> exact illegal (.inr (.inr rfl))
  | tooLarge _ split isLiteral _ _ _ =>
    refine ⟨rfl, ⟨isLiteral.1, ?_⟩, _, split⟩
    intro char member
    have digit := isLiteral.2 char member
    constructor <;> rintro rfl <;> cases digit

/-! ### What is shown -/

namespace SourceContext

/-- A source line with its number, between an empty line and one that holds a marker. -/
def frame (number : Nat) (text marker : List Char) : List (List Char) :=
  let margin := List.replicate (Decimal.digits number).length ' '
  [margin ++ [' ', '|'], Decimal.digits number ++ [' ', '|', ' '] ++ text,
    margin ++ [' ', '|', ' '] ++ marker]

theorem lines_eq_frame {source : String} {above : Nat} {text : List Char}
    (found : (Lines.ofText source.toList)[above]? = some text) (column : Nat) :
    lines source (above + 1) column =
      frame (above + 1) text (padding (column - 1) text ++ ['^']) := by
  simp only [lines, found, frame, List.append_assoc]

theorem feed_not_mem_digits (n : Nat) : '\n' ∉ Decimal.digits n :=
  fun feed => absurd (Decimal.isDigit_of_mem_digits feed) (by decide)

theorem feed_not_mem_padding (width : Nat) (text : List Char) : '\n' ∉ padding width text := by
  induction width generalizing text with
  | zero => exact List.not_mem_nil
  | succ width ih =>
    cases text with
    | nil => simp [padding, ih]
    | cons char later =>
      rw [padding, List.mem_cons, not_or]
      refine ⟨?_, ih later⟩
      split <;> decide

theorem feed_not_mem_frame (number : Nat) {text marker : List Char} (clean : '\n' ∉ text)
    (cleanMarker : '\n' ∉ marker) : ∀ line ∈ frame number text marker, '\n' ∉ line := by
  intro line member
  simp only [frame, List.mem_cons, List.not_mem_nil, or_false] at member
  rcases member with rfl | rfl | rfl <;>
    simp [clean, cleanMarker, feed_not_mem_digits]

end SourceContext

/-! ### Where errors come from -/

/-- How an error of an evaluation comes about: by the scan, or after a scan that succeeds. -/
inductive Arises (source : String) (policies : Policies) : Error → Prop where
  | scan {error : ScanError} :
    scan source policies.overflow = .error error → Arises source policies (.scan error)
  | parse (error : ParseError) : Arises source policies (.parse error)
  | eval (error : EvalError) : Arises source policies (.eval error)

variable {source : String} {policies : Policies} {error : Error}

/-- An evaluation gives no error of a scan but the one that the scan of its source gives. -/
theorem arises_of_evaluate (fails : evaluate source policies = .error error) :
    Arises source policies error := by
  rw [evaluate, steps] at fails
  cases scanned : scan source policies.overflow with
  | error found =>
    rw [scanned] at fails
    cases fails
    exact .scan scanned
  | ok tokens =>
    rw [scanned] at fails
    simp only [stepsOfTokens] at fails
    split at fails
    · cases fails
      exact .parse _
    · split at fails <;> cases fails
      exact .eval _

theorem arises_of_evaluatePostfix (fails : evaluatePostfix source policies = .error error) :
    Arises source policies error := by
  rw [evaluatePostfix] at fails
  cases scanned : scan source policies.overflow with
  | error found =>
    rw [scanned] at fails
    cases fails
    exact .scan scanned
  | ok tokens =>
    rw [scanned] at fails
    obtain ⟨stops, -, rfl⟩ := mapError_eq_error fails
    exact .eval stops

theorem Decimal.feed_not_mem_ofNat (n : Nat) : '\n' ∉ (ofNat n).toList := by
  rw [ofNat, String.toList_ofList]
  exact SourceContext.feed_not_mem_digits n

theorem ScanError.feed_not_mem_message {error : ScanError} (noFeed : '\n' ∉ error.mark) :
    '\n' ∉ error.message.toList := by
  cases error with
  | unknownCharacter char position =>
    change _ ∉ (_ ++ String.singleton char ++ _ : String).toList
    rw [String.toList_append, String.toList_append, String.toList_singleton, List.mem_append,
      List.mem_append, not_or, not_or]
    exact ⟨⟨by decide, noFeed⟩, by decide⟩
  | literalOverflow literal position =>
    change _ ∉ (_ ++ String.ofList literal ++ _ : String).toList
    rw [String.toList_append, String.toList_append, @String.toList_ofList literal,
      List.mem_append, List.mem_append, not_or, not_or]
    exact ⟨⟨by decide, noFeed⟩, by decide⟩

theorem EvalError.feed_not_mem_message (error : EvalError) : '\n' ∉ error.message.toList := by
  cases error with
  | leftoverOperands count =>
    rw [message, String.toList_append, List.mem_append, not_or]
    exact ⟨Decimal.feed_not_mem_ofNat count, by decide⟩
  | _ => decide

/-- The headline of an error is a single line. It may quote a character of the source, which is
never a line feed. -/
theorem feed_not_mem_headline (arises : Arises source policies error) :
    '\n' ∉ error.headline.toList := by
  have message : '\n' ∉ error.message.toList := by
    cases arises with
    | @scan error failed =>
      -- the characters that the message quotes are the mark of the error
      obtain ⟨place, offence, -⟩ := firstOffence_of_error failed
      obtain ⟨-, within, -⟩ := offence.at_mark
      exact ScanError.feed_not_mem_message fun feed => (within.noEnd _ feed).1 rfl
    | parse error =>
      cases error
      decide
    | eval error => exact error.feed_not_mem_message
  rw [Error.headline, String.toList_append, List.mem_append, not_or]
  exact ⟨by decide, message⟩

/-! ### The lines that are shown -/

theorem withSource_scan (error : ScanError) (source : String) :
    ((Error.scan error).withSource source).toList =
      ((Error.scan error).headline.toList ::
        SourceContext.lines source error.position.line error.position.column).flatMap
          (· ++ ['\n']) := by
  have context : (SourceContext.text source error.position.line error.position.column).toList =
      (SourceContext.lines source error.position.line error.position.column).flatMap
        (· ++ ['\n']) := String.toList_ofList
  change (_ ++ "\n" ++ SourceContext.text source _ _ : String).toList = _
  rw [String.toList_append, String.toList_append, context]
  rfl

theorem withSource_other (noScan : ∀ scanError, error ≠ .scan scanError) (source : String) :
    (error.withSource source).toList = [error.headline.toList].flatMap (· ++ ['\n']) := by
  have single : error.withSource source = error.headline ++ "\n" ++ "" := by
    cases error with
    | scan error => exact absurd rfl (noScan error)
    | parse | eval => rfl
  rw [single, String.toList_append, String.toList_append]
  simp

/-- An error of an evaluation, of an infix text or of one in postfix order, is shown in its place. A
scanner error takes four lines: its message, an empty line, the source line of the error and a caret
below the first character that the error is about. The blanks before the caret are those of its
column, with tabs where the source line has them. Any other error takes one line. -/
theorem withSource_points (fails : evaluate source policies = .error error ∨
      evaluatePostfix source policies = .error error) :
    (∀ scanError, error = .scan scanError → ∃ above width text padding,
      scanError.position.line = above + 1 ∧ scanError.position.column = width + 1 ∧
      (Lines.ofText source.toList)[above]? = some text ∧
      Lines.pieces '\n' (error.withSource source).toList =
        error.headline.toList :: SourceContext.frame (above + 1) text (padding ++ ['^']) ++ [[]] ∧
      padding.length = width ∧
      (∀ index < width,
        padding[index]? = some (if text[index]? = some '\t' then '\t' else ' ')) ∧
      scanError.mark <+: text.drop width) ∧
    ((∀ scanError, error ≠ .scan scanError) →
      Lines.pieces '\n' (error.withSource source).toList = [error.headline.toList, []]) := by
  have arises : Arises source policies error :=
    fails.elim arises_of_evaluate arises_of_evaluatePostfix
  have headline := feed_not_mem_headline arises
  constructor
  · rintro error rfl
    cases arises with
    | scan failed =>
      -- the error is an offence, and its mark lies within one line of the source
      obtain ⟨place, offence, -⟩ := firstOffence_of_error failed
      obtain ⟨position, within, rest, split⟩ := offence.at_mark
      obtain ⟨above, lead, tail, line, column, found⟩ := exists_line within place rest
      rw [← position] at line column
      rw [← split] at found
      refine ⟨above, lead.length, _, SourceContext.padding lead.length (lead ++ error.mark ++ tail),
        line, column, found, ?_, SourceContext.padding_length _ _,
        fun index before => SourceContext.padding_getElem? before _, ?_⟩
      · rw [withSource_scan, line, column, SourceContext.lines_eq_frame found, Nat.add_sub_cancel]
        -- the text that is shown is cut at its line feeds, as none of its lines holds one
        apply Lines.pieces_flatMap
        have text := Lines.not_mem_of_mem_ofText (List.mem_of_getElem? found)
        have marker : '\n' ∉ SourceContext.padding lead.length (lead ++ error.mark ++ tail) ++
            ['^'] := by
          simp [SourceContext.feed_not_mem_padding]
        intro shown member
        rcases List.mem_cons.mp member with rfl | framed
        · exact headline
        · exact SourceContext.feed_not_mem_frame _ text marker shown framed
      · rw [List.append_assoc, List.drop_left]
        exact List.prefix_append _ _
  · intro noScan
    rw [withSource_other noScan]
    apply Lines.pieces_flatMap
    intro shown member
    rw [List.mem_singleton.mp member]
    exact headline

theorem withSource_second_line :
    evaluate "1\r\n\t$" {} = .error (.scan (.unknownCharacter '$' ⟨2, 2, 4⟩)) ∧
      ∃ text padding : List Char, (Lines.ofText "1\r\n\t$".toList)[1]? = some text ∧
        padding.length = 1 ∧ padding[0]? = some (if text[0]? = some '\t' then '\t' else ' ') ∧
        ['$'] <+: text.drop 1 := by
  have failed : scan "1\r\n\t$" .reject = .error (.unknownCharacter '$' ⟨2, 2, 4⟩) := by
    have one : Token.IsLiteral ['1'] := by decide
    have blanks : Token.AllBlank ['\r', '\n', '\t'] := by decide
    have illegal : ¬ Legal '$' := by simp [Legal, isBlank]
    have first := @Scanner.scanAll_literal .reject .start ['1'] ['\r', '\n', '\t', '$'] 1 one rfl
      (by decide)
    have second := @Scanner.scanAll_blanks .reject _ blanks ['$'] (Position.start.advanceAll ['1'])
    rw [Scanner.scanAll_unknown illegal] at second
    exact first.trans (congrArg _ second)
  have fails : evaluate "1\r\n\t$" {} = .error (.scan (.unknownCharacter '$' ⟨2, 2, 4⟩)) := by
    rw [evaluate, steps, failed]
    rfl
  refine ⟨fails, ?_⟩
  obtain ⟨above, width, text, padding, line, column, found, -, length, aligned, mark⟩ :=
    (withSource_points (.inl fails)).1 _ rfl
  obtain rfl : above = 1 := (Nat.succ.inj line).symm
  obtain rfl : width = 1 := (Nat.succ.inj column).symm
  exact ⟨text, padding, found, length, aligned 0 Nat.one_pos, mark⟩

end Calculator
