import Calculator.Proofs.Acceptance
import Calculator.Proofs.Infix
import Calculator.Proofs.Transcript
import Calculator.Text.Utf8.Replacement

/-!
# Lines that are not UTF-8

A session decodes each input line by itself, and no ill-encoded line is answered with a value. The
carriage return before a line end takes no part in a character of several bytes, so the line stays
ill-encoded without it and leaves a replacement character in the text. No expression has one: the
scanner refuses it, unless it has refused something before.

What is refused stands in the line as it is, up to the first bytes that are replaced.

## Main statements

* `illEncoded_dropReturn`: a line without its carriage return is as ill-encoded as with it.
* `refusal_of_firstOffence`: what the scanner refuses in the text of ill-encoded bytes.
* `illEncoded_refused`: what a session shows for an ill-encoded line.
-/
namespace Calculator

open Utf8 (IllEncoded encode_append replacement)

/-! ### What is refused -/

/-- A replacement is no character of an expression, so that it cannot go unnoticed. -/
theorem not_legal_replacement : ¬ Legal replacement := by
  unfold Legal
  decide

namespace Session

/-- What the scanner refuses in the text of ill-encoded bytes. -/
inductive Refusal (policy : OverflowPolicy) (bytes : List UInt8) : ScanError → Prop where
  -- a character of the bytes, or the replacement for the first of them that make none
  | unknown {before rest : List Char} {char : Char} {later : List UInt8} :
    bytes = Utf8.encode before ++ later → IllEncoded later → Utf8.decode later = char :: rest →
      ¬ Legal char → Refusal policy bytes (.unknownCharacter char (.after before))
  -- a literal of the bytes, ahead of those that make no character
  | tooLarge {before literal : List Char} {later : List UInt8} :
    policy = .reject → bytes = Utf8.encode (before ++ literal) ++ later → IllEncoded later →
      Token.IsLiteral literal → Value.largest.toInt < Decimal.value literal →
      Refusal policy bytes (.literalOverflow literal (.after before))

/-- A literal that begins before a replacement character also ends before it. -/
theorem literal_isPrefix {front rest literal others : List Char}
    (isLiteral : Token.IsLiteral literal)
    (split : front ++ replacement :: rest = literal ++ others) : literal <+: front := by
  rcases List.append_eq_append_iff.mp split with ⟨between, rfl, shared⟩ | ⟨between, rfl, -⟩
  · cases between with
    | nil => simp
    | cons char between =>
      obtain ⟨rfl, -⟩ := List.cons.inj shared
      have digit := isLiteral.2 replacement (by simp)
      cases digit
  · exact List.prefix_append literal between

/-- The first offence of an ill-encoded line is its first replacement at the latest, and what comes
before it stands in the bytes. -/
theorem refusal_of_firstOffence {policy : OverflowPolicy} {bytes : List UInt8} {error : ScanError}
    (illEncoded : IllEncoded bytes) (first : FirstOffence policy (Utf8.decode bytes) error) :
    Refusal policy bytes error := by
  obtain ⟨front, later, rest, rfl, absent, decodes⟩ := illEncoded.exists_first
  obtain ⟨place, offence, isFirst⟩ := first
  rw [Utf8.decode_encode_append, decodes] at offence isFirst
  -- the first replacement character is an offence, so the first offence stands there or before
  have bound := isFirst front _ (.unknown rfl not_legal_replacement)
  obtain ⟨between, rfl⟩ :=
    List.prefix_of_prefix_length_le offence.isPrefix (List.prefix_append front _) bound
  rw [encode_append, List.append_assoc] at illEncoded
  cases offence with
  | unknown split illegal =>
    rw [List.append_assoc] at split
    have begins := List.append_cancel_left split
    rw [← decodes, ← Utf8.decode_encode_append] at begins
    rw [encode_append, List.append_assoc]
    exact .unknown rfl illEncoded.of_append begins illegal
  | tooLarge rejects split isLiteral _ _ large =>
    rw [List.append_assoc, List.append_assoc] at split
    obtain ⟨tail, rfl⟩ := literal_isPrefix isLiteral (List.append_cancel_left split)
    rw [← List.append_assoc, encode_append _ tail, List.append_assoc]
    rw [encode_append _ tail, List.append_assoc] at illEncoded
    exact .tooLarge rejects rfl illEncoded.of_append.of_append isLiteral large

/-! ### Ill-encoded lines -/

/-- A carriage return at the end is a character, so that the bytes before it are what is
ill-encoded. -/
theorem illEncoded_dropReturn {line : List UInt8} (illEncoded : IllEncoded line) :
    IllEncoded (dropReturn line) := by
  unfold dropReturn
  split
  next ends =>
    obtain ⟨before, rfl⟩ := List.getLast?_eq_some_iff.mp ends
    rw [List.dropLast_concat]
    rintro text rfl
    exact illEncoded (text ++ ['\r']) (encode_append text ['\r'])
  · exact illEncoded

/-- An ill-encoded line fails to scan under every policy. -/
theorem exists_refusal (policy : OverflowPolicy) {line : List UInt8}
    (illEncoded : IllEncoded line) :
    ∃ error, scan (lineText line) policy = .error error ∧
      Refusal policy (dropReturn line) error := by
  have stripped := illEncoded_dropReturn illEncoded
  have text : (lineText line).toList = Utf8.decode (dropReturn line) := String.toList_ofList
  cases scanned : scan (lineText line) policy with
  | ok tokens =>
    have legal := legal_of_scan scanned replacement (text ▸ stripped.replacement_mem)
    exact absurd legal not_legal_replacement
  | error error =>
    have first := firstOffence_of_error scanned
    rw [text] at first
    exact ⟨error, rfl, refusal_of_firstOffence stripped first⟩

/-! ### Answers -/

theorem valueOf_of_scan_error {options : SessionOptions} {line : String} {error : ScanError}
    (failed : scan line options.policies.overflow = .error error) :
    valueOf options line = .error (.scan error) := by
  unfold valueOf
  cases options.order with
  | infixOrder =>
    rw [Calculator.evaluate, steps_of_scan_error failed]
    rfl
  | postfixOrder => rw [evaluatePostfix, failed]

/-- The first of the lines that are shown for an input line. -/
def echo (options : SessionOptions) (line : String) : String :=
  options.order.prompt ++ "input=" ++ Echo.quote (Echo.visible line)

theorem shown_of_scan_error {options : SessionOptions} {line : String} {error : ScanError}
    (failed : scan line options.policies.overflow = .error error) :
    shown options line = [echo options line, "Error: " ++ error.message] := by
  have hidden : sequences options line = [] := by
    unfold sequences
    rw [steps_of_scan_error failed]
    cases options.order <;> cases options.showSteps <;> rfl
  rw [shown, hidden, valueOf_of_scan_error failed]
  rfl

/-- A session shows two lines for an input line that is not UTF-8, wherever it stands: its echo and
an error of the scanner. The scanner has refused a character of the line, or the replacement for its
first bytes that make none, or, unless literals saturate, a literal that stands ahead of them. Other
lines are shown as by themselves, those that come later as well as those before. -/
theorem illEncoded_refused (options : SessionOptions) {input line : List UInt8}
    {earlier others : List (List UInt8)}
    (inputLines : InputLines input (earlier ++ line :: others)) (illEncoded : IllEncoded line) :
    ∃ error, Refusal options.policies.overflow (dropReturn line) error ∧
      valueOf options (lineText line) = .error (.scan error) ∧
      Logged.Yields (run options input) (transcript options input) ∧
      Lines.pieces '\n' (transcript options input).toList =
        (earlier.flatMap (fun line => shown options (lineText line)) ++
          [echo options (lineText line), "Error: " ++ error.message] ++
          others.flatMap (fun line => shown options (lineText line)) ++
          [options.order.prompt]).map String.toList ++ [[]] := by
  obtain ⟨error, failed, refusal⟩ := exists_refusal options.policies.overflow illEncoded
  refine ⟨error, refusal, valueOf_of_scan_error failed, yields_run options input, ?_⟩
  have texts : lines input = (earlier ++ line :: others).map lineText := by
    rw [lines, rawLines_of_inputLines inputLines]
  rw [pieces_transcript, texts, List.flatMap_map, List.flatMap_append, List.flatMap_cons,
    shown_of_scan_error failed, ← List.append_assoc]

theorem illEncoded_refused_truncated :
    InputLines [0x31, 0xE2, 0x82, 0x0D, 0x0A, 0x32] ([] ++ [0x31, 0xE2, 0x82, 0x0D] :: [[0x32]]) ∧
      IllEncoded [0x31, 0xE2, 0x82, 0x0D] ∧
      ∃ error, Refusal .reject [0x31, 0xE2, 0x82] error ∧
        valueOf {} (lineText [0x31, 0xE2, 0x82, 0x0D]) = .error (.scan error) := by
  have last : InputLines [0x32] [[0x32]] := .unended (by decide) (by decide)
  have whole : InputLines ([0x31, 0xE2, 0x82, 0x0D] ++ 0x0A :: [0x32])
      ([] ++ [0x31, 0xE2, 0x82, 0x0D] :: [[0x32]]) := .ended (by decide) last
  have truncated : IllEncoded [0x31, 0xE2, 0x82, 0x0D] := by decide
  obtain ⟨error, refusal, fails, -⟩ := illEncoded_refused {} whole truncated
  exact ⟨whole, truncated, error, refusal, fails⟩

end Session
end Calculator
