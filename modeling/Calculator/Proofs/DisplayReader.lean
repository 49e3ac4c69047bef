import Calculator.Proofs.Transcript
import Mathlib.Data.List.Basic

/-!
# Reading the display of a run

The display of a sequence forgets nothing: the sequence can be read back from it. Each token ends at
its closing bracket, because no tag and no numeral holds one, and begins behind its opening bracket,
whatever separates it from the token before. Between the brackets, a numeral is never a tag.

So the lines and the JSON object that show the steps of a run tell all its sequences, and the object
also tells the value.

## Main statements

* `ofLabel?_label`: a token is read back from what stands between its brackets.
* `ofDisplay?_displayAll`: a sequence is read back from its display.
* `Steps.eq_of_json`: the object of a run is the object of no other run.
* `display_lossless`: what the display of sequences and runs tells.
-/
namespace Calculator

theorem Lines.pieces_intercalate {α : Type} [DecidableEq α] {feed : α} {parts : List (List α)}
    (present : parts ≠ []) (absent : ∀ part ∈ parts, feed ∉ part) :
    pieces feed (List.intercalate [feed] parts) = parts := by
  induction parts with
  | nil => exact absurd rfl present
  | cons part later ih =>
    obtain ⟨first, others⟩ := List.forall_mem_cons.mp absent
    cases later with
    | nil => simpa using pieces_of_not_mem first
    | cons next rest =>
      rw [List.intercalate_cons_cons, List.append_assoc, List.singleton_append,
        pieces_append_feed, pieces_of_not_mem first, ih (List.cons_ne_nil _ _) others]
      rfl

/-! ### Numerals -/

namespace Decimal

/-- The integer that a numeral denotes, with a sign or without. -/
def integer : List Char → Int
  | '-' :: digits => -(value digits : Int)
  | digits => value digits

theorem mem_numeral {n : Int} {char : Char} (member : char ∈ numeral n) :
    char.isDigit = true ∨ char = '-' := by
  cases n with
  | ofNat n => exact .inl (isDigit_of_mem_digits member)
  | negSucc n =>
    rcases List.mem_cons.mp member with rfl | digit
    · exact .inr rfl
    · exact .inl (isDigit_of_mem_digits digit)

theorem integer_numeral (n : Int) : integer (numeral n) = n := by
  cases n with
  | ofNat n =>
    -- digits without a sign in front are read as they are
    have unsigned : ∀ rest, digits n ≠ '-' :: rest := by
      intro rest same
      have digit : '-'.isDigit = true := isDigit_of_mem_digits (same ▸ List.mem_cons_self)
      cases digit
    rw [numeral, integer.eq_2 _ unsigned, value_digits]
    rfl
  | negSucc n =>
    rw [numeral, integer, value_digits]
    rfl

end Decimal

/-! ### Tokens and sequences -/

namespace Token

/-- What stands between the brackets of a token. -/
def label : Token → List Char
  | .number value => Decimal.numeral value.toInt
  | token => [token.symbol]

/-- The tokens that are shown by their tags. -/
def tagged : List Token :=
  [.leftParen, .rightParen, .plus, .binaryMinus, .unaryMinus, .times, .divide]

/-- The token with a given label. -/
def ofLabel? (label : List Char) : Option Token :=
  (tagged.find? fun token => [token.symbol] = label).or
    ((Value.ofInt? (Decimal.integer label)).map .number)

/-- The token that ends a text at its closing bracket. It begins behind its opening bracket. -/
def ofPiece? (piece : List Char) : Option Token := ofLabel? (piece.dropWhile (· ≠ '<')).tail

/-- The sequence that a display shows. A token ends at each closing bracket. -/
def ofDisplay? (display : String) : Option (List Token) :=
  (Lines.pieces '>' display.toList).dropLast.mapM ofPiece?

theorem displayChars_eq (token : Token) : token.displayChars = '<' :: token.label ++ ['>'] := by
  cases token <;> rfl

/-- What stands between the brackets determines the token: the tags are different from each other,
and none is a numeral. -/
theorem ofLabel?_label (token : Token) : ofLabel? token.label = some token := by
  cases token with
  | leftParen | rightParen => rfl
  | operator op =>
    cases op with
    | negate => rfl
    | binary op => cases op <;> rfl
  | number value =>
    -- a numeral is made of digits and a sign, and no tag is any of these
    have noTag : tagged.find? (fun token => [token.symbol] = Decimal.numeral value.toInt) = none := by
      have others : ∀ token ∈ tagged, ¬ (token.symbol.isDigit = true ∨ token.symbol = '-') := by
        decide
      rw [List.find?_eq_none]
      intro token among same
      refine others token among (Decimal.mem_numeral (n := value.toInt) ?_)
      rw [← of_decide_eq_true same]
      exact List.mem_singleton_self _
    rw [ofLabel?, label, noTag, Decimal.integer_numeral, Value.ofInt?_toInt]
    rfl

theorem mem_label {token : Token} {char : Char} (member : char ∈ token.label) :
    char.isDigit = true ∨ char ∈ ['-', '(', ')', '+', 'm', 'u', '*', '/'] := by
  cases token with
  | leftParen | rightParen =>
    cases List.mem_singleton.mp member
    decide
  | operator op =>
    cases List.mem_singleton.mp member
    cases op with
    | negate => decide
    | binary op => cases op <;> decide
  | number value =>
    rcases Decimal.mem_numeral member with digit | rfl
    · exact .inl digit
    · exact .inr List.mem_cons_self

/-- A token is read from its label, whatever stands before the opening bracket. -/
theorem ofPiece?_label {lead : List Char} (noOpening : '<' ∉ lead) (token : Token) :
    ofPiece? (lead ++ '<' :: token.label) = some token := by
  have skipped : (lead ++ '<' :: token.label).dropWhile (· ≠ '<') = '<' :: token.label := by
    rw [List.dropWhile_append_of_pos]
    · rfl
    · intro char member
      exact decide_eq_true fun same => noOpening (same ▸ member)
  rw [ofPiece?, skipped, List.tail_cons, ofLabel?_label]

/-- The first closing bracket ends the first token. -/
theorem pieces_displayChars {lead : List Char} (noClosing : '>' ∉ lead) (token : Token)
    (rest : List Char) :
    Lines.pieces '>' (lead ++ (token.displayChars ++ rest)) =
      (lead ++ '<' :: token.label) :: Lines.pieces '>' rest := by
  have inside : '>' ∉ lead ++ '<' :: token.label := by
    simp only [List.mem_append, List.mem_cons, not_or]
    exact ⟨noClosing, by decide, fun member => absurd (mem_label member) (by decide)⟩
  have split : lead ++ (token.displayChars ++ rest) =
      (lead ++ '<' :: token.label) ++ '>' :: rest := by simp [displayChars_eq]
  rw [split, Lines.pieces_append_feed, Lines.pieces_of_not_mem inside]
  rfl

/-- Between two tokens, and after the last, stands a gap without brackets. -/
theorem exists_gap (token : Token) (later : List Token) :
    ∃ gap, '<' ∉ gap ∧ '>' ∉ gap ∧
      List.intercalate [',', ' '] ((token :: later).map displayChars) =
        token.displayChars ++ (gap ++ List.intercalate [',', ' '] (later.map displayChars)) := by
  cases later with
  | nil => exact ⟨[], List.not_mem_nil, List.not_mem_nil, by simp⟩
  | cons next rest =>
    exact ⟨[',', ' '], by decide, by decide, by simp [List.intercalate_cons_cons]⟩

/-- The tokens are read back one after another, whatever stands before the first of them. -/
theorem mapM_ofPiece? {lead : List Char} (noOpening : '<' ∉ lead) (noClosing : '>' ∉ lead)
    (tokens : List Token) :
    (Lines.pieces '>' (lead ++ (List.intercalate [',', ' '] (tokens.map displayChars) ++
      ['}']))).dropLast.mapM ofPiece? = some tokens := by
  induction tokens generalizing lead with
  | nil =>
    have ending : '>' ∉ lead ++ ['}'] := by simp [noClosing]
    rw [List.map_nil, List.intercalate_nil, List.nil_append, Lines.pieces_of_not_mem ending]
    rfl
  | cons token later ih =>
    obtain ⟨gap, noOpeningGap, noClosingGap, text⟩ := exists_gap token later
    rw [text, List.append_assoc, List.append_assoc, pieces_displayChars noClosing,
      List.dropLast_cons_of_ne_nil (Lines.pieces_ne_nil _ _), List.mapM_cons,
      ofPiece?_label noOpening token, ih noOpeningGap noClosingGap]
    rfl

/-- What is displayed of a sequence is read back as the sequence. -/
theorem ofDisplay?_displayAll (tokens : List Token) :
    ofDisplay? (displayAll tokens) = some tokens := by
  have noOpening : '<' ∉ ['{'] := by decide
  have noClosing : '>' ∉ ['{'] := by decide
  rw [ofDisplay?, displayAll, String.toList_ofList]
  exact mapM_ofPiece? noOpening noClosing tokens

theorem displayAll_inj {first second : List Token} :
    displayAll first = displayAll second ↔ first = second := by
  constructor
  · intro same
    have read := ofDisplay?_displayAll first
    rw [same, ofDisplay?_displayAll] at read
    exact (Option.some.inj read).symm
  · rintro rfl
    rfl

end Token

/-! ### Runs -/

namespace Json

/-- A character that stands for itself in a string. -/
def Plain (char : Char) : Prop := escapeChar char = [char]

instance (char : Char) : Decidable (Plain char) := inferInstanceAs (Decidable (_ = _))

theorem plain_of_digit {char : Char} (digit : char.isDigit = true) : Plain char := by
  have lower : 0x30 ≤ char.toNat := by
    simp only [Char.isDigit, Bool.and_eq_true, decide_eq_true_eq] at digit
    exact digit.1
  have other : ∀ special : Char, special.isDigit = false → char ≠ special := by
    rintro special noDigit rfl
    rw [digit] at noDigit
    cases noDigit
  unfold Plain escapeChar
  rw [if_neg (other _ (by decide)), if_neg (other _ (by decide)), if_neg (other _ (by decide)),
    if_neg (other _ (by decide)), if_neg (other _ (by decide)), if_neg (by omega),
    if_neg (by omega), if_neg (by omega)]

theorem toList_string {text : String} (plain : ∀ char ∈ text.toList, Plain char) :
    (string text).toList = '"' :: text.toList ++ ['"'] := by
  have kept : text.toList.flatMap escapeChar = text.toList := by
    rw [List.flatMap_congr plain, List.flatMap_singleton']
  rw [string, kept, String.toList_ofList]

end Json

namespace Token

theorem plain_displayChars (token : Token) : ∀ char ∈ token.displayChars, Json.Plain char := by
  have tags : ∀ char ∈ ['-', '(', ')', '+', 'm', 'u', '*', '/'], Json.Plain char := by
    simp [Json.Plain, Json.escapeChar]
  intro char member
  rw [displayChars_eq, List.mem_append, List.mem_cons, List.mem_singleton] at member
  rcases member with (rfl | inside) | rfl
  · decide
  · exact (mem_label inside).elim Json.plain_of_digit (tags char)
  · decide

theorem plain_displayAll (tokens : List Token) :
    ∀ char ∈ (displayAll tokens).toList, Json.Plain char := by
  have separators : ∀ char ∈ ['{', ',', ' ', '}'], Json.Plain char := by
    simp [Json.Plain, Json.escapeChar]
  intro char member
  apply Decidable.byContradiction
  intro special
  have inside : char ∉ List.intercalate [',', ' '] (tokens.map displayChars) := by
    refine Lines.not_mem_intercalate (fun among => special ?_) fun part among present => ?_
    · exact separators char (List.mem_cons_of_mem _ (List.mem_append_left ['}'] among))
    · obtain ⟨token, -, rfl⟩ := List.mem_map.mp among
      exact special (token.plain_displayChars char present)
  rw [displayAll, String.toList_ofList, List.mem_append, List.mem_cons, List.mem_singleton] at member
  rcases member with (rfl | among) | rfl
  · exact special (by decide)
  · exact inside among
  · exact special (by decide)

end Token

namespace Steps

/-- The text of the JSON object of a run between its quotation marks. -/
def jsonParts (run : Steps) : List (List Char) :=
  [['{'], "tokens".toList, [':'], (Token.displayAll run.tokens).toList, [','],
    "resolved".toList, [':'], (Token.displayAll run.resolved).toList, [','],
    "postfix".toList, [':'], (Token.displayAll run.ordered).toList, [','],
    "value".toList, ':' :: Decimal.numeral run.value.toInt ++ ['}']]

/-- The object of a run is its parts with quotation marks between them. None of them is escaped. -/
theorem toList_json (run : Steps) : run.json.toList = List.intercalate ['"'] run.jsonParts := by
  have plain := Token.plain_displayAll
  have tokens := Json.toList_string (plain run.tokens)
  have resolved := Json.toList_string (plain run.resolved)
  have ordered := Json.toList_string (plain run.ordered)
  have names : Json.string "tokens" = "\"tokens\"" ∧ Json.string "resolved" = "\"resolved\"" ∧
      Json.string "postfix" = "\"postfix\"" ∧ Json.string "value" = "\"value\"" := by decide
  simp [json, Json.object, jsonParts, tokens, resolved, ordered, names,
    List.intercalate_cons_cons, Decimal.ofInt]

theorem quote_not_mem_jsonParts (run : Steps) : ∀ part ∈ run.jsonParts, '"' ∉ part := by
  have display : ∀ tokens, '"' ∉ (Token.displayAll tokens).toList :=
    fun tokens member => absurd (Token.plain_displayAll tokens _ member) (by decide)
  have value : '"' ∉ Decimal.numeral run.value.toInt :=
    fun member => absurd (Decimal.mem_numeral member) (by decide)
  simp [jsonParts, display, value]

theorem pieces_json (run : Steps) : Lines.pieces '"' run.json.toList = run.jsonParts := by
  rw [toList_json]
  exact Lines.pieces_intercalate (List.cons_ne_nil _ _) run.quote_not_mem_jsonParts

theorem pieces_text (run : Steps) :
    Lines.pieces '\n' run.text.toList = run.lines.map String.toList ++ [[]] := by
  rw [Session.toList_text, Session.ended]
  refine Lines.pieces_flatMap fun line member => ?_
  obtain ⟨text, among, rfl⟩ := List.mem_map.mp member
  exact run.feed_not_mem_lines text among

/-- Runs with the same object are the same: three of its parts are the displays, and the last holds
the value. -/
theorem eq_of_json {first second : Steps} (same : first.json = second.json) : first = second := by
  have parts : first.jsonParts = second.jsonParts := by
    rw [← pieces_json, same, pieces_json]
  -- the names of the members are the same in both objects, and their values are left
  simp only [jsonParts, List.cons_append, List.cons.injEq, String.toList_inj, Token.displayAll_inj,
    List.append_cancel_right_eq, true_and, and_true] at parts
  obtain ⟨tokens, resolved, ordered, numeral⟩ := parts
  have value : first.value.toInt = second.value.toInt := by
    rw [← Decimal.integer_numeral first.value.toInt, numeral, Decimal.integer_numeral]
  obtain ⟨_, _, _, _⟩ := first
  obtain ⟨_, _, _, _⟩ := second
  cases tokens
  cases resolved
  cases ordered
  cases Int64.toInt_inj.mp value
  rfl

/-- Two runs have gone through the same sequences. -/
def SameSequences (first second : Steps) : Prop :=
  first.tokens = second.tokens ∧ first.resolved = second.resolved ∧ first.ordered = second.ordered

theorem lines_inj {first second : Steps} :
    first.lines = second.lines ↔ first.SameSequences second := by
  simp [lines, SameSequences, Token.displayAll_inj]

theorem text_inj {first second : Steps} :
    first.text = second.text ↔ first.SameSequences second := by
  rw [← lines_inj]
  constructor
  · intro same
    have pieces := pieces_text first
    rw [same, pieces_text, List.append_cancel_right_eq] at pieces
    exact (List.map_injective_iff.mpr (fun _ _ => String.toList_inj.mp) pieces).symm
  · intro same
    rw [text, text, same]

end Steps

/-- The display of a sequence tells the sequence, unary and binary minus signs and negative numbers
included, and can be read back. So the three lines of a run tell its three sequences, one by one and
as a text, and the JSON object of a run tells its sequences and its value. -/
theorem display_lossless :
    (∀ tokens, Token.ofDisplay? (Token.displayAll tokens) = some tokens) ∧
    (∀ first second, Token.displayAll first = Token.displayAll second ↔ first = second) ∧
    (∀ first second : Steps, first.lines = second.lines ↔ first.SameSequences second) ∧
    (∀ first second : Steps, first.text = second.text ↔ first.SameSequences second) ∧
    ∀ first second : Steps, first.json = second.json ↔ first = second :=
  ⟨Token.ofDisplay?_displayAll, fun _ _ => Token.displayAll_inj, fun _ _ => Steps.lines_inj,
    fun _ _ => Steps.text_inj, fun _ _ => ⟨Steps.eq_of_json, congrArg Steps.json⟩⟩

end Calculator
