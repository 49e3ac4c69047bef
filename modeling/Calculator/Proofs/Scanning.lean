import Calculator.Token.Offence
import Calculator.Token.Scanner

/-!
# Scanning by the first piece of a text

A text begins with a blank, a sign, a literal or an unknown character, unless it is empty. Each of
these pieces decides one step of the scanner, so whatever holds of scanned texts is proved by
induction over the pieces.

## Main statements

* `text_induction`: the induction over the pieces of a text.
* `scanAll_literal`: a literal is read with all its digits, whatever its length.
* `answers_scanAll`: scanning fails at the first offence, and only if there is one.
* `scanAll_of_layout`: a text that lays out some tokens is scanned to them.
* `scan_layout`: where the literals of a text saturate or fit, its tokens come out; otherwise the
  first literal that does not fit is the error.
-/
namespace Calculator

open Token (IsLiteral AllBlank Layout Spells)

/-! ### Kinds of characters -/

theorem not_digit_of_blank {char : Char} (blank : isBlank char = true) : char.isDigit = false := by
  simp only [isBlank, Bool.or_eq_true, decide_eq_true_eq] at blank
  rcases blank with ((rfl | rfl) | rfl) | rfl <;> decide

theorem ofSign?_of_blank {char : Char} (blank : isBlank char = true) :
    Token.ofSign? char = none := by
  simp only [isBlank, Bool.or_eq_true, decide_eq_true_eq] at blank
  rcases blank with ((rfl | rfl) | rfl) | rfl <;> decide

/-- A character that is a token by itself is a parenthesis or the sign of a binary operator. -/
theorem sign_cases {char : Char} {token : Token} (sign : Token.ofSign? char = some token) :
    (char = '(' ∧ token = .leftParen) ∨ (char = ')' ∧ token = .rightParen) ∨
      ∃ op, char = (Operator.binary op).sign ∧ token = .operator (.binary op) := by
  unfold Token.ofSign? at sign
  split at sign <;> cases sign
  · exact .inl ⟨rfl, rfl⟩
  · exact .inr (.inl ⟨rfl, rfl⟩)
  · exact .inr (.inr ⟨.plus, rfl, rfl⟩)
  · exact .inr (.inr ⟨.minus, rfl, rfl⟩)
  · exact .inr (.inr ⟨.times, rfl, rfl⟩)
  · exact .inr (.inr ⟨.divide, rfl, rfl⟩)

theorem not_digit_of_sign {char : Char} {token : Token} (sign : Token.ofSign? char = some token) :
    char.isDigit = false := by
  rcases sign_cases sign with ⟨rfl, -⟩ | ⟨rfl, -⟩ | ⟨op, rfl, -⟩
  · decide
  · decide
  · cases op <;> decide

theorem ofSign?_of_digit {char : Char} (digit : char.isDigit = true) :
    Token.ofSign? char = none := by
  cases sign : Token.ofSign? char with
  | none => rfl
  | some token => simp [not_digit_of_sign sign] at digit

theorem legal_iff (char : Char) :
    Legal char ↔
      char.isDigit = true ∨ (Token.ofSign? char).isSome = true ∨ isBlank char = true := by
  have signs : char ∈ ['(', ')', '+', '-', '*', '/'] ↔ (Token.ofSign? char).isSome = true := by
    constructor
    · intro member
      simp only [List.mem_cons, List.not_mem_nil, or_false] at member
      rcases member with rfl | rfl | rfl | rfl | rfl | rfl <;> decide
    · intro found
      obtain ⟨token, sign⟩ := Option.isSome_iff_exists.mp found
      rcases sign_cases sign with ⟨rfl, -⟩ | ⟨rfl, -⟩ | ⟨op, rfl, -⟩
      · decide
      · decide
      · cases op <;> decide
  rw [Legal, signs]

def startsWithDigit (text : List Char) : Bool := text.head?.any Char.isDigit

/-! ### The longest literal at the beginning of a text -/

theorem takeWhile_of_not_startsWithDigit {rest : List Char} (ends : startsWithDigit rest = false) :
    rest.takeWhile Char.isDigit = [] := by
  cases rest with
  | nil => rfl
  | cons char rest =>
    have other : char.isDigit = false := by simpa [startsWithDigit] using ends
    simp [other]

theorem takeWhile_literal {literal rest : List Char} (isLiteral : IsLiteral literal)
    (ends : startsWithDigit rest = false) :
    (literal ++ rest).takeWhile Char.isDigit = literal := by
  rw [List.takeWhile_append_of_pos isLiteral.2, takeWhile_of_not_startsWithDigit ends,
    List.append_nil]

theorem dropWhile_literal {literal rest : List Char} (isLiteral : IsLiteral literal)
    (ends : startsWithDigit rest = false) :
    (literal ++ rest).dropWhile Char.isDigit = rest := by
  have whole := List.takeWhile_append_dropWhile (p := Char.isDigit) (l := literal ++ rest)
  rw [takeWhile_literal isLiteral ends] at whole
  exact List.append_cancel_left whole

theorem startsWithDigit_dropWhile (text : List Char) :
    startsWithDigit (text.dropWhile Char.isDigit) = false := by
  induction text with
  | nil => rfl
  | cons char rest ih =>
    rw [List.dropWhile_cons]
    split
    · exact ih
    next other => simpa [startsWithDigit] using other

theorem isLiteral_takeWhile {char : Char} (digit : char.isDigit = true) (rest : List Char) :
    IsLiteral ((char :: rest).takeWhile Char.isDigit) := by
  constructor
  · simp [digit]
  · intro other member
    exact List.all_eq_true.mp List.all_takeWhile other member

/-- Induction over the pieces of a text. A literal is taken with all its digits, so what follows it
does not begin with another one. -/
theorem text_induction {motive : List Char → Prop} (nil : motive [])
    (blank : ∀ char rest, isBlank char = true → motive rest → motive (char :: rest))
    (sign : ∀ char rest token, Token.ofSign? char = some token → motive rest →
      motive (char :: rest))
    (literal : ∀ literal rest, IsLiteral literal → startsWithDigit rest = false → motive rest →
      motive (literal ++ rest))
    (unknown : ∀ char rest, ¬ Legal char → motive (char :: rest)) (text : List Char) :
    motive text := by
  -- by length, since a literal takes more than one character
  match text with
  | [] => exact nil
  | char :: rest =>
    by_cases isLegal : Legal char
    · rcases (legal_iff char).mp isLegal with digit | found | isBlank
      · have shorter := (List.dropWhile_sublist (p := Char.isDigit) (l := rest)).length_le
        have later : motive ((char :: rest).dropWhile Char.isDigit) := by
          rw [List.dropWhile_cons, if_pos digit]
          exact text_induction nil blank sign literal unknown (rest.dropWhile Char.isDigit)
        rw [← List.takeWhile_append_dropWhile (p := Char.isDigit) (l := char :: rest)]
        exact literal _ _ (isLiteral_takeWhile digit rest) (startsWithDigit_dropWhile _) later
      · obtain ⟨token, isSign⟩ := Option.isSome_iff_exists.mp found
        exact sign char rest token isSign (text_induction nil blank sign literal unknown rest)
      · exact blank char rest isBlank (text_induction nil blank sign literal unknown rest)
    · exact unknown char rest isLegal
termination_by text.length
decreasing_by
  all_goals simp only [List.length_cons]; omega

/-! ### Steps of the scanner -/

namespace Scanner

/-- The readings of a scanner are those of its calls one after another, up to the first that
finishes or fails. -/
theorem readings_next (scanner : Scanner) :
    scanner.readings =
      match scanner.next with
      | (.found token start, later) => .found token start :: later.readings
      | (.saturated literal start, later) => .saturated literal start :: later.readings
      | (reading, _) => [reading] := by
  rw [readings]
  split
  next step => rw [step]
  next step => rw [step]
  next reading later other another step =>
    rw [step]
    cases reading with
    | finished | failed _ => rfl
    | found token start => exact absurd rfl (other token start)
    | saturated literal start => exact absurd rfl (another literal start)

/-- What is scanned is told by the next call and what is scanned after it. The laws of the pieces
below are all read off this equation. -/
theorem scanAll_next (scanner : Scanner) :
    scanner.scanAll =
      match scanner.next with
      | (.finished, _) => .ok []
      | (.found token _, later) => later.scanAll.map (token :: ·)
      | (.saturated _ _, later) => later.scanAll.map (.number Value.largest :: ·)
      | (.failed error, _) => .error error := by
  rw [scanAll, readings_next]
  obtain ⟨reading, later⟩ := scanner.next
  cases reading <;> rfl

variable {overflow : OverflowPolicy} {position : Position}

theorem next_of_not_blank {char : Char} (visible : isBlank char = false) (rest : List Char) :
    next ⟨⟨char :: rest, position⟩, overflow⟩ =
      let step := readAt overflow ⟨char :: rest, position⟩ char
      (step.1, ⟨step.2, overflow⟩) := by
  simp only [next, Cursor.skipWhile_cons_of_neg visible]
  rfl

theorem not_blank_of_sign {char : Char} {token : Token} (sign : Token.ofSign? char = some token) :
    isBlank char = false := by
  cases blank : isBlank char with
  | false => rfl
  | true => simp [ofSign?_of_blank blank] at sign

theorem not_blank_of_digit {char : Char} (digit : char.isDigit = true) : isBlank char = false := by
  cases blank : isBlank char with
  | false => rfl
  | true => simp [not_digit_of_blank blank] at digit

theorem readAt_digit {first : Char} {digits rest : List Char}
    (isLiteral : IsLiteral (first :: digits)) (ends : startsWithDigit rest = false) :
    readAt overflow ⟨first :: digits ++ rest, position⟩ first =
      (Reading.ofLiteral overflow (first :: digits) position,
        ⟨rest, position.advanceAll (first :: digits)⟩) := by
  have digit : first.isDigit = true := isLiteral.2 first List.mem_cons_self
  simp only [readAt, ofSign?_of_digit digit]
  rw [if_pos digit]
  simp only [Cursor.takeWhile, Cursor.past, takeWhile_literal isLiteral ends,
    dropWhile_literal isLiteral ends]

theorem next_literal {literal rest : List Char} (isLiteral : IsLiteral literal)
    (ends : startsWithDigit rest = false) :
    next ⟨⟨literal ++ rest, position⟩, overflow⟩ =
      (Reading.ofLiteral overflow literal position,
        ⟨⟨rest, position.advanceAll literal⟩, overflow⟩) := by
  obtain ⟨first, digits, rfl⟩ := List.exists_cons_of_ne_nil isLiteral.1
  have visible := not_blank_of_digit (isLiteral.2 first List.mem_cons_self)
  rw [List.cons_append, next_of_not_blank visible, ← List.cons_append, readAt_digit isLiteral ends]

/-! ### What is read of each piece -/

theorem readings_nil : readings ⟨⟨[], position⟩, overflow⟩ = [.finished] := by
  rw [readings_next]
  rfl

theorem readings_blank {char : Char} (blank : isBlank char = true) (rest : List Char) :
    readings ⟨⟨char :: rest, position⟩, overflow⟩ =
      readings ⟨⟨rest, position.advance char⟩, overflow⟩ := by
  rw [readings_next, readings_next ⟨⟨rest, _⟩, _⟩]
  simp only [next, Cursor.skipWhile_cons_of_pos blank]

theorem readings_sign {char : Char} {token : Token} (sign : Token.ofSign? char = some token)
    (rest : List Char) :
    readings ⟨⟨char :: rest, position⟩, overflow⟩ =
      .found token position :: readings ⟨⟨rest, position.advance char⟩, overflow⟩ := by
  rw [readings_next, next_of_not_blank (not_blank_of_sign sign)]
  simp only [readAt, sign]
  rfl

theorem readings_literal {literal rest : List Char} {value : Value} (isLiteral : IsLiteral literal)
    (ends : startsWithDigit rest = false) (denotes : Decimal.value literal = value.toInt) :
    readings ⟨⟨literal ++ rest, position⟩, overflow⟩ =
      .found (.number value) position ::
        readings ⟨⟨rest, position.advanceAll literal⟩, overflow⟩ := by
  have found : Reading.ofLiteral overflow literal position = .found (.number value) position := by
    rw [Reading.ofLiteral, denotes, Value.ofInt?_toInt]
    rfl
  rw [readings_next, next_literal isLiteral ends, found]

/-- The one place where the policy is asked: a literal too large for a value ends the reading or is
saturated. -/
theorem readings_tooLarge {literal rest : List Char} (isLiteral : IsLiteral literal)
    (ends : startsWithDigit rest = false) (large : Value.largest.toInt < Decimal.value literal) :
    readings ⟨⟨literal ++ rest, position⟩, overflow⟩ =
      match overflow with
      | .reject => [.failed (.literalOverflow literal position)]
      | .saturate =>
        .saturated literal position ::
          readings ⟨⟨rest, position.advanceAll literal⟩, .saturate⟩ := by
  have outside : Value.ofInt? (Decimal.value literal) = none := by
    rw [Value.ofInt?_eq_none_iff]
    right
    exact large
  rw [readings_next, next_literal isLiteral ends, Reading.ofLiteral, outside]
  cases overflow <;> rfl

theorem readings_unknown {char : Char} (unknown : ¬ Legal char) (rest : List Char) :
    readings ⟨⟨char :: rest, position⟩, overflow⟩ =
      [.failed (.unknownCharacter char position)] := by
  rw [legal_iff, not_or, not_or] at unknown
  obtain ⟨noDigit, noSign, noBlank⟩ := unknown
  rw [readings_next, next_of_not_blank (Bool.eq_false_iff.mpr noBlank)]
  simp only [readAt, Option.not_isSome_iff_eq_none.mp noSign, if_neg noDigit]

/-! ### What is scanned of each piece -/

theorem scanAll_nil : scanAll ⟨⟨[], position⟩, overflow⟩ = .ok [] := by
  rw [scanAll, readings_nil]
  rfl

theorem scanAll_blank {char : Char} (blank : isBlank char = true) (rest : List Char) :
    scanAll ⟨⟨char :: rest, position⟩, overflow⟩ =
      scanAll ⟨⟨rest, position.advance char⟩, overflow⟩ := by
  rw [scanAll, scanAll, readings_blank blank]

theorem scanAll_blanks {blanks : List Char} (allBlank : AllBlank blanks) (rest : List Char)
    (position : Position) :
    scanAll ⟨⟨blanks ++ rest, position⟩, overflow⟩ =
      scanAll ⟨⟨rest, position.advanceAll blanks⟩, overflow⟩ := by
  induction blanks generalizing position with
  | nil => rfl
  | cons char blanks ih =>
    have others : AllBlank blanks :=
      fun other member => allBlank other (List.mem_cons_of_mem _ member)
    rw [List.cons_append, scanAll_blank (allBlank char List.mem_cons_self), ih others]
    rfl

theorem scanAll_sign {char : Char} {token : Token} (sign : Token.ofSign? char = some token)
    (rest : List Char) :
    scanAll ⟨⟨char :: rest, position⟩, overflow⟩ =
      (scanAll ⟨⟨rest, position.advance char⟩, overflow⟩).map (token :: ·) := by
  rw [scanAll, readings_sign sign]
  rfl

theorem scanAll_literal {literal rest : List Char} {value : Value} (isLiteral : IsLiteral literal)
    (ends : startsWithDigit rest = false) (denotes : Decimal.value literal = value.toInt) :
    scanAll ⟨⟨literal ++ rest, position⟩, overflow⟩ =
      (scanAll ⟨⟨rest, position.advanceAll literal⟩, overflow⟩).map (.number value :: ·) := by
  rw [scanAll, readings_literal isLiteral ends denotes]
  rfl

theorem scanAll_tooLarge {literal rest : List Char} (isLiteral : IsLiteral literal)
    (ends : startsWithDigit rest = false) (large : Value.largest.toInt < Decimal.value literal) :
    scanAll ⟨⟨literal ++ rest, position⟩, overflow⟩ =
      match overflow with
      | .reject => .error (.literalOverflow literal position)
      | .saturate =>
        (scanAll ⟨⟨rest, position.advanceAll literal⟩, .saturate⟩).map
          (.number Value.largest :: ·) := by
  rw [scanAll, readings_tooLarge isLiteral ends large]
  cases overflow <;> rfl

theorem scanAll_unknown {char : Char} (unknown : ¬ Legal char) (rest : List Char) :
    scanAll ⟨⟨char :: rest, position⟩, overflow⟩ =
      .error (.unknownCharacter char position) := by
  rw [scanAll, readings_unknown unknown]
  rfl

end Scanner

/-! ### The first offence -/

/-- Between two pieces of the text a literal is split exactly when digits stand on both sides. -/
theorem splitsLiteral_iff {literal : List Char} (isLiteral : IsLiteral literal) (rest : List Char) :
    SplitsLiteral literal rest ↔ startsWithDigit rest = true := by
  -- a literal ends with a digit, so only the next character matters
  have last : literal.getLast?.any Char.isDigit = true := by
    rw [List.getLast?_eq_some_getLast isLiteral.1]
    exact isLiteral.2 _ (List.getLast_mem isLiteral.1)
  rw [SplitsLiteral, last, startsWithDigit]
  simp

theorem splits_append {before literal rest : List Char} (isLiteral : IsLiteral literal)
    (splits : SplitsLiteral before literal) : SplitsLiteral before (literal ++ rest) := by
  refine ⟨splits.1, ?_⟩
  obtain ⟨first, digits, rfl⟩ := List.exists_cons_of_ne_nil isLiteral.1
  exact splits.2

theorem not_splits_after_char {before : List Char} {char : Char} (other : char.isDigit = false)
    {rest : List Char} : ¬ SplitsLiteral (before ++ [char]) rest := by
  intro splits
  simp [SplitsLiteral, other] at splits

theorem not_splits_before {rest : List Char} (ends : startsWithDigit rest = false)
    (before : List Char) : ¬ SplitsLiteral before rest :=
  fun splits => Bool.false_ne_true (ends.symm.trans splits.2)

/-- Where large literals are rejected, one that is taken with all its digits is an offence. -/
theorem offence_tooLarge {before literal rest : List Char} (isLiteral : IsLiteral literal)
    (whole : ¬ SplitsLiteral before (literal ++ rest)) (ends : startsWithDigit rest = false)
    (large : Value.largest.toInt < Decimal.value literal) :
    Offence .reject (before ++ (literal ++ rest)) before
      (.literalOverflow literal (.after before)) :=
  .tooLarge rfl (List.append_assoc _ _ _).symm isLiteral
    (fun splits => whole (splits_append isLiteral splits)) (not_splits_before ends literal) large

/-- An offence that begins in the second part of a text, seen from the beginning of this part. -/
theorem offence_cases {policy : OverflowPolicy} {before rest place : List Char} {error : ScanError}
    (offence : Offence policy (before ++ rest) place error)
    (later : before.length ≤ place.length) :
    ∃ gap tail, place = before ++ gap ∧ rest = gap ++ tail ∧
      ((∃ char others, tail = char :: others ∧ ¬ Legal char) ∨
        ∃ literal others, tail = literal ++ others ∧ policy = .reject ∧ IsLiteral literal ∧
          ¬ SplitsLiteral place literal ∧ startsWithDigit others = false ∧
          Value.largest.toInt < Decimal.value literal) := by
  -- the part before the offence contains `before`, so the offence is one in `rest`
  have within : ∀ tail, before ++ rest = place ++ tail →
      ∃ gap, place = before ++ gap ∧ rest = gap ++ tail := by
    intro tail same
    rcases List.append_eq_append_iff.mp same with ⟨gap, rfl, rfl⟩ | ⟨gap, rfl, rfl⟩
    · exact ⟨gap, rfl, rfl⟩
    · -- `place` is not shorter than `before`, so nothing lies between them
      have empty : gap = [] := by
        rw [List.length_append] at later
        exact List.eq_nil_of_length_eq_zero (by omega)
      subst empty
      exact ⟨[], by simp, by simp⟩
  cases offence with
  | unknown split illegal =>
    obtain ⟨gap, here, there⟩ := within _ split
    exact ⟨gap, _, here, there, .inl ⟨_, _, rfl, illegal⟩⟩
  | tooLarge rejects split isLiteral starts ends large =>
    rw [List.append_assoc] at split
    obtain ⟨gap, here, there⟩ := within _ split
    rw [splitsLiteral_iff isLiteral, Bool.not_eq_true] at ends
    exact ⟨gap, _, here, there, .inr ⟨_, _, rfl, rejects, isLiteral, starts, ends, large⟩⟩

/-- A legal character other than a digit is no offence, so that an offence not before it lies after
it. -/
theorem offence_after_char {policy : OverflowPolicy} {before rest place : List Char} {char : Char}
    {error : ScanError} (legal : Legal char) (other : char.isDigit = false)
    (offence : Offence policy (before ++ char :: rest) place error)
    (later : before.length ≤ place.length) : (before ++ [char]).length ≤ place.length := by
  obtain ⟨gap, tail, rfl, same, kind⟩ := offence_cases offence later
  cases gap with
  | cons first gap =>
    simp only [List.length_append, List.length_cons, List.length_nil]
    omega
  | nil =>
    rcases kind with ⟨first, others, rfl, illegal⟩ | ⟨literal, others, rfl, -, isLiteral, -⟩
    · cases same
      exact absurd legal illegal
    · obtain ⟨first, digits, rfl⟩ := List.exists_cons_of_ne_nil isLiteral.1
      cases same
      exact absurd (isLiteral.2 char List.mem_cons_self) (by simp [other])

/-- A literal within the range is no offence, and neither is any place inside it. -/
theorem offence_after_literal {policy : OverflowPolicy} {before literal rest place : List Char}
    {error : ScanError} (isLiteral : IsLiteral literal) (ends : startsWithDigit rest = false)
    (allowed : policy = .reject → (Decimal.value literal : Int) ≤ Value.largest.toInt)
    (offence : Offence policy (before ++ (literal ++ rest)) place error)
    (later : before.length ≤ place.length) : (before ++ literal).length ≤ place.length := by
  obtain ⟨gap, tail, rfl, same, kind⟩ := offence_cases offence later
  apply Nat.le_of_not_lt
  intro short
  simp only [List.length_append] at short
  -- the offence begins at a digit of the literal
  rcases List.append_eq_append_iff.mp same with ⟨more, rfl, rfl⟩ | ⟨more, rfl, rfl⟩
  · simp only [List.length_append] at short
    omega
  cases more with
  | nil => simp at short
  | cons digit more =>
    have isDigit : digit.isDigit = true := isLiteral.2 digit (by simp)
    rcases kind with ⟨char, others, shape, illegal⟩ | ⟨other, others, shape, rejects, whole, starts,
      stops, large⟩
    · cases shape
      exact illegal (.inl isDigit)
    · cases gap with
      | nil =>
        -- both literals are taken with all their digits, so they are the same
        have taken := takeWhile_literal isLiteral ends
        simp only [List.nil_append] at taken shape allowed
        rw [shape, takeWhile_literal whole stops] at taken
        subst taken
        exact absurd (allowed rejects) (by omega)
      | cons first gap =>
        -- the other literal would begin between two digits
        apply starts
        obtain ⟨head, digits, rfl⟩ := List.exists_cons_of_ne_nil whole.1
        constructor
        · rw [List.getLast?_append, List.getLast?_eq_some_getLast (List.cons_ne_nil first gap),
            Option.some_or]
          exact isLiteral.2 _ (List.mem_append_left _ (List.getLast_mem _))
        · exact whole.2 head List.mem_cons_self

/-- What is answered about the part of a text from `low` characters on: its first offence, or tokens
if it has none. -/
def Answers (policy : OverflowPolicy) (text : List Char) (low : Nat) :
    Except ScanError (List Token) → Prop
  | .ok _ => ∀ place error, Offence policy text place error → place.length < low
  | .error error => ∃ place, Offence policy text place error ∧
      ∀ other otherError, Offence policy text other otherError → low ≤ other.length →
        place.length ≤ other.length

/-- The answer about a later part of a text is that about an earlier one, if no offence begins
between them; further tokens in front make no difference. -/
theorem Answers.earlier {policy : OverflowPolicy} {text : List Char} {low high : Nat}
    {result : Except ScanError (List Token)} (answers : Answers policy text high result)
    (clear : ∀ place error, Offence policy text place error → low ≤ place.length →
      high ≤ place.length) (token : Token) :
    Answers policy text low result ∧ Answers policy text low (result.map (token :: ·)) := by
  cases result with
  | error error =>
    obtain ⟨place, offence, first⟩ := answers
    -- an offence from `low` on begins from `high` on as well
    have firstFromLow : ∀ other otherError, Offence policy text other otherError →
        low ≤ other.length → place.length ≤ other.length :=
      fun other otherError found bound => first other otherError found (clear _ _ found bound)
    exact ⟨⟨place, offence, firstFromLow⟩, ⟨place, offence, firstFromLow⟩⟩
  | ok tokens =>
    have clean : ∀ place error, Offence policy text place error → place.length < low := by
      intro place error offence
      apply Nat.lt_of_not_le
      intro bound
      have beyond := clear place error offence bound
      have below := answers place error offence
      omega
    exact ⟨clean, clean⟩

/-- From a place that splits no literal on, the scanner answers for the rest of the text: it fails
with the first offence there, or there is none. The induction goes over the pieces of the text, with
the part already read as the invariant. -/
theorem answers_scanAll (policy : OverflowPolicy) (before rest : List Char)
    (whole : ¬ SplitsLiteral before rest) :
    Answers policy (before ++ rest) before.length
      (Scanner.scanAll ⟨⟨rest, .after before⟩, policy⟩) := by
  -- induction on the pieces of the unread part; each piece that is read moves to `before`
  induction rest using text_induction generalizing before with
  | nil =>
    rw [Scanner.scanAll_nil]
    intro place error offence
    apply Nat.lt_of_not_le
    intro later
    obtain ⟨gap, tail, -, same, kind⟩ := offence_cases offence later
    rcases kind with ⟨char, others, rfl, -⟩ | ⟨literal, others, rfl, -, isLiteral, -⟩
    · simp at same
    · simp [isLiteral.1] at same
  | blank char rest blank ih =>
    have legal : Legal char := (legal_iff char).mpr (.inr (.inr blank))
    have later := ih (before ++ [char]) (not_splits_after_char (not_digit_of_blank blank))
    rw [Scanner.scanAll_blank blank, ← Position.after_append_singleton]
    rw [List.append_assoc] at later
    exact (later.earlier (fun _ _ => offence_after_char legal (not_digit_of_blank blank))
      .leftParen).1
  | sign char rest token sign ih =>
    have legal : Legal char := (legal_iff char).mpr (.inr (.inl (Option.isSome_of_eq_some sign)))
    have later := ih (before ++ [char]) (not_splits_after_char (not_digit_of_sign sign))
    rw [Scanner.scanAll_sign sign, ← Position.after_append_singleton]
    rw [List.append_assoc] at later
    exact (later.earlier (fun _ _ => offence_after_char legal (not_digit_of_sign sign)) token).2
  | literal literal rest isLiteral ends ih =>
    have later := ih (before ++ literal) (not_splits_before ends _)
    rw [List.append_assoc, ← Position.advanceAll_after] at later
    by_cases large : Value.largest.toInt < Decimal.value literal
    · rw [Scanner.scanAll_tooLarge isLiteral ends large]
      cases policy with
      | reject =>
        exact ⟨before, offence_tooLarge isLiteral whole ends large, fun _ _ _ after => after⟩
      | saturate =>
        have allowed : OverflowPolicy.saturate = .reject →
            (Decimal.value literal : Int) ≤ Value.largest.toInt := by
          intro absurd
          cases absurd
        exact (later.earlier (fun _ _ => offence_after_literal isLiteral ends allowed)
          (.number Value.largest)).2
    · have fits := Int.not_lt.mp large
      obtain ⟨value, denotes⟩ := Value.exists_toInt_of_le fits
      rw [Scanner.scanAll_literal isLiteral ends denotes]
      exact (later.earlier (fun _ _ => offence_after_literal isLiteral ends (fun _ => fits))
        (.number value)).2
  | unknown char rest illegal =>
    rw [Scanner.scanAll_unknown illegal]
    exact ⟨before, .unknown rfl illegal, fun _ _ _ later => later⟩

/-- A scan fails only with the first offence of the source. -/
theorem firstOffence_of_error {source : String} {policy : OverflowPolicy} {error : ScanError}
    (failed : scan source policy = .error error) : FirstOffence policy source.toList error := by
  have whole : ¬ SplitsLiteral [] source.toList := by simp [SplitsLiteral]
  have answers := answers_scanAll policy [] source.toList whole
  change Answers _ _ _ (scan source policy) at answers
  rw [failed] at answers
  obtain ⟨place, offence, first⟩ := answers
  exact ⟨place, offence, fun other otherError found => first other otherError found (Nat.zero_le _)⟩

theorem no_offence_of_ok {source : String} {policy : OverflowPolicy} {tokens : List Token}
    (scanned : scan source policy = .ok tokens) (place : List Char) (error : ScanError) :
    ¬ Offence policy source.toList place error := by
  intro offence
  have whole : ¬ SplitsLiteral [] source.toList := by simp [SplitsLiteral]
  have answers := answers_scanAll policy [] source.toList whole
  change Answers _ _ _ (scan source policy) at answers
  rw [scanned] at answers
  exact absurd (answers place error offence) (Nat.not_lt_zero _)

theorem legal_of_scan {source : String} {policy : OverflowPolicy} {tokens : List Token}
    (scanned : scan source policy = .ok tokens) : ∀ char ∈ source.toList, Legal char := by
  intro char member
  apply Classical.byContradiction
  intro illegal
  obtain ⟨before, rest, split⟩ := List.append_of_mem member
  exact no_offence_of_ok scanned before _ (.unknown split illegal)

/-! ### Layouts -/

theorem allBlank_nil : AllBlank [] := fun _ member => by cases member

theorem allBlank_cons {char : Char} {blanks : List Char} (blank : isBlank char = true)
    (allBlank : AllBlank blanks) : AllBlank (char :: blanks) :=
  List.forall_mem_cons.mpr ⟨blank, allBlank⟩

theorem layout_blank {policy : OverflowPolicy} {char : Char} {text : List Char}
    {tokens : List Token} (blank : isBlank char = true) (layout : Layout policy text tokens) :
    Layout policy (char :: text) tokens := by
  cases layout with
  | blanks allBlank => exact .blanks (allBlank_cons blank allBlank)
  | token allBlank spells rest apart => exact .token (allBlank_cons blank allBlank) spells rest apart

/-- The spelling of a token may be put before a layout, unless two literals would run together. -/
theorem layout_spells {policy : OverflowPolicy} {text rest : List Char} {token : Token}
    {later : List Token} (spells : Spells policy text token) (layout : Layout policy rest later)
    (apart : token.isNumber = true → Token.startsWithNumber later = true →
      rest.head?.any isBlank = true) : Layout policy (text ++ rest) (token :: later) :=
  .token allBlank_nil spells layout apart

theorem ofSign?_sign (op : BinaryOperator) :
    Token.ofSign? (Operator.binary op).sign = some (.operator (.binary op)) := by
  cases op <;> rfl

/-- What spells a token is scanned to that token, if a literal is not continued after it. -/
theorem Scanner.scanAll_spells {policy : OverflowPolicy} {text rest : List Char} {token : Token}
    (spells : Spells policy text token)
    (ends : token.isNumber = true → startsWithDigit rest = false) (position : Position) :
    scanAll ⟨⟨text ++ rest, position⟩, policy⟩ =
      (scanAll ⟨⟨rest, position.advanceAll text⟩, policy⟩).map (token :: ·) := by
  cases spells with
  | leftParen | rightParen => exact scanAll_sign rfl rest
  | operator op => exact scanAll_sign (ofSign?_sign op) rest
  | number isLiteral denotes => exact scanAll_literal isLiteral (ends rfl) denotes
  | saturated isLiteral saturates large =>
    subst saturates
    exact scanAll_tooLarge isLiteral (ends rfl) large

theorem startsWithNumber_of_digit {policy : OverflowPolicy} {text : List Char}
    {tokens : List Token} (layout : Layout policy text tokens)
    (digit : startsWithDigit text = true) : Token.startsWithNumber tokens = true := by
  cases layout with
  | blanks allBlank =>
    cases text with
    | nil => cases digit
    | cons char rest =>
      have other := not_digit_of_blank (allBlank char List.mem_cons_self)
      simp [startsWithDigit, other] at digit
  | @token blanks spelled rest token later allBlank spells _ _ =>
    cases blanks with
    | cons char blanks =>
      have other := not_digit_of_blank (allBlank char List.mem_cons_self)
      simp [startsWithDigit, other] at digit
    | nil =>
      cases spells with
      | leftParen | rightParen => cases digit
      | operator op => cases op <;> cases digit
      | number | saturated => rfl

/-- A layout of a sequence is scanned to it from any position. -/
theorem Scanner.scanAll_of_layout {policy : OverflowPolicy} {text : List Char}
    {tokens : List Token} (layout : Layout policy text tokens) (position : Position) :
    scanAll ⟨⟨text, position⟩, policy⟩ = .ok tokens := by
  induction layout generalizing position with
  | @blanks text allBlank =>
    have skipped : scanAll ⟨⟨text ++ [], position⟩, policy⟩ = _ :=
      scanAll_blanks allBlank [] position
    rw [List.append_nil] at skipped
    rw [skipped, scanAll_nil]
  | @token blanks text rest token later allBlank spells layout apart ih =>
    -- a number is read to its end, because a blank parts it from a number that comes next
    have ends : token.isNumber = true → startsWithDigit rest = false := by
      intro number
      apply Bool.eq_false_iff.mpr
      intro digit
      have blank := apart number (startsWithNumber_of_digit layout digit)
      cases rest with
      | nil => cases blank
      | cons char rest =>
        have other : char.isDigit = false := not_digit_of_blank (by simpa using blank)
        simp [startsWithDigit, other] at digit
    rw [List.append_assoc, scanAll_blanks allBlank, scanAll_spells spells ends, ih]
    rfl

/-- The policy for large literals makes a difference only to a scan that rejects one of them. -/
theorem Scanner.scanAll_saturate_or (text : List Char) (position : Position) :
    (∃ literal place,
      scanAll ⟨⟨text, position⟩, .reject⟩ = .error (.literalOverflow literal place)) ∨
    scanAll ⟨⟨text, position⟩, .saturate⟩ = scanAll ⟨⟨text, position⟩, .reject⟩ := by
  -- both scans read the same pieces until a literal is too large
  induction text using text_induction generalizing position with
  | nil => exact .inr (scanAll_nil.trans scanAll_nil.symm)
  | blank char rest blank ih =>
    rw [scanAll_blank blank, scanAll_blank blank]
    exact ih _
  | sign char rest token sign ih =>
    rw [scanAll_sign sign, scanAll_sign sign]
    rcases ih (position.advance char) with ⟨literal, place, rejected⟩ | same
    · exact .inl ⟨literal, place, by rw [rejected]; rfl⟩
    · exact .inr (by rw [same])
  | literal literal rest isLiteral ends ih =>
    by_cases large : Value.largest.toInt < Decimal.value literal
    · exact .inl ⟨literal, position, scanAll_tooLarge isLiteral ends large⟩
    · obtain ⟨value, denotes⟩ := Value.exists_toInt_of_le (Int.not_lt.mp large)
      rw [scanAll_literal isLiteral ends denotes, scanAll_literal isLiteral ends denotes]
      rcases ih (position.advanceAll literal) with ⟨other, place, rejected⟩ | same
      · exact .inl ⟨other, place, by rw [rejected]; rfl⟩
      · exact .inr (by rw [same])
  | unknown char rest illegal =>
    exact .inr ((scanAll_unknown illegal rest).trans (scanAll_unknown illegal rest).symm)

/-- What is scanned without saturating a literal is scanned alike where literals saturate. -/
theorem Scanner.scanAll_saturate {text : List Char} {position : Position} {tokens : List Token}
    (scanned : scanAll ⟨⟨text, position⟩, .reject⟩ = .ok tokens) :
    scanAll ⟨⟨text, position⟩, .saturate⟩ = .ok tokens := by
  rcases scanAll_saturate_or text position with ⟨literal, place, rejected⟩ | same
  · rw [scanned] at rejected
    cases rejected
  · exact same.trans scanned

/-- Every literal of a text, taken with all its digits, denotes a value. -/
def LiteralsFit (text : List Char) : Prop :=
  ∀ before literal rest, text = before ++ literal ++ rest → IsLiteral literal →
    ¬ SplitsLiteral before literal → ¬ SplitsLiteral literal rest →
      (Decimal.value literal : Int) ≤ Value.largest.toInt

/-- The literals of a text can be read under a policy: they saturate, or all of them fit. -/
def Readable (policy : OverflowPolicy) (text : List Char) : Prop :=
  policy = .saturate ∨ LiteralsFit text

/-- The tokens that a text lays out where literals saturate come out of the scanner if its literals
can be read. Otherwise the scan fails at the first literal that does not fit. -/
theorem scan_layout {source : String} {tokens : List Token}
    (layout : Layout .saturate source.toList tokens) (policy : OverflowPolicy) :
    (Readable policy source.toList ∧ scan source policy = .ok tokens) ∨
    (¬ Readable policy source.toList ∧
      ∃ literal position, FirstOffence policy source.toList (.literalOverflow literal position) ∧
        scan source policy = .error (.literalOverflow literal position)) := by
  have saturates : scan source .saturate = .ok tokens := Scanner.scanAll_of_layout layout .start
  cases policy with
  | saturate => exact .inl ⟨.inl rfl, saturates⟩
  | reject =>
    cases scanned : scan source .reject with
    | ok others =>
      left
      have same : scan source .saturate = .ok others := Scanner.scanAll_saturate scanned
      rw [saturates, Except.ok.injEq] at same
      refine ⟨.inr ?_, congrArg _ same.symm⟩
      -- a literal that does not fit would be an offence
      intro before literal rest split isLiteral starts ends
      apply Int.not_lt.mp
      intro large
      exact no_offence_of_ok scanned before _ (.tooLarge rfl split isLiteral starts ends large)
    | error error =>
      right
      have first := firstOffence_of_error scanned
      obtain ⟨place, offence, -⟩ := id first
      cases offence with
      | unknown split illegal =>
        -- an unknown character would stop the other scan as well
        exact absurd (.unknown split illegal) (no_offence_of_ok saturates place _)
      | tooLarge rejects split isLiteral starts ends large =>
        refine ⟨?_, _, _, first, rfl⟩
        rintro (saturate | fit)
        · cases saturate
        · exact absurd (fit _ _ _ split isLiteral starts ends) (Int.not_le.mpr large)

end Calculator
