import Calculator.Proofs.Acceptance
import Calculator.Proofs.Reordering
import Calculator.Token.Printer

/-!
# Reading what was rendered

A sequence of tokens is rendered as their spellings with a space between any two, so each spelling
is read by itself. That gives the token again, but for two kinds of tokens which no text is scanned
to: a unary minus is spelled like a binary one, and a negative number is read as a minus sign before
a number. The least value is the only one that cannot be read back at all: without their sign, its
digits are a literal that is too large.

Resolution makes a minus unary only where the tokens around it say so. So rendering a resolved
sequence forgets nothing that resolution would not find again.

## Main statements

* `scanAll_spaced`: some spellings in a row are read token by token, whatever comes behind them.
* `scan_render`: what can come out of a scan is scanned again from its rendering.
* `scan_render_iff`: what the rendering of any sequence is scanned to.
* `evaluatePostfix_render`: a postfix form is evaluated alike when it is rendered and read again.
* `evaluate_render`: a text may be replaced by the rendering of its resolved tokens.
-/
namespace Calculator

open Token (IsLiteral Layout Spells)

namespace Token

/-- The tokens that the spelling of a token is read as. -/
def reread : Token → List Token
  | .operator .negate => [.binaryMinus]
  | .number value => if value.toInt < 0 then [.binaryMinus, .number (-value)] else [.number value]
  | token => [token]

theorem reread_of_scannable {token : Token} (scannable : Scannable token) :
    token.reread = [token] := by
  obtain ⟨noUnary, nonneg⟩ := scannable
  cases token with
  | leftParen | rightParen => rfl
  | number value => exact if_neg (Int.not_lt.mpr (nonneg value rfl))
  | operator op =>
    cases op with
    | negate => exact absurd rfl noUnary
    | binary op => rfl

theorem flatMap_reread {tokens : List Token} (scannable : ∀ token ∈ tokens, Scannable token) :
    tokens.flatMap reread = tokens := by
  induction tokens with
  | nil => rfl
  | cons token later ih =>
    obtain ⟨first, others⟩ := List.forall_mem_cons.mp scannable
    rw [List.flatMap_cons, reread_of_scannable first, ih others]
    rfl

/-! ### Spellings in a row -/

variable {policy : OverflowPolicy}

theorem isLiteral_digits (n : Nat) : IsLiteral (Decimal.digits n) :=
  ⟨Nat.toDigits_ne_nil, fun _ member => Decimal.isDigit_of_mem_digits member⟩

theorem spells_digits {n : Nat} {value : Value} (denotes : (n : Int) = value.toInt) :
    Spells policy (Decimal.digits n) (.number value) := by
  refine .number (isLiteral_digits n) ?_
  rw [Decimal.value_digits]
  exact denotes

/-- A spelling is read to its end if no digit comes behind it. -/
theorem scanAll_spelling {rest : List Char} {token : Token}
    (notLeast : token ≠ .number Value.least) (ends : startsWithDigit rest = false)
    (position : Position) :
    Scanner.scanAll ⟨⟨token.spelling ++ rest, position⟩, policy⟩ =
      (Scanner.scanAll ⟨⟨rest, position.advanceAll token.spelling⟩, policy⟩).map
        (token.reread ++ ·) := by
  cases token with
  | leftParen => exact Scanner.scanAll_spells .leftParen nofun position
  | rightParen => exact Scanner.scanAll_spells .rightParen nofun position
  | operator op =>
    cases op with
    | negate => exact Scanner.scanAll_spells (.operator .minus) nofun position
    | binary op => exact Scanner.scanAll_spells (.operator op) nofun position
  | number value =>
    rw [spelling, reread]
    cases numeral : value.toInt with
    | ofNat n => exact Scanner.scanAll_spells (spells_digits numeral.symm) (fun _ => ends) position
    | negSucc n =>
      -- the sign is read by itself, as a token before the digits
      have differs : value ≠ Value.least := fun same => notLeast (congrArg _ same)
      have denotes : ((n + 1 : Nat) : Int) = (-value).toInt := by
        rw [Value.toInt_neg_of_ne differs, numeral]
        rfl
      have spells : Spells policy (Decimal.digits (n + 1)) (.number (-value)) := spells_digits denotes
      have digits := Scanner.scanAll_spells spells (fun _ => ends) (position.advance '-')
      rw [if_pos (Int.negSucc_lt_zero n), Decimal.numeral, List.cons_append,
        Scanner.scanAll_sign rfl, digits, Position.advanceAll_cons]
      cases Scanner.scanAll ⟨⟨rest, _⟩, policy⟩ <;> rfl

/-- The spellings of some tokens, each with a space behind it. -/
def spaced (tokens : List Token) : List Char :=
  tokens.flatMap fun token => token.spelling ++ [' ']

/-- Spelled with spaces between them, tokens are read back one by one, since no two spellings run
together. -/
theorem scanAll_spaced {tokens : List Token} (noLeast : .number Value.least ∉ tokens)
    (rest : List Char) (position : Position) :
    Scanner.scanAll ⟨⟨spaced tokens ++ rest, position⟩, policy⟩ =
      (Scanner.scanAll ⟨⟨rest, position.advanceAll (spaced tokens)⟩, policy⟩).map
        (tokens.flatMap reread ++ ·) := by
  induction tokens generalizing position with
  | nil =>
    rw [spaced, List.flatMap_nil, List.nil_append, Position.advanceAll_nil]
    cases Scanner.scanAll ⟨⟨rest, position⟩, policy⟩ <;> rfl
  | cons token later ih =>
    rw [List.mem_cons, not_or] at noLeast
    obtain ⟨first, others⟩ := noLeast
    -- the space behind the first spelling ends it
    have text : spaced (token :: later) ++ rest =
        token.spelling ++ ' ' :: (spaced later ++ rest) := by simp [spaced]
    have moved : position.advanceAll (spaced (token :: later)) =
        ((position.advanceAll token.spelling).advance ' ').advanceAll (spaced later) := by
      simp [spaced, Position.advanceAll_append]
    rw [text, moved, scanAll_spelling (Ne.symm first) rfl, Scanner.scanAll_blank rfl, ih others]
    cases Scanner.scanAll ⟨⟨rest, _⟩, policy⟩ with
    | error error => rfl
    | ok found => simp [Except.map]

/-! ### Renderings -/

/-- A rendering before and from one of its tokens on. -/
theorem render_around (before : List Token) (token : Token) (later : List Token) :
    ∃ tail, startsWithDigit tail = false ∧ (later = [] → tail = []) ∧
      (render (before ++ token :: later)).toList = spaced before ++ (token.spelling ++ tail) := by
  rw [render, String.toList_ofList]
  -- what stands after the token is nothing, or a space and more tokens
  induction before with
  | nil =>
    cases later with
    | nil => exact ⟨[], rfl, fun _ => rfl, by simp [spaced]⟩
    | cons next rest =>
      refine ⟨' ' :: List.intercalate [' '] ((next :: rest).map spelling), rfl, nofun, ?_⟩
      simp [spaced, List.intercalate_cons_cons]
  | cons first before ih =>
    obtain ⟨tail, noDigit, empty, text⟩ := ih
    refine ⟨tail, noDigit, empty, ?_⟩
    obtain ⟨next, rest, shape⟩ := List.exists_cons_of_ne_nil
      (List.append_ne_nil_of_right_ne_nil before (List.cons_ne_nil token later))
    rw [shape] at text
    rw [List.cons_append, shape, List.map_cons, List.map_cons, List.intercalate_cons_cons,
      ← List.map_cons, text]
    simp [spaced]

theorem scan_render_of_not_least {tokens : List Token} (noLeast : .number Value.least ∉ tokens)
    (policy : OverflowPolicy) : scan (render tokens) policy = .ok (tokens.flatMap reread) := by
  rcases List.eq_nil_or_concat tokens with rfl | ⟨before, last, rfl⟩
  · exact Scanner.scanAll_nil
  · rw [List.concat_eq_append] at noLeast ⊢
    rw [List.mem_append, List.mem_singleton, not_or] at noLeast
    -- no space stands behind the last spelling, but neither does anything else
    obtain ⟨tail, -, empty, text⟩ := render_around before last []
    rw [scan, Scanner.ofSource, Cursor.ofSource, text, empty rfl, scanAll_spaced noLeast.1,
      scanAll_spelling (Ne.symm noLeast.2) rfl, Scanner.scanAll_nil]
    simp [Except.map]

/-- The digits of the least value, without its sign. -/
def leastDigits : List Char := "9223372036854775808".toList

/-- The first least value of a sequence is refused, at its digits: they are one more than the
largest value. -/
theorem scan_render_of_least {before : List Token} (noLeast : .number Value.least ∉ before)
    (later : List Token) :
    scan (render (before ++ .number Value.least :: later)) .reject =
      .error (.literalOverflow leastDigits (.after (spaced before ++ ['-']))) := by
  have isLiteral : IsLiteral leastDigits := by decide
  have large : Value.largest.toInt < Decimal.value leastDigits := by decide
  have least : (number Value.least).spelling = '-' :: leastDigits := by decide
  obtain ⟨tail, ends, -, text⟩ := render_around before (.number Value.least) later
  rw [scan, Scanner.ofSource, Cursor.ofSource, text, least, scanAll_spaced noLeast,
    List.cons_append, Scanner.scanAll_sign rfl, Scanner.scanAll_tooLarge isLiteral ends large,
    Position.advanceAll_start, ← Position.after_append_singleton]
  rfl

/-! ### Sequences that come out of a scan -/

theorem not_least_of_scannable {tokens : List Token} (scannable : ∀ token ∈ tokens, Scannable token) :
    .number Value.least ∉ tokens := by
  intro member
  have nonneg := (scannable _ member).2 _ rfl
  exact absurd nonneg (by decide)

theorem scan_render {tokens : List Token} (scannable : ∀ token ∈ tokens, Scannable token)
    (policy : OverflowPolicy) : scan (render tokens) policy = .ok tokens := by
  rw [scan_render_of_not_least (not_least_of_scannable scannable), flatMap_reread scannable]

theorem scannable_of_scan {source : String} {tokens : List Token}
    (scanned : scan source policy = .ok tokens) : ∀ token ∈ tokens, Scannable token :=
  (Scanner.layout_of_scanAll scanned).scannable

/-- The rendering of a sequence fails to scan if and only if the sequence holds the least value, and
then at the digits of the first one. Otherwise it is scanned to what each spelling is read as: a
binary minus for each unary one, a binary minus and the opposite number for each negative number, and
the token itself for any other. So the sequences that are scanned again are those without unary minus
signs and without negative numbers, and among them is every sequence that comes out of a scan. -/
theorem scan_render_iff (tokens : List Token) :
    ((∃ error, scan (render tokens) .reject = .error error) ↔ .number Value.least ∈ tokens) ∧
    (∀ before later, tokens = before ++ .number Value.least :: later →
      .number Value.least ∉ before → scan (render tokens) .reject =
        .error (.literalOverflow leastDigits (.after (spaced before ++ ['-'])))) ∧
    (.number Value.least ∉ tokens →
      scan (render tokens) .reject = .ok (tokens.flatMap reread)) ∧
    (scan (render tokens) .reject = .ok tokens ↔ ∀ token ∈ tokens, Scannable token) ∧
    ∀ source policy, scan source policy = .ok tokens →
      scan (render tokens) .reject = .ok tokens := by
  have again : scan (render tokens) .reject = .ok tokens ↔ ∀ token ∈ tokens, Scannable token :=
    ⟨scannable_of_scan, fun scannable => scan_render scannable .reject⟩
  refine ⟨⟨?_, ?_⟩, ?_, fun noLeast => scan_render_of_not_least noLeast .reject, again, ?_⟩
  · rintro ⟨error, fails⟩
    apply Decidable.byContradiction
    intro noLeast
    rw [scan_render_of_not_least noLeast] at fails
    cases fails
  · intro member
    -- the scan stops at the first least value
    obtain ⟨before, later, rfl, first⟩ := List.eq_append_cons_of_mem member
    exact ⟨_, scan_render_of_least first later⟩
  · rintro before later rfl noLeast
    exact scan_render_of_least noLeast later
  · intro source policy scanned
    exact again.mpr (scannable_of_scan scanned)

theorem scan_render_iff_mixed :
    scan "5 - -9223372036854775808 -3" .reject =
        .error (.literalOverflow "9223372036854775808".toList ⟨1, 6, 5⟩) ∧
      scan "-3 - *" .reject = .ok [.binaryMinus, .number 3, .binaryMinus, .times] ∧
      scan "007/99999999999999999999" .saturate =
        .ok [.number 7, .divide, .number Value.largest] ∧
      scan "7 / 9223372036854775807" .reject =
        .ok [.number 7, .divide, .number Value.largest] := by
  have least : render [.number 5, .unaryMinus, .number Value.least, .number (-3)] =
      "5 - -9223372036854775808 -3" := by decide
  have negative : render [.number (-3), .unaryMinus, .times] = "-3 - *" := by decide
  have large : render [.number 7, .divide, .number Value.largest] = "7 / 9223372036854775807" := by
    decide
  have seven : Spells .saturate ['0', '0', '7'] (.number 7) := .number (by decide) (by decide)
  have huge : Spells .saturate "99999999999999999999".toList (.number Value.largest) :=
    .saturated (by decide) rfl (by decide)
  have scanned : scan "007/99999999999999999999" .saturate =
      .ok [.number 7, .divide, .number Value.largest] :=
    Scanner.scanAll_of_layout (layout_spells seven (layout_spells (.operator .divide)
      (layout_spells huge (.blanks allBlank_nil) (by decide)) (by decide)) (by decide)) .start
  refine ⟨?_, ?_, scanned, ?_⟩
  · rw [← least]
    exact (scan_render_iff _).2.1 [.number 5, .unaryMinus] [.number (-3)] rfl (by decide)
  · rw [← negative]
    exact (scan_render_iff _).2.2.1 (by decide)
  · rw [← large]
    exact (scan_render_iff _).2.2.2.2 _ _ scanned

/-! ### Resolved sequences -/

/-- The resolution adds nothing but unary minus signs. -/
theorem mem_of_mem_resolveAfter {previous : Option Token} {token : Token} {tokens : List Token}
    (member : token ∈ resolveAfter previous tokens) : token = .unaryMinus ∨ token ∈ tokens := by
  induction tokens generalizing previous with
  | nil => cases member
  | cons first later ih =>
    rcases List.mem_cons.mp member with rfl | further
    · rw [resolveOne]
      split
      · exact .inl rfl
      · exact .inr List.mem_cons_self
    · exact (ih further).imp_right (List.mem_cons_of_mem _)

/-- A resolved sequence has no number that was not scanned, and so no negative one. -/
theorem not_least_resolveMinus {tokens : List Token}
    (scannable : ∀ token ∈ tokens, Scannable token) :
    .number Value.least ∉ resolveMinus tokens := by
  intro member
  rcases mem_of_mem_resolveAfter member with minus | among
  · cases minus
  · exact not_least_of_scannable scannable among

/-- Reading a resolved sequence again makes every minus sign binary, as it was. -/
theorem flatMap_reread_resolveAfter {tokens : List Token}
    (scannable : ∀ token ∈ tokens, Scannable token) (previous : Option Token) :
    (resolveAfter previous tokens).flatMap reread = tokens := by
  induction tokens generalizing previous with
  | nil => rfl
  | cons token later ih =>
    obtain ⟨first, others⟩ := List.forall_mem_cons.mp scannable
    have again : (resolveOne previous token).reread = [token] := by
      rw [resolveOne]
      split
      next minus => rw [minus.1]; rfl
      · exact reread_of_scannable first
    rw [resolveAfter, List.flatMap_cons, again, ih others]
    rfl

/-- The rendering of a resolved sequence is read back as what was scanned: a unary minus is written
like a binary one. -/
theorem scan_render_resolveMinus {tokens : List Token}
    (scannable : ∀ token ∈ tokens, Scannable token) (policy : OverflowPolicy) :
    scan (render (resolveMinus tokens)) policy = .ok tokens := by
  rw [scan_render_of_not_least (not_least_resolveMinus scannable), resolveMinus,
    flatMap_reread_resolveAfter scannable]

/-- Without unary minus signs, the postfix form of scanned tokens can be scanned itself. -/
theorem scannable_of_ofInfix {tokens ordered : List Token}
    (scannable : ∀ token ∈ tokens, Scannable token) (noUnary : .unaryMinus ∉ resolveMinus tokens)
    (converts : Postfix.ofInfix (resolveMinus tokens) = .ok ordered) :
    ∀ token ∈ ordered, Scannable token := by
  intro token member
  have kept := (Postfix.ofInfix_perm converts).subset member
  have resolved : token ∈ resolveMinus tokens := (List.mem_filter.mp kept).1
  rcases mem_of_mem_resolveAfter resolved with rfl | among
  · exact absurd resolved noUnary
  · exact scannable token among

end Token

/-! ### Evaluating what was rendered -/

open Token (render resolveMinus)

/-- Where no minus sign of a text is unary, its postfix form may be rendered and evaluated as a text
in postfix order: it is scanned to the same tokens, and the result is the same value or the same
error. -/
theorem evaluatePostfix_render {source : String} {policies : Policies}
    {tokens ordered : List Token} (scanned : scan source policies.overflow = .ok tokens)
    (noUnary : .unaryMinus ∉ resolveMinus tokens)
    (converts : Postfix.ofInfix (resolveMinus tokens) = .ok ordered) :
    scan (render ordered) policies.overflow = .ok ordered ∧
      evaluatePostfix (render ordered) policies = evaluate source policies := by
  have scannable := Token.scannable_of_ofInfix (Token.scannable_of_scan scanned) noUnary converts
  have again := Token.scan_render scannable policies.overflow
  refine ⟨again, ?_⟩
  rw [evaluatePostfix_of_scan again, evaluate_of_scan scanned, valueOfTokens_eq, converts]

theorem evaluatePostfix_render_malformed :
    scan "03-(99999999999999999999)4" .saturate =
        .ok [.number 3, .binaryMinus, .leftParen, .number Value.largest, .rightParen, .number 4] ∧
      Postfix.ofInfix (resolveMinus [.number 3, .binaryMinus, .leftParen, .number Value.largest,
        .rightParen, .number 4]) =
          .ok [.number 3, .number Value.largest, .number 4, .binaryMinus] ∧
      evaluatePostfix "3 9223372036854775807 4 -" ⟨.saturate, .lenient⟩ =
        evaluate "03-(99999999999999999999)4" ⟨.saturate, .lenient⟩ := by
  have three : Spells .saturate ['0', '3'] (.number 3) := .number (by decide) (by decide)
  have huge : Spells .saturate "99999999999999999999".toList (.number Value.largest) :=
    .saturated (by decide) rfl (by decide)
  have four : Spells .saturate ['4'] (.number 4) := .number (by decide) (by decide)
  have group : Layout .saturate "(99999999999999999999)4".toList
      [.leftParen, .number Value.largest, .rightParen, .number 4] :=
    layout_spells .leftParen (layout_spells huge (layout_spells .rightParen (layout_spells four
      (.blanks allBlank_nil) (by decide)) (by decide)) (by decide)) (by decide)
  have scanned : scan "03-(99999999999999999999)4" .saturate =
      .ok [.number 3, .binaryMinus, .leftParen, .number Value.largest, .rightParen, .number 4] :=
    Scanner.scanAll_of_layout (layout_spells three (layout_spells (.operator .minus) group
      (by decide)) (by decide)) .start
  have converts : Postfix.ofInfix (resolveMinus [.number 3, .binaryMinus, .leftParen,
      .number Value.largest, .rightParen, .number 4]) =
        .ok [.number 3, .number Value.largest, .number 4, .binaryMinus] := by decide
  have rendered : render [.number 3, .number Value.largest, .number 4, .binaryMinus] =
      "3 9223372036854775807 4 -" := by decide
  refine ⟨scanned, converts, ?_⟩
  rw [← rendered]
  exact (evaluatePostfix_render scanned (by decide) converts).2

/-- A text that is scanned may be replaced by the rendering of its resolved tokens. This is scanned
to the same tokens even where large literals are rejected, the same minus signs are found to be
unary in it, and under every policy for large literals it goes through the same sequences to the
same value or ends with the same error. -/
theorem evaluate_render {source : String} {policies : Policies} {tokens : List Token}
    (scanned : scan source policies.overflow = .ok tokens) :
    scan (render (resolveMinus tokens)) .reject = .ok tokens ∧
      (scan (render (resolveMinus tokens)) .reject).map resolveMinus = .ok (resolveMinus tokens) ∧
      ∀ others : Policies, others.stack = policies.stack →
        steps (render (resolveMinus tokens)) others = steps source policies ∧
          evaluate (render (resolveMinus tokens)) others = evaluate source policies := by
  have again := Token.scan_render_resolveMinus (Token.scannable_of_scan scanned)
  refine ⟨again .reject, ?_, ?_⟩
  · rw [again]
    rfl
  · intro others same
    have sameSteps : steps (render (resolveMinus tokens)) others = steps source policies := by
      rw [steps, steps, again, scanned, same]
    refine ⟨sameSteps, ?_⟩
    rw [evaluate, evaluate, sameSteps]

theorem evaluate_render_stacked :
    scan "1--\n-99999999999999999999" .saturate =
        .ok [.number 1, .binaryMinus, .binaryMinus, .binaryMinus, .number Value.largest] ∧
      scan "1 - - - 9223372036854775807" .reject =
        .ok [.number 1, .binaryMinus, .binaryMinus, .binaryMinus, .number Value.largest] ∧
      evaluate "1 - - - 9223372036854775807" ⟨.reject, .strict⟩ =
        evaluate "1--\n-99999999999999999999" ⟨.saturate, .strict⟩ := by
  have one : Spells .saturate ['1'] (.number 1) := .number (by decide) (by decide)
  have minus : Spells .saturate ['-'] .binaryMinus := .operator .minus
  have huge : Spells .saturate "99999999999999999999".toList (.number Value.largest) :=
    .saturated (by decide) rfl (by decide)
  have last : Layout .saturate "-99999999999999999999".toList
      [.binaryMinus, .number Value.largest] :=
    layout_spells minus (layout_spells huge (.blanks allBlank_nil) (by decide)) (by decide)
  have scanned : scan "1--\n-99999999999999999999" .saturate =
      .ok [.number 1, .binaryMinus, .binaryMinus, .binaryMinus, .number Value.largest] :=
    Scanner.scanAll_of_layout (layout_spells one (layout_spells minus (layout_spells minus
      (layout_blank rfl last) (by decide)) (by decide)) (by decide)) .start
  have rendered : render (resolveMinus [.number 1, .binaryMinus, .binaryMinus, .binaryMinus,
      .number Value.largest]) = "1 - - - 9223372036854775807" := by decide
  have normal := @evaluate_render _ ⟨.saturate, .strict⟩ _ scanned
  rw [rendered] at normal
  exact ⟨scanned, normal.1, (normal.2.2 ⟨.reject, .strict⟩ rfl).2⟩

end Calculator
