import Calculator.Proofs.Acceptance
import Calculator.Proofs.Reordering
import Calculator.Token.Balance

/-!
# Unbalanced parentheses

Bringing a sequence into postfix order fails for one reason only. The groups that are open are those
that are pending: an opening parenthesis puts one more on the stack, a closing one takes one off, and
no operator takes any. So a closing parenthesis finds its group and no group is left at the end,
exactly if the parentheses are balanced, however the operators and numbers stand between them.

Minus signs and numbers are no parentheses, and a text spells each parenthesis by one character. So
the parentheses of a text are balanced exactly if those of its tokens are.

## Main statements

* `closes_iff`: parentheses match if they are balanced, counted with the groups open before.
* `exists_step_of_closes`, `exists_convert_of_closes`: where the parentheses match, no step fails.
* `signs_of_layout`: the signs of a text are its tokens without the numbers.
* `mismatched_iff_unbalanced`: which sequences and which texts fail by their parentheses.
-/
namespace Calculator

/-! ### Matching and balanced parentheses -/

namespace Token

/-- Only the starts that hold the first token count: nothing is closed in the empty one. -/
theorem ordered_cons {depth : Nat} {token : Token} {later : List Token} :
    (∀ before, before <+: token :: later →
      before.count .rightParen ≤ before.count .leftParen + depth) ↔
    ∀ before, before <+: later →
      (token :: before).count .rightParen ≤ (token :: before).count .leftParen + depth := by
  constructor
  · intro ordered before isStart
    exact ordered _ (List.cons_prefix_cons.mpr ⟨rfl, isStart⟩)
  · intro ordered before isStart
    rcases List.prefix_cons_iff.mp isStart with rfl | ⟨rest, rfl, inner⟩
    · exact Nat.zero_le _
    · exact ordered rest inner

/-- The parentheses match if at no moment more groups are closed than were opened, those open before
included, and all are closed at the end. -/
theorem closes_iff {depth : Nat} {tokens : List Token} :
    Closes depth tokens ↔
      (∀ before, before <+: tokens → before.count .rightParen ≤ before.count .leftParen + depth) ∧
        tokens.count .rightParen = tokens.count .leftParen + depth := by
  -- the first token moves from the counts of every start to the depth
  induction tokens generalizing depth with
  | nil =>
    constructor
    · rintro ⟨⟩
      refine ⟨fun before isStart => ?_, rfl⟩
      rw [List.prefix_nil.mp isStart]
      exact Nat.zero_le _
    · rintro ⟨-, closed⟩
      obtain rfl : 0 = depth := by simpa using closed
      exact .finished
  | cons token later ih =>
    rw [ordered_cons]
    cases token with
    | leftParen =>
      rw [closes_leftParen, ih]
      simp [Nat.add_right_comm, ← Nat.add_assoc]
    | rightParen =>
      cases depth with
      | zero =>
        -- the start that is only this parenthesis closes more than is open
        refine iff_of_false not_closes_zero fun counts => ?_
        have tooMany := counts.1 [] List.nil_prefix
        simp at tooMany
      | succ depth =>
        rw [closes_rightParen, ih]
        simp [← Nat.add_assoc]
    | operator | number =>
      rw [closes_other rfl, ih]
      simp

/-- Matching parentheses as they are read one after another are the balanced ones. -/
theorem closes_zero_iff {tokens : List Token} : Closes 0 tokens ↔ Balanced tokens :=
  closes_iff.trans ⟨fun counts => ⟨counts.1, counts.2⟩,
    fun balanced => ⟨balanced.ordered, balanced.closed⟩⟩

end Token

/-! ### Steps that do not fail -/

namespace Postfix

/-- A stack holds only operators, or it has a first group. -/
theorem operators_or_group (pending : List Pending) :
    (∃ above : List Operator, pending = above.map .operator) ∨
    ∃ (above : List Operator) (below : List Pending),
      pending = above.map .operator ++ .group :: below := by
  induction pending with
  | nil => exact .inl ⟨[], rfl⟩
  | cons top rest ih =>
    cases top with
    | group => exact .inr ⟨[], rest, rfl⟩
    | operator op =>
      rcases ih with ⟨above, rfl⟩ | ⟨above, below, rfl⟩
      · exact .inl ⟨op :: above, rfl⟩
      · exact .inr ⟨op :: above, below, rfl⟩

/-- A token never fails where the parentheses match: a closing one finds its group. -/
theorem exists_step_of_closes {pending : List Pending} {token : Token} {later : List Token}
    (closes : Token.Closes (pending.count .group) (token :: later)) :
    ∃ out waiting, step pending token = .ok (out, waiting) ∧
      Token.Closes (waiting.count .group) later := by
  cases token with
  | number value => exact ⟨_, _, rfl, (Token.closes_other rfl).mp closes⟩
  | leftParen =>
    refine ⟨_, _, rfl, ?_⟩
    rw [List.count_cons_self]
    exact Token.closes_leftParen.mp closes
  | rightParen =>
    rcases operators_or_group pending with ⟨above, rfl⟩ | ⟨above, below, rfl⟩
    · rw [count_operators] at closes
      exact absurd closes Token.not_closes_zero
    · -- a group is open, so the operators above it go out and it is closed
      rw [count_over, List.count_cons_self] at closes
      exact ⟨_, _, step_closing above below, Token.closes_rightParen.mp closes⟩
  | operator op =>
    obtain ⟨above, below, rfl, tight, stays⟩ := exists_above op.precedence pending
    rw [count_over] at closes
    refine ⟨_, _, step_operator tight stays, ?_⟩
    rw [count_operator]
    exact (Token.closes_other rfl).mp closes

/-- Matching parentheses are converted to the end, with no group left. -/
theorem exists_convert_of_closes {pending : List Pending} {tokens : List Token}
    (closes : Token.Closes (pending.count .group) tokens) :
    ∃ out waiting last, convert pending tokens = .ok (out, waiting) ∧
      finish waiting = .ok last := by
  induction tokens generalizing pending with
  | nil =>
    rcases operators_or_group pending with ⟨above, rfl⟩ | ⟨above, below, rfl⟩
    · exact ⟨_, _, _, rfl, finish_eq_ok_iff.mpr ⟨above, rfl, rfl⟩⟩
    · rw [count_over, List.count_cons_self] at closes
      cases closes
  | cons token later ih =>
    obtain ⟨first, between, moves, rest⟩ := exists_step_of_closes closes
    obtain ⟨others, waiting, last, converts, finishes⟩ := ih rest
    refine ⟨first ++ others, waiting, last, ?_, finishes⟩
    simp only [convert, moves, converts, Except.map]

/-- The conversion succeeds exactly on balanced parentheses, whatever else the sequence holds. -/
theorem ofInfix_ok_iff {tokens : List Token} :
    (∃ ordered, ofInfix tokens = .ok ordered) ↔ Token.Balanced tokens := by
  rw [← Token.closes_zero_iff]
  constructor
  · rintro ⟨ordered, converts⟩
    exact closes_of_ofInfix converts
  · intro closes
    obtain ⟨out, waiting, last, converts, finishes⟩ := @exists_convert_of_closes [] _ closes
    exact ⟨out ++ last, by rw [ofInfix, converts]; simp only [finishes]; rfl⟩

theorem ofInfix_error_iff {tokens : List Token} :
    ofInfix tokens = .error .mismatchedParenthesis ↔ ¬ Token.Balanced tokens := by
  rw [← ofInfix_ok_iff]
  cases ofInfix tokens with
  | error error => exact iff_of_true rfl nofun
  | ok ordered => exact iff_of_false nofun fun fails => fails ⟨ordered, rfl⟩

end Postfix

theorem Token.balanced_resolveMinus {tokens : List Token} :
    Balanced (resolveMinus tokens) ↔ Balanced tokens := by
  rw [← closes_zero_iff, ← closes_zero_iff, resolveMinus, closes_resolveAfter]

/-! ### The parentheses of a text -/

open Token (IsLiteral AllBlank Layout Spells)

/-- The signs of a text are its tokens without the numbers. -/
theorem signs_of_layout {policy : OverflowPolicy} {text : List Char} {tokens : List Token}
    (layout : Layout policy text tokens) :
    text.filterMap Token.ofSign? = tokens.filter (! ·.isNumber) := by
  have blank : ∀ blanks, AllBlank blanks → blanks.filterMap Token.ofSign? = [] :=
    fun _ allBlank => List.filterMap_eq_nil_iff.mpr fun char member =>
      ofSign?_of_blank (allBlank char member)
  induction layout with
  | blanks allBlank => exact blank _ allBlank
  | token allBlank spells _ _ ih =>
    rw [List.filterMap_append, List.filterMap_append, blank _ allBlank, ih]
    cases spells with
    | leftParen | rightParen => rfl
    | operator op => cases op <;> rfl
    | number isLiteral | saturated isLiteral =>
      have noSign : ∀ char ∈ _, Token.ofSign? char = none :=
        fun char member => ofSign?_of_digit (isLiteral.2 char member)
      rw [List.filterMap_eq_nil_iff.mpr noSign]
      rfl

theorem ofSign?_injective {first second : Char} {token : Token}
    (sign : Token.ofSign? first = some token) (same : Token.ofSign? second = some token) :
    first = second := by
  rcases sign_cases sign with ⟨rfl, rfl⟩ | ⟨rfl, rfl⟩ | ⟨op, rfl, rfl⟩
  · rcases sign_cases same with ⟨rfl, -⟩ | ⟨-, ⟨⟩⟩ | ⟨_, -, ⟨⟩⟩
    rfl
  · rcases sign_cases same with ⟨-, ⟨⟩⟩ | ⟨rfl, -⟩ | ⟨_, -, ⟨⟩⟩
    rfl
  · rcases sign_cases same with ⟨-, ⟨⟩⟩ | ⟨-, ⟨⟩⟩ | ⟨_, rfl, ⟨⟩⟩
    rfl

theorem count_signs {char : Char} {token : Token} (sign : Token.ofSign? char = some token)
    (text : List Char) : (text.filterMap Token.ofSign?).count token = text.count char := by
  rw [List.count_filterMap, List.count]
  refine List.countP_congr fun other _ => ?_
  rw [beq_iff_eq, beq_iff_eq]
  constructor
  · exact fun found => ofSign?_injective found sign
  · rintro rfl
    exact sign

/-- The parentheses of a text are those among its signs. -/
theorem balancedText_iff {text : List Char} :
    BalancedText text ↔ Token.Balanced (text.filterMap Token.ofSign?) := by
  have opening := @count_signs '(' .leftParen rfl
  have closing := @count_signs ')' .rightParen rfl
  constructor
  · rintro ⟨ordered, closed⟩
    constructor
    · -- a start of the signs is what a start of the text spells
      intro before isStart
      obtain ⟨start, inText, rfl⟩ := List.prefix_filterMap_iff.mp isStart
      rw [opening, closing]
      exact ordered start inText
    · rw [opening, closing, closed]
  · rintro ⟨ordered, closed⟩
    constructor
    · intro before isStart
      rw [← opening, ← closing]
      exact ordered _ (isStart.filterMap _)
    · rw [← opening, ← closing, closed]

/-- The parentheses of a text that scans are those of its tokens. -/
theorem balancedText_of_scan {source : String} {policy : OverflowPolicy} {tokens : List Token}
    (scanned : scan source policy = .ok tokens) :
    BalancedText source.toList ↔ Token.Balanced tokens := by
  have layout : Layout policy source.toList tokens := Scanner.layout_of_scanAll scanned
  rw [balancedText_iff, signs_of_layout layout, ← Token.closes_zero_iff, ← Token.closes_zero_iff]
  refine Token.closes_filter _ fun token paren => ?_
  cases token with
  | leftParen | rightParen => rfl
  | operator | number => cases paren

/-- A sequence of tokens has no postfix form, for the only reason there is, if and only if its
parentheses are not balanced. So the evaluation of a text ends with this error if and only if the
text is scanned and its parentheses are not balanced, whatever errors of arithmetic it holds. -/
theorem mismatched_iff_unbalanced :
    (∀ tokens, (Postfix.ofInfix tokens = .error .mismatchedParenthesis ↔ ¬ Token.Balanced tokens) ∧
      ((∃ ordered, Postfix.ofInfix tokens = .ok ordered) ↔ Token.Balanced tokens)) ∧
    ∀ source policies, evaluate source policies = .error (.parse .mismatchedParenthesis) ↔
      (∃ tokens, scan source policies.overflow = .ok tokens) ∧ ¬ BalancedText source.toList := by
  refine ⟨fun tokens => ⟨Postfix.ofInfix_error_iff, Postfix.ofInfix_ok_iff⟩, ?_⟩
  intro source policies
  rw [evaluate_eq]
  cases scanned : scan source policies.overflow with
  | error error => exact iff_of_false nofun fun conditions => nomatch conditions.1
  | ok tokens =>
    have parts : valueOfTokens tokens policies.stack = .error (.parse .mismatchedParenthesis) ↔
        Postfix.ofInfix (Token.resolveMinus tokens) = .error .mismatchedParenthesis := by
      rw [valueOfTokens_eq]
      cases Postfix.ofInfix (Token.resolveMinus tokens) with
      | error error => simp
      | ok ordered =>
        -- the evaluator has errors of its own only
        refine iff_of_false (fun failed => ?_) nofun
        obtain ⟨error, -, wrong⟩ := mapError_eq_error failed
        cases wrong
    rw [parts, Postfix.ofInfix_error_iff, Token.balanced_resolveMinus, balancedText_of_scan scanned]
    exact ⟨fun unbalanced => ⟨⟨tokens, rfl⟩, unbalanced⟩, And.right⟩

-- Balanced parentheses are enough, wherever operators and numbers stand.
example : Postfix.ofInfix [.leftParen, .plus, .rightParen, .number 1, .number 2] =
    .ok [.plus, .number 1, .number 2] := by decide

end Calculator
