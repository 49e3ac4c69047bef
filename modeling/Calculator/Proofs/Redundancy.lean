import Calculator.Proofs.Conversion
import Calculator.Proofs.Parentheses

/-!
# Groups as operands, and parentheses that may be left out

A group whose parentheses are balanced is converted in any context as a number is: whether there is
a postfix form, and what goes out before and after it, depends on the context alone, and the group
sends out its own form where the number would go out.

So parentheses around an operand change nothing. They change nothing either where they only say how
tightly the operators bind: if an operand is expected before them, the operators of the group bind
more tightly than the one before it, and at least as tightly as the one after it, then the group is
released as a whole with or without its parentheses.

## Main statements

* `convert_tight`: a sequence is converted above looser operators as it is by itself.
* `convertToEnd_waiting`: what binds at least as tightly as the next operator goes out before it.
* `ofInfix_redundant`: which parentheses may be left out.
* `group_as_operand`: a group stands for one operand in any context.
-/
namespace Calculator

namespace Token

/-- Each operator of a sequence that stands outside of all its groups binds at least as tightly as
`limit`. -/
def Tight (limit : Nat) (tokens : List Token) : Prop :=
  ∀ start op later, tokens = start ++ .operator op :: later → Balanced start →
    limit ≤ op.precedence

/-- An operand is expected after a sequence, and no operator right before it binds as tightly as
`limit`. -/
def OpensLoosely (limit : Nat) (before : List Token) : Prop :=
  ∀ last ∈ before.getLast?, last = .leftParen ∨
    ∃ op, last = .operator op ∧ op.precedence < limit

/-- An operand is complete before a sequence, and no operator right after it binds more tightly than
`limit`. -/
def FollowsLoosely (limit : Nat) (after : List Token) : Prop :=
  ∀ next ∈ after.head?, next = .rightParen ∨ ∃ op, next = .operator op ∧ op.precedence ≤ limit

/-- The parentheses around `inner` may be left out between `before` and `after`. -/
inductive Redundant (before : List Token) : List Token → List Token → Prop where
  | number {after : List Token} (value : Value) : Redundant before [.number value] after
  | group {content after : List Token} :
    Balanced content → Redundant before (.leftParen :: content ++ [.rightParen]) after
  | loose {inner after : List Token} (limit : Nat) :
    Balanced inner → Tight limit inner → OpensLoosely limit before → FollowsLoosely limit after →
      Redundant before inner after

end Token

namespace Postfix

open Token (Balanced Tight OpensLoosely FollowsLoosely Redundant)

/-! ### Above looser operators -/

/-- Where an operand is expected, the top of the stack is the token right before it, and that is loose.
-/
theorem below_of_opensLoosely {limit : Nat} {before out : List Token} {pending : List Pending}
    (opens : OpensLoosely limit before) (converts : convert [] before = .ok (out, pending)) :
    Below limit pending := by
  rcases List.eq_nil_or_concat' before with rfl | ⟨start, last, rfl⟩
  · cases converts
    exact fun _ member => nomatch member
  · obtain ⟨sent, between, others, -, moves, -⟩ := convert_append_ok converts
    rcases opens last (by simp) with rfl | ⟨op, rfl, loose⟩
    · cases moves
      exact below_group limit between
    · cases moves
      exact below_operator.mpr loose

/-- Where an operator of a tight sequence is read, a group is open or the operator binds tightly. -/
theorem group_open_or_tight {limit : Nat} {tokens start later sent : List Token} {op : Operator}
    {between : List Pending} (tight : Tight limit tokens)
    (split : tokens = start ++ .operator op :: later)
    (converts : convert [] start = .ok (sent, between)) :
    .group ∈ between ∨ limit ≤ op.precedence := by
  by_cases isOpen : .group ∈ between
  · exact .inl isOpen
  · have closes := closes_of_convert converts (List.count_eq_zero.mpr isOpen)
    exact .inr (tight start op later split (Token.closes_zero_iff.mp closes))

/-- The operators that are pending outside of all open groups bind at least as tightly as `limit`. -/
def Rests (limit : Nat) (pending : List Pending) : Prop :=
  ∀ op rest, .operator op :: rest <:+ pending → .group ∉ rest → limit ≤ op.precedence

theorem Rests.of_suffix {limit : Nat} {pending waiting : List Pending} (rests : Rests limit pending)
    (isEnd : waiting <:+ pending) : Rests limit waiting :=
  fun op rest within => rests op rest (within.trans isEnd)

/-- A token keeps to the limit, if it stands within a group or binds tightly enough. -/
theorem rests_step {limit : Nat} {pending waiting : List Pending} {token : Token}
    {out : List Token} (rests : Rests limit pending)
    (moves : step pending token = .ok (out, waiting))
    (tight : ∀ op, token = .operator op → .group ∈ pending ∨ limit ≤ op.precedence) :
    Rests limit waiting := by
  cases step_eq_ok_iff.mp moves with
  | number value => exact rests
  | opening =>
    intro op rest within
    rcases List.suffix_cons_iff.mp within with same | inside
    · cases same
    · exact rests op rest inside
  | closing above =>
    -- closing a group takes away from the top
    exact rests.of_suffix ((List.suffix_cons _ _).trans (List.suffix_append _ _))
  | @operator incoming above below =>
    intro op rest within outside
    rcases List.suffix_cons_iff.mp within with same | inside
    · -- the operator itself: it is read outside of the groups, as none is open below it
      cases same
      refine (tight incoming rfl).resolve_left fun isOpen => ?_
      simp [outside] at isOpen
    · exact rests op rest (inside.trans (List.suffix_append _ _)) outside

/-- Tokens keep to the limit if each operator outside of all groups does, by induction on the
sequence. -/
theorem rests_convert {limit : Nat} {pending waiting : List Pending} {tokens out : List Token}
    (rests : Rests limit pending) (converts : convert pending tokens = .ok (out, waiting))
    (tight : ∀ start op later sent between, tokens = start ++ .operator op :: later →
      convert pending start = .ok (sent, between) → .group ∈ between ∨ limit ≤ op.precedence) :
    Rests limit waiting := by
  induction tokens generalizing pending out with
  | nil =>
    cases converts
    exact rests
  | cons token later ih =>
    obtain ⟨first, between, others, moves, rest, rfl⟩ := convert_cons_ok converts
    have resting : Rests limit between :=
      rests_step rests moves fun op same => tight [] op later [] pending (by rw [same]; rfl) rfl
    exact ih resting rest fun start op behind sent reached split found =>
      tight (token :: start) op behind (first ++ sent) reached (by rw [split]; rfl)
        (by simp only [convert, moves, found, Except.map])

/-- Above looser operators a tight sequence sends out a part of its own form, and the rest of the
form waits and binds tightly. -/
theorem convert_tight {limit : Nat} {inner ordered : List Token} {pending : List Pending}
    (tight : Tight limit inner) (converts : ofInfix inner = .ok ordered)
    (below : Below limit pending) :
    ∃ out waiting, convert pending inner = .ok (out, List.map Pending.operator waiting ++ pending) ∧
      out ++ waiting.map Token.operator = ordered ∧ ∀ op ∈ waiting, limit ≤ op.precedence := by
  obtain ⟨out, waiting, inside, rfl⟩ := ofInfix_ok converts
  have framed := convert_frame inside fun start op later sent between split found =>
    (group_open_or_tight tight split found).imp_right below.of_le
  have nothing : Rests limit [] := fun op rest within => nomatch List.suffix_nil.mp within
  have rests := rests_convert nothing inside fun start op later sent between split found =>
    group_open_or_tight tight split found
  refine ⟨out, waiting, framed, rfl, fun op member => ?_⟩
  obtain ⟨above, rest, rfl⟩ := List.append_of_mem member
  exact rests op (rest.map Pending.operator) ⟨above.map Pending.operator, by simp⟩ (by simp)

/-! ### Before looser operators -/

theorem convertToEnd_cons (pending : List Pending) (token : Token) (later : List Token) :
    convertToEnd pending (token :: later) =
      match step pending token with
      | .error error => .error error
      | .ok (out, waiting) => (convertToEnd waiting later).map (out ++ ·) := by
  rw [← List.singleton_append, convertToEnd_append, convert]
  cases step pending token with
  | error error => rfl
  | ok moved => simp [convert, Except.map]

/-- Operators that bind at least as tightly as the next one go out before all that comes. -/
theorem convertToEnd_waiting {limit : Nat} {waiting : List Operator} {after : List Token}
    (tight : ∀ op ∈ waiting, limit ≤ op.precedence) (follows : FollowsLoosely limit after)
    (pending : List Pending) :
    convertToEnd (waiting.map Pending.operator ++ pending) after =
      (convertToEnd pending after).map (waiting.map Token.operator ++ ·) := by
  cases after with
  | nil =>
    simp only [convertToEnd, convert, finish_over]
    cases finish pending <;> rfl
  | cons next later =>
    -- what comes next sends out all that waits, before it does anything else
    have releases : step (waiting.map Pending.operator ++ pending) next =
        (step pending next).map fun moved =>
          (waiting.map Token.operator ++ moved.1, moved.2) := by
      rcases follows next rfl with rfl | ⟨op, rfl, loose⟩
      · simp only [step, closeGroup_over]
        cases closeGroup pending <;> rfl
      · exact step_over (fun other member => Nat.le_trans loose (tight other member)) pending
    -- from then on both conversions are the same
    rw [convertToEnd_cons, convertToEnd_cons, releases]
    cases step pending next with
    | error error => rfl
    | ok moved =>
      simp only [Except.map]
      cases convertToEnd moved.2 later <;> simp

/-! ### One operand in its context -/

/-- The tokens around an operand decide alone whether there is a postfix form, and what goes out
before and after the operand. -/
theorem ofInfix_around (before after : List Token) :
    (∀ block sent, (∀ pending, convert pending block = .ok (sent, pending)) →
      ofInfix (before ++ block ++ after) = .error .mismatchedParenthesis) ∨
    ∃ first last, ∀ block sent, (∀ pending, convert pending block = .ok (sent, pending)) →
      ofInfix (before ++ block ++ after) = .ok (first ++ sent ++ last) := by
  -- what is before the operand, and what is after it, is converted whatever the operand sends
  cases start : convert [] before with
  | error error =>
    refine .inl fun block sent operand => ?_
    rw [ofInfix_eq, convertToEnd_operand operand, start]
  | ok done =>
    obtain ⟨first, pending⟩ := done
    cases rest : convertToEnd pending after with
    | error error =>
      refine .inl fun block sent operand => ?_
      rw [ofInfix_eq, convertToEnd_operand operand, start]
      simp only [rest, Except.map]
    | ok last =>
      refine .inr ⟨first, last, fun block sent operand => ?_⟩
      rw [ofInfix_eq, convertToEnd_operand operand, start]
      simp only [rest, Except.map]

theorem convert_number (value : Value) (pending : List Pending) :
    convert pending [.number value] = .ok ([.number value], pending) := rfl

theorem regroup (before inner after : List Token) :
    before ++ [Token.leftParen] ++ inner ++ [Token.rightParen] ++ after =
      before ++ (.leftParen :: inner ++ [.rightParen]) ++ after := by simp

/-! ### Leaving parentheses out -/

/-- Parentheses around one operand change nothing. -/
theorem ofInfix_operand {block sent : List Token}
    (operand : ∀ pending, convert pending block = .ok (sent, pending))
    (before after : List Token) :
    ofInfix (before ++ [Token.leftParen] ++ block ++ [Token.rightParen] ++ after) =
      ofInfix (before ++ block ++ after) := by
  have alone : ofInfix block = .ok sent := by simp [ofInfix, operand, finish, Except.map]
  rw [regroup, ofInfix_eq, ofInfix_eq, convertToEnd_operand (convert_group alone),
    convertToEnd_operand operand]

/-- Parentheses that only say how tightly the operators bind change nothing. -/
theorem ofInfix_loose {before inner after : List Token} {limit : Nat} (balanced : Balanced inner)
    (tight : Tight limit inner) (opens : OpensLoosely limit before)
    (follows : FollowsLoosely limit after) :
    ofInfix (before ++ [Token.leftParen] ++ inner ++ [Token.rightParen] ++ after) =
      ofInfix (before ++ inner ++ after) := by
  obtain ⟨ordered, converts⟩ := ofInfix_ok_iff.mpr balanced
  rw [regroup, ofInfix_eq, ofInfix_eq, convertToEnd_operand (convert_group converts),
    List.append_assoc, convertToEnd_append]
  cases start : convert [] before with
  | error error => rfl
  | ok done =>
    obtain ⟨out, pending⟩ := done
    obtain ⟨sent, waiting, inside, form, above⟩ :=
      convert_tight tight converts (below_of_opensLoosely opens start)
    -- what the group leaves waiting goes out next, as if it had been closed
    simp only [convertToEnd_append, inside, convertToEnd_waiting above follows, ← form]
    cases convertToEnd pending after <;> simp [Except.map]

/-- Redundant parentheses make no difference to the conversion, for each of the three reasons. -/
theorem ofInfix_redundant {before inner after : List Token}
    (redundant : Redundant before inner after) :
    ofInfix (before ++ [Token.leftParen] ++ inner ++ [Token.rightParen] ++ after) =
      ofInfix (before ++ inner ++ after) := by
  cases redundant with
  | number value => exact ofInfix_operand (convert_number value) before after
  | group balanced =>
    obtain ⟨ordered, converts⟩ := ofInfix_ok_iff.mpr balanced
    exact ofInfix_operand (convert_group converts) before after
  | loose limit balanced tight opens follows => exact ofInfix_loose balanced tight opens follows

/-- Between any tokens, balanced or not, a group whose parentheses are balanced is converted as a
number is. Either the tokens around them have no postfix form with any group or number, or they have
one with each, and then only the tokens of the number or of the group's own form differ. So
parentheses that are redundant do not change the postfix form. -/
theorem group_as_operand :
    (∀ before after : List Token,
      ((∀ value, ofInfix (before ++ [Token.number value] ++ after) = .error .mismatchedParenthesis) ∧
        ∀ inner, Balanced inner →
          ofInfix (before ++ [Token.leftParen] ++ inner ++ [Token.rightParen] ++ after) =
            .error .mismatchedParenthesis) ∨
      ∃ first last,
        (∀ value, ofInfix (before ++ [Token.number value] ++ after) =
          .ok (first ++ [Token.number value] ++ last)) ∧
        ∀ inner, Balanced inner → ∃ ordered, ofInfix inner = .ok ordered ∧
          ofInfix (before ++ [Token.leftParen] ++ inner ++ [Token.rightParen] ++ after) =
            .ok (first ++ ordered ++ last)) ∧
    ∀ before inner after, Redundant before inner after →
      ofInfix (before ++ [Token.leftParen] ++ inner ++ [Token.rightParen] ++ after) =
        ofInfix (before ++ inner ++ after) := by
  refine ⟨fun before after => ?_, fun before inner after => ofInfix_redundant⟩
  rcases ofInfix_around before after with fails | ⟨first, last, shows⟩
  · refine .inl ⟨fun value => fails _ _ (convert_number value), fun inner balanced => ?_⟩
    obtain ⟨ordered, converts⟩ := ofInfix_ok_iff.mpr balanced
    rw [regroup]
    exact fails _ _ (convert_group converts)
  · refine .inr ⟨first, last, fun value => shows _ _ (convert_number value), ?_⟩
    intro inner balanced
    obtain ⟨ordered, converts⟩ := ofInfix_ok_iff.mpr balanced
    rw [regroup]
    exact ⟨ordered, converts, shows _ _ (convert_group converts)⟩

/-- The product is released before the minus sign with or without its parentheses. -/
theorem group_as_operand_product :
    Redundant [.number 2, .plus] [.number 3, .times, .number 4] [.binaryMinus, .number 5] ∧
      ofInfix [.number 2, .plus, .leftParen, .number 3, .times, .number 4, .rightParen,
          .binaryMinus, .number 5] =
        ofInfix [.number 2, .plus, .number 3, .times, .number 4, .binaryMinus, .number 5] := by
  have tight : Tight 3 [.number 3, .times, .number 4] := by
    intro start op later split _
    rcases start with _ | ⟨first, _ | ⟨second, _ | ⟨third, rest⟩⟩⟩ <;> simp at split
    obtain ⟨-, rfl, -⟩ := split
    decide
  have opens : OpensLoosely 3 [.number 2, .plus] := by
    rintro last ⟨⟩
    exact .inr ⟨_, rfl, by decide⟩
  have follows : FollowsLoosely 3 [.binaryMinus, .number 5] := by
    rintro next ⟨⟩
    exact .inr ⟨_, rfl, by decide⟩
  have balanced : Balanced [.number 3, .times, .number 4] := ofInfix_ok_iff.mp ⟨_, rfl⟩
  have redundant := Redundant.loose 3 balanced tight opens follows
  exact ⟨redundant, group_as_operand.2 _ _ _ redundant⟩

end Postfix
end Calculator
