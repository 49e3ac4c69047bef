import Calculator.Expression.Grammar
import Calculator.Proofs.Acceptance
import Calculator.Proofs.Reordering

/-!
# Where operands and operators stand

In an infix expression operands and binary operators alternate, and the parentheses match. This can
be read off from left to right with the number of open groups and with whether an operand is
expected, so it tells the expressions of the grammar from all other sequences.

The evaluator does not see where a token stood, because it is given the postfix form. It finds as
many operands as the operators take, and what it accepts has one number more than binary operators.
So where an operator misses an operand there is one too many somewhere else, and that one stands
right beside another operand.

## Main statements

* `exists_stacked_iff`: the sequences that the grammar derives are those that alternate.
* `surplus_le`, `alternates_of_surplus`: without operands side by side, a sequence has at most one
  number more than binary operators, and it alternates if it has one more and its parentheses match.
* `evaluate_strict_iff`: a text with a value under the strict policy is an infix expression if and
  only if no two operands stand side by side in it.
-/
namespace Calculator

namespace Token

/-- Whether a token begins an operand; a minus sign does not count, as it may be binary. -/
def startsOperand : Token → Bool
  | .leftParen | .number _ => true
  | .rightParen | .operator _ => false

/-- One operand ends and another one begins right after it, without an operator between them. -/
def Juxtaposed (tokens : List Token) : Prop :=
  ∃ first second, [first, second] <:+: tokens ∧ expectsOperand (some first) = false ∧
    second.startsOperand = true

/-- What is left of a sequence in which operands and binary operators alternate and parentheses
match, where `depth` groups are open and an operand is expected or not. -/
inductive Alternates : (expected : Bool) → (depth : Nat) → List Token → Prop where
  | finished : Alternates false 0 []
  | number {depth : Nat} {later : List Token} (value : Value) :
    Alternates false depth later → Alternates true depth (.number value :: later)
  | opening {depth : Nat} {later : List Token} :
    Alternates true (depth + 1) later → Alternates true depth (.leftParen :: later)
  | negation {depth : Nat} {later : List Token} :
    Alternates true depth later → Alternates true depth (.binaryMinus :: later)
  | closing {depth : Nat} {later : List Token} :
    Alternates false depth later → Alternates false (depth + 1) (.rightParen :: later)
  | operator {depth : Nat} {later : List Token} (op : BinaryOperator) :
    Alternates true depth later → Alternates false depth (.operator (.binary op) :: later)

/-! ### Operands side by side -/

theorem juxtaposed_cons (first : Token) (later : List Token) :
    Juxtaposed (first :: later) ↔
      (expectsOperand (some first) = false ∧ later.head?.any startsOperand = true) ∨
        Juxtaposed later := by
  constructor
  · rintro ⟨one, other, pair, ends, starts⟩
    rcases List.infix_cons_iff.mp pair with here | further
    · obtain ⟨rfl, next⟩ := List.cons_prefix_cons.mp here
      obtain ⟨rest, rfl⟩ := next
      exact .inl ⟨ends, starts⟩
    · exact .inr ⟨one, other, further, ends, starts⟩
  · rintro (⟨ends, starts⟩ | ⟨one, other, pair, found⟩)
    · cases later with
      | nil => cases starts
      | cons next rest => exact ⟨first, next, ⟨[], rest, rfl⟩, ends, starts⟩
    · exact ⟨one, other, List.infix_cons pair, found⟩

theorem not_juxtaposed_nil : ¬ Juxtaposed [] := by
  rintro ⟨one, other, pair, -⟩
  cases List.infix_nil.mp pair

theorem not_juxtaposed_cons {first : Token} {later : List Token} :
    ¬ Juxtaposed (first :: later) ↔
      (expectsOperand (some first) = false → later.head?.any startsOperand = false) ∧
        ¬ Juxtaposed later := by
  rw [juxtaposed_cons, not_or, not_and, Bool.not_eq_true]

/-- Where operands and operators alternate, no two operands stand side by side. -/
theorem Alternates.apart {expected : Bool} {depth : Nat} {tokens : List Token}
    (alternates : Alternates expected depth tokens) :
    (expected = false → tokens.head?.any startsOperand = false) ∧ ¬ Juxtaposed tokens := by
  induction alternates with
  | finished => exact ⟨fun _ => rfl, not_juxtaposed_nil⟩
  | number _ _ ih | closing _ ih =>
    exact ⟨by simp [startsOperand], not_juxtaposed_cons.mpr ⟨fun _ => ih.1 rfl, ih.2⟩⟩
  | opening _ ih | negation _ ih | operator _ _ ih =>
    exact ⟨by simp [startsOperand], not_juxtaposed_cons.mpr ⟨nofun, ih.2⟩⟩

/-! ### Counting operands -/

/-- How many operands are to come that no operator asks for. -/
def lacking (expected : Bool) : Int := if expected then 1 else 0

/-- Whether a token may stand where an operand is expected, or where it is not. -/
def fits : (expected : Bool) → Token → Bool
  | true, .number _ | true, .leftParen | true, .binaryMinus => true
  | false, .rightParen | false, .operator (.binary _) => true
  | _, _ => false

/-- A scanned sequence that may come after `previous` without operands side by side. -/
structure Apart (previous : Option Token) (tokens : List Token) : Prop where
  scanned : .unaryMinus ∉ tokens
  first : expectsOperand previous = false → tokens.head?.any startsOperand = false
  later : ¬ Juxtaposed tokens

theorem Apart.tail {previous : Option Token} {token : Token} {later : List Token}
    (apart : Apart previous (token :: later)) :
    Apart (some (resolveOne previous token)) later := by
  obtain ⟨next, rest⟩ := not_juxtaposed_cons.mp apart.later
  rw [← expectsOperand_resolveOne previous] at next
  exact ⟨fun member => apart.scanned (List.mem_cons_of_mem _ member), next, rest⟩

/-- One token gains at most what was lacking before it less what is lacking after it, and one less
if it stands at a wrong place. This is the step of `surplus_le`. -/
theorem surplus_resolveOne {previous : Option Token} {token : Token} {later : List Token}
    (apart : Apart previous (token :: later)) :
    surplus [resolveOne previous token] + lacking (expectsOperand (some token)) +
      (if fits (expectsOperand previous) token then 0 else 1) ≤
        lacking (expectsOperand previous) := by
  have first := apart.first
  have scanned : token ≠ .unaryMinus := fun same => apart.scanned (same ▸ List.mem_cons_self)
  rw [resolveOne]
  -- only where an operator is expected can a binary minus stay, or an operand stand beside another
  cases expects : expectsOperand previous with
  | true =>
    cases token with
    | leftParen | rightParen => decide
    | number value => exact Int.le_refl 1
    | operator op =>
      cases op with
      | negate => exact absurd rfl scanned
      | binary op => cases op <;> decide
  | false =>
    cases token with
    | leftParen | number => cases first expects
    | rightParen => decide
    | operator op =>
      cases op with
      | negate => exact absurd rfl scanned
      | binary op => cases op <;> decide

/-- A sequence without operands side by side leaves at most as many numbers as were lacking: one
where an operand is expected, none elsewhere. -/
theorem surplus_le {previous : Option Token} {tokens : List Token} (apart : Apart previous tokens) :
    surplus (resolveAfter previous tokens) ≤ lacking (expectsOperand previous) := by
  -- the induction moves the operand that is lacking from token to token
  induction tokens generalizing previous with
  | nil =>
    change 0 ≤ lacking (expectsOperand previous)
    cases expectsOperand previous <;> decide
  | cons token later ih =>
    have one := surplus_resolveOne apart
    have more := ih apart.tail
    rw [expectsOperand_resolveOne] at more
    rw [resolveAfter, surplus_cons]
    split at one <;> omega

/-- If every number that was lacking is left, then the first token stands at a right place and the
rest again leaves all that is lacking before it: one token at a wrong place could not be made up for
later. -/
theorem fits_of_surplus {previous : Option Token} {token : Token} {later : List Token}
    (apart : Apart previous (token :: later))
    (full : surplus (resolveAfter previous (token :: later)) = lacking (expectsOperand previous)) :
    fits (expectsOperand previous) token = true ∧
      surplus (resolveAfter (some (resolveOne previous token)) later) =
        lacking (expectsOperand (some (resolveOne previous token))) := by
  have one := surplus_resolveOne apart
  have more := surplus_le apart.tail
  rw [resolveAfter, surplus_cons] at full
  rw [expectsOperand_resolveOne] at more ⊢
  split at one
  next fitting => exact ⟨fitting, by omega⟩
  · omega

/-- A token at a right place may be put before what alternates after it. The parentheses are the
only tokens that change the depth. -/
theorem Alternates.cons {expected : Bool} {depth : Nat} {token : Token} {later : List Token}
    (fitting : fits expected token = true) (closes : Closes depth (token :: later))
    (follows : ∀ inner, Closes inner later → Alternates (expectsOperand (some token)) inner later) :
    Alternates expected depth (token :: later) := by
  -- which tokens fit depends on what is expected, and the depth only on the parentheses
  cases closes with
  | opening inside =>
    cases expected with
    | true => exact .opening (follows _ inside)
    | false => cases fitting
  | closing outside =>
    cases expected with
    | true => cases fitting
    | false => exact .closing (follows _ outside)
  | other unparenthesised rest =>
    have alternates := follows _ rest
    cases token with
    | leftParen | rightParen => cases unparenthesised
    | number value =>
      cases expected with
      | true => exact .number value alternates
      | false => cases fitting
    | operator op =>
      cases op with
      | negate => cases expected <;> cases fitting
      | binary op =>
        cases expected with
        | false => exact .operator op alternates
        | true =>
          cases op with
          | minus => exact .negation alternates
          | plus | times | divide => cases fitting

/-- Without operands side by side, a sequence whose parentheses match alternates if it has as many
numbers as were lacking. -/
theorem alternates_of_surplus {previous : Option Token} {depth : Nat} {tokens : List Token}
    (closes : Closes depth tokens) (apart : Apart previous tokens)
    (full : surplus (resolveAfter previous tokens) = lacking (expectsOperand previous)) :
    Alternates (expectsOperand previous) depth tokens := by
  induction tokens generalizing previous depth with
  | nil =>
    cases closes
    cases expects : expectsOperand previous with
    | true => rw [expects] at full; cases full
    | false => exact .finished
  | cons token later ih =>
    obtain ⟨fitting, rest⟩ := fits_of_surplus apart full
    refine .cons fitting closes fun inner ends => ?_
    have alternates := ih ends apart.tail rest
    rwa [expectsOperand_resolveOne] at alternates

end Token

namespace Expression

open Token (Alternates Juxtaposed Layout Spells)

/-! ### The sequences of the grammar -/

/-- What the grammar derives is an operand: it alternates where an operand is expected, and an
operator is expected after it. -/
theorem Derives.alternates {level : Level} {tokens : List Token} {tree : Expression}
    (derivation : Derives .factor level tokens tree) {depth : Nat} {later : List Token}
    (follows : Alternates false depth later) : Alternates true depth (tokens ++ later) := by
  induction derivation generalizing depth later with
  | number value => exact .number value follows
  | group _ ih =>
    rw [List.cons_append, List.cons_append, List.append_assoc]
    exact .opening (ih (.closing follows))
  | ofPrimary _ ih | ofFactor _ ih | ofProduct _ ih => exact ih follows
  | negate _ ih => exact .negation (ih follows)
  | product _ _ _ ihLeft ihRight | sum _ _ _ ihLeft ihRight =>
    rw [List.append_assoc]
    exact ihLeft (.operator _ (ihRight follows))

/-- Whatever expression of the level `inner` comes next, it makes one of the level `outer` together
with what is before it. -/
def Extends (inner outer : Level) (before : List Token) : Prop :=
  ∀ tokens tree, Derives .factor inner tokens tree →
    ∃ whole, Derives .factor outer (before ++ tokens) whole

/-- What has been read of a group where an operand is expected: the part before its last product,
and the part of this product. -/
def Open (before : List Token) : Prop :=
  ∃ start lead, before = start ++ lead ∧ Extends .product .sum start ∧
    Extends .factor .product lead

/-- What has been read of a group where an operand is complete. -/
def Complete (before : List Token) : Prop :=
  ∃ start last tree, before = start ++ last ∧ Extends .product .sum start ∧
    Derives .factor .product last tree

/-- What has been read of a sequence with `depth` open groups: in all but the innermost one an
operand is expected. -/
def Within (innermost : List Token → Prop) : Nat → List Token → Prop
  | 0, before => innermost before
  | depth + 1, before => ∃ outer inner, before = outer ++ .leftParen :: inner ∧
      Within Open depth outer ∧ innermost inner

theorem open_nil : Open [] :=
  ⟨[], [], rfl, fun _ tree product => ⟨tree, .ofProduct product⟩,
    fun _ tree factor => ⟨tree, .ofFactor factor⟩⟩

/-- A primary completes what is open: it is a factor, with which the last product ends. -/
theorem Open.primary {before tokens : List Token} {tree : Expression} (expects : Open before)
    (primary : Derives .factor .primary tokens tree) : Complete (before ++ tokens) := by
  obtain ⟨start, lead, rfl, extending, grows⟩ := expects
  obtain ⟨whole, product⟩ := grows tokens tree (.ofPrimary primary)
  exact ⟨start, lead ++ tokens, whole, List.append_assoc _ _ _, extending, product⟩

theorem Open.negate {before : List Token} (expects : Open before) :
    Open (before ++ [.binaryMinus]) := by
  obtain ⟨start, lead, rfl, extending, grows⟩ := expects
  refine ⟨start, lead ++ [.binaryMinus], List.append_assoc _ _ _, extending, ?_⟩
  intro tokens tree factor
  rw [List.append_assoc]
  exact grows _ _ (.negate factor)

theorem Complete.stacked {before : List Token} (complete : Complete before) :
    ∃ tree, Stacked before tree := by
  obtain ⟨start, last, tree, rfl, extending, product⟩ := complete
  exact extending last tree product

/-- After a complete sequence a binary operator may follow, whichever level of the grammar it joins.
-/
theorem Complete.operator {before : List Token} (complete : Complete before)
    (op : BinaryOperator) : Open (before ++ [.operator (.binary op)]) := by
  obtain ⟨whole, sum⟩ := complete.stacked
  obtain ⟨start, last, tree, rfl, extending, product⟩ := complete
  by_cases isSum : op = .plus ∨ op = .minus
  · -- the whole sum is the left operand
    refine ⟨start ++ last ++ [.operator (.binary op)], [], (List.append_nil _).symm, ?_, ?_⟩
    · intro tokens right next
      rw [List.append_assoc _ [_]]
      exact ⟨_, .sum isSum sum next⟩
    · exact fun _ tree factor => ⟨tree, .ofFactor factor⟩
  · -- only the last product is the left operand
    have isProduct : op = .times ∨ op = .divide := by cases op <;> simp_all
    refine ⟨start, last ++ [.operator (.binary op)], List.append_assoc _ _ _, extending, ?_⟩
    intro tokens right next
    rw [List.append_assoc]
    exact ⟨_, .product isProduct product next⟩

/-- What the innermost group grows to, the whole sequence grows to. -/
theorem Within.append {innermost other : List Token → Prop} {tokens : List Token}
    (grows : ∀ before, innermost before → other (before ++ tokens)) {depth : Nat}
    {before : List Token} (within : Within innermost depth before) :
    Within other depth (before ++ tokens) := by
  cases depth with
  | zero => exact grows before within
  | succ depth =>
    obtain ⟨outer, inner, rfl, outside, inside⟩ := within
    exact ⟨outer, inner ++ tokens, by simp, outside, grows inner inside⟩

/-- What alternates after a sequence that is read so far completes it to an expression. The
induction is on the alternation, and the invariant is that inside the groups still open the sequence
lacks an operand or is complete. -/
theorem stacked_of_alternates {expected : Bool} {depth : Nat} {rest : List Token}
    (alternates : Alternates expected depth rest) {before : List Token}
    (read : Within (if expected then Open else Complete) depth before) :
    ∃ tree, Stacked (before ++ rest) tree := by
  -- each token moves to what has been read, and keeps it open or completes it
  induction alternates generalizing before with
  | finished =>
    rw [List.append_nil]
    exact Complete.stacked read
  | number value _ ih =>
    rw [List.append_cons]
    exact ih (read.append fun _ expects => expects.primary (.number value))
  | opening _ ih =>
    rw [List.append_cons]
    exact ih ⟨before, [], rfl, read, open_nil⟩
  | negation _ ih =>
    rw [List.append_cons]
    exact ih (read.append fun _ expects => expects.negate)
  | closing _ ih =>
    obtain ⟨outer, inner, rfl, outside, inside⟩ := read
    obtain ⟨tree, sum⟩ := Complete.stacked inside
    have whole := ih (outside.append fun _ expects => expects.primary (.group sum))
    simpa using whole
  | operator op _ ih =>
    rw [List.append_cons]
    exact ih (read.append fun _ complete => complete.operator op)

/-- The expressions of the grammar are the sequences in which operands and operators alternate, with
parentheses that match. -/
theorem exists_stacked_iff (tokens : List Token) :
    (∃ tree, Stacked tokens tree) ↔ Alternates true 0 tokens := by
  constructor
  · rintro ⟨tree, derivation⟩
    have whole := derivation.alternates .finished
    rwa [List.append_nil] at whole
  · intro alternates
    exact stacked_of_alternates alternates open_nil

/-! ### Sequences with a value -/

/-- Among the scanned sequences that evaluate under the strict policy, the expressions are those
without operands side by side: exactly one number is left, which leaves no room for a token at a
wrong place. -/
theorem stacked_iff_of_strict {tokens : List Token} {value : Value}
    (evaluates : valueOfTokens tokens .strict = .ok value) (scanned : .unaryMinus ∉ tokens) :
    (∃ tree, Stacked tokens tree) ↔ ¬ Juxtaposed tokens := by
  rw [exists_stacked_iff]
  constructor
  · intro alternates
    exact alternates.apart.2
  · intro separate
    have closes := closes_of_valueOfTokens evaluates
    have full := surplus_of_strict evaluates
    have apart : Token.Apart none tokens :=
      ⟨scanned, fun late => absurd late (by decide), separate⟩
    exact Token.alternates_of_surplus closes apart full

/-- Under the strict policy a text with a value is an infix expression if and only if no two
operands stand side by side in it. A malformed sequence without operands side by side that has a
postfix form is refused by the evaluator. -/
theorem evaluate_strict_iff {source : String} {policies : Policies}
    (strict : policies.stack = .strict) :
    (∀ value, evaluate source policies = .ok value →
      ∃ tokens, scan source policies.overflow = .ok tokens ∧
        ((∃ tree, Stacked tokens tree) ↔ ¬ Juxtaposed tokens)) ∧
    ∀ tokens ordered, scan source policies.overflow = .ok tokens →
      Postfix.ofInfix (Token.resolveMinus tokens) = .ok ordered → ¬ Juxtaposed tokens →
      (¬ ∃ tree, Stacked tokens tree) →
      ∃ error, evaluate source policies = .error (.eval error) := by
  have scannable : ∀ tokens, scan source policies.overflow = .ok tokens → .unaryMinus ∉ tokens := by
    intro tokens scanned member
    exact ((Scanner.layout_of_scanAll scanned).scannable _ member).1 rfl
  constructor
  · intro value evaluates
    rw [evaluate_eq, strict] at evaluates
    cases scanned : scan source policies.overflow with
    | error error => simp [scanned] at evaluates
    | ok tokens =>
      simp only [scanned] at evaluates
      exact ⟨tokens, rfl, stacked_iff_of_strict evaluates (scannable tokens scanned)⟩
  · intro tokens ordered scanned converts separate malformed
    have answer : valueOfTokens tokens .strict = (Postfix.eval .strict ordered).mapError .eval := by
      rw [valueOfTokens_eq, converts]
    -- a value would make an expression of the sequence, as no operands stand side by side
    cases found : Postfix.eval .strict ordered with
    | ok value =>
      rw [found] at answer
      have wellFormed := stacked_iff_of_strict answer (scannable tokens scanned)
      exact absurd (wellFormed.mpr separate) malformed
    | error error =>
      refine ⟨error, ?_⟩
      rw [evaluate_eq, scanned, strict]
      simp only [answer, found]
      rfl

/-- A text in postfix order is no infix expression, but its operands stand side by side and make up
for those that its operators miss. -/
theorem evaluate_strict_postfix :
    scan "1 2 +" .reject = .ok [.number 1, .number 2, .plus] ∧
      evaluate "1 2 +" ⟨.reject, .strict⟩ = .ok 3 ∧
      ¬ ∃ tree, Stacked [.number 1, .number 2, .plus] tree := by
  have one : Spells .reject ['1'] (.number 1) := .number (by decide) (by decide)
  have two : Spells .reject ['2'] (.number 2) := .number (by decide) (by decide)
  have sign : Layout .reject "+".toList [.plus] :=
    layout_spells (.operator .plus) (.blanks allBlank_nil) (by decide)
  have layout : Layout .reject "1 2 +".toList [.number 1, .number 2, .plus] :=
    layout_spells one (layout_blank rfl (layout_spells two (layout_blank rfl sign) (by decide)))
      (by decide)
  have scanned : scan "1 2 +" .reject = .ok [.number 1, .number 2, .plus] :=
    Scanner.scanAll_of_layout layout .start
  refine ⟨scanned, ?_, ?_⟩
  · have answer : valueOfTokens [.number 1, .number 2, .plus] .strict = .ok 3 := by decide
    rw [evaluate_eq]
    simp only [scanned, answer]
  · rw [exists_stacked_iff]
    intro alternates
    cases alternates with
    | number _ later => cases later

theorem evaluate_strict_misplaced :
    scan "1+*2" .saturate = .ok [.number 1, .plus, .times, .number 2] ∧
      ∃ error, evaluate "1+*2" ⟨.saturate, .strict⟩ = .error (.eval error) := by
  have one : Spells .saturate ['1'] (.number 1) := .number (by decide) (by decide)
  have two : Spells .saturate ['2'] (.number 2) := .number (by decide) (by decide)
  have last : Layout .saturate "2".toList [.number 2] :=
    layout_spells two (.blanks allBlank_nil) (by decide)
  have layout : Layout .saturate "1+*2".toList [.number 1, .plus, .times, .number 2] :=
    layout_spells one (layout_spells (.operator .plus) (layout_spells (.operator .times) last
      (by decide)) (by decide)) (by decide)
  have scanned : scan "1+*2" .saturate = .ok [.number 1, .plus, .times, .number 2] :=
    Scanner.scanAll_of_layout layout .start
  have separate : ¬ Juxtaposed [.number 1, .plus, .times, .number 2] := by
    simp [Token.not_juxtaposed_cons, Token.not_juxtaposed_nil, Token.startsOperand,
      Token.expectsOperand]
  have malformed : ¬ ∃ tree, Stacked [.number 1, .plus, .times, .number 2] tree := by
    rw [exists_stacked_iff]
    intro alternates
    cases alternates with
    | number _ rest =>
      cases rest with
      | operator _ later => cases later
  exact ⟨scanned, (evaluate_strict_iff rfl).2 _ _ scanned rfl separate malformed⟩

end Expression
end Calculator
