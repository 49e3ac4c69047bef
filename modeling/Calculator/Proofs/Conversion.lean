import Calculator.Expression.Grammar
import Calculator.Proofs.Group

/-!
# Infix expressions in postfix order

An infix expression is converted into the postfix form of its tree, on top of anything pending that
binds less tightly. The part of the form that has gone out and the operators that still wait make up
the whole form at every moment, and the operators that wait bind at least as tightly as the level of
the expression.

A minus sign right after a unary one breaks this. It releases the sign before it at once, and the
released sign applies to the operand that is complete by then, which stands to the left of the
expression. So all signs of a stack but the last are displaced to the left operand of the operator
before them, or to nothing at all.

## Main statements

* `Displaced`: what an infix expression is evaluated as, signs displaced to its left included.
* `converts_displaced`: the displaced signs go out, then the postfix form of the rest.
* `Derives.displaced`: without stacked minus signs nothing is displaced and the tree is unchanged.
* `Derives.exists_displaced`: every infix expression has such a form.
* `stepsOfTokens_displaced`: the value of an infix expression is that of its displaced form.
-/
namespace Calculator

namespace Expression

/-- An expression behind some minus signs. -/
def negated : Nat → Expression → Expression
  | 0, tree => tree
  | count + 1, tree => .negate (negated count tree)

theorem postorder_negated (count : Nat) (tree : Expression) :
    (negated count tree).postorder = tree.postorder ++ List.replicate count .unaryMinus := by
  induction count with
  | zero => exact (List.append_nil _).symm
  | succ count ih =>
    rw [negated, postorder, ih, List.append_assoc, ← List.replicate_succ']

/-- What the tokens of an infix expression are evaluated as: the minus signs that are displaced to
the operand on the left of the expression, and the tree of the rest. Between two operands the signs
displaced from the right one negate the left one. -/
inductive Displaced : Level → List Token → Nat → Expression → Prop where
  | number (value : Value) : Displaced .primary [.number value] 0 (.literal value)
  | group {tokens : List Token} {count : Nat} {tree : Expression} :
    Displaced .sum tokens count tree →
      Displaced .primary (.leftParen :: tokens ++ [.rightParen]) count tree
  | ofPrimary {tokens : List Token} {count : Nat} {tree : Expression} :
    Displaced .primary tokens count tree → Displaced .factor tokens count tree
  | negate {tokens : List Token} {count : Nat} {tree : Expression} :
    Displaced .primary tokens count tree →
      Displaced .factor (.binaryMinus :: tokens) count (.negate tree)
  | again {tokens : List Token} {count : Nat} {tree : Expression} :
    Displaced .factor (.binaryMinus :: tokens) count tree →
      Displaced .factor (.binaryMinus :: .binaryMinus :: tokens) (count + 1) tree
  | ofFactor {tokens : List Token} {count : Nat} {tree : Expression} :
    Displaced .factor tokens count tree → Displaced .product tokens count tree
  | product {op : BinaryOperator} {first second : List Token} {m n : Nat}
      {left right : Expression} :
    op = .times ∨ op = .divide →
      Displaced .product first m left → Displaced .factor second n right →
      Displaced .product (first ++ .operator (.binary op) :: second) m
        (.binary op (negated n left) right)
  | ofProduct {tokens : List Token} {count : Nat} {tree : Expression} :
    Displaced .product tokens count tree → Displaced .sum tokens count tree
  | sum {op : BinaryOperator} {first second : List Token} {m n : Nat} {left right : Expression} :
    op = .plus ∨ op = .minus →
      Displaced .sum first m left → Displaced .product second n right →
      Displaced .sum (first ++ .operator (.binary op) :: second) m
        (.binary op (negated n left) right)

end Expression

/-! ### Converting on top of looser operators -/

namespace Postfix

/-- How a resolved sequence is converted as an expression: on top of looser operators it sends out
the displaced minus signs and a part of the postfix form of the tree; the rest of this form waits,
and binds at least as tightly as `limit`. -/
def Converts (limit : Nat) (resolved : List Token) (count : Nat) (tree : Expression) : Prop :=
  ∀ pending, Below limit pending → ∃ out waiting,
    convert pending resolved = .ok (List.replicate count .unaryMinus ++ out,
      List.map Pending.operator waiting ++ pending) ∧
    out ++ waiting.map Token.operator = tree.postorder ∧
    ∀ op ∈ waiting, limit ≤ op.precedence

/-- At the end of the sequence what waits goes out, and the postfix form is complete. -/
theorem Converts.ofInfix {limit count : Nat} {resolved : List Token} {tree : Expression}
    (converts : Converts limit resolved count tree) :
    ofInfix resolved = .ok (List.replicate count .unaryMinus ++ tree.postorder) := by
  have nothing : Below limit [] := fun _ member => by cases member
  obtain ⟨out, waiting, done, form, -⟩ := converts [] nothing
  rw [List.append_nil] at done
  rw [Postfix.ofInfix, done, ← form]
  simp only [finish_eq_ok_iff.mpr ⟨waiting, rfl, rfl⟩, Except.map, List.append_assoc]

theorem Converts.of_le {limit tighter count : Nat} {resolved : List Token} {tree : Expression}
    (converts : Converts tighter resolved count tree) (le : limit ≤ tighter) :
    Converts limit resolved count tree := by
  intro pending below
  obtain ⟨out, waiting, done, form, tight⟩ := converts pending (below.of_le le)
  exact ⟨out, waiting, done, form, fun op member => Nat.le_trans le (tight op member)⟩

theorem Converts.number (limit : Nat) (value : Value) :
    Converts limit [.number value] 0 (.literal value) :=
  fun _ _ => ⟨[.number value], [], rfl, rfl, fun _ member => by cases member⟩

/-- A group is converted by itself: all of it has gone out when it is closed, so that no limit is
left. -/
theorem Converts.group {looser count : Nat} {inner : List Token} {tree : Expression}
    (converts : Converts looser inner count tree) (limit : Nat) :
    Converts limit (.leftParen :: inner ++ [.rightParen]) count tree := by
  intro pending _
  -- nothing of the form waits, so the group may stand at any level
  exact ⟨tree.postorder, [], convert_group converts.ofInfix pending, List.append_nil _,
    fun _ member => by cases member⟩

/-- A minus sign waits for a primary, which has no operator that waits with it. -/
theorem Converts.negate {count : Nat} {resolved : List Token} {tree : Expression}
    (converts : Converts 5 resolved count tree) :
    Converts 4 (.unaryMinus :: resolved) count (.negate tree) := by
  intro pending below
  have above : Below 5 (.operator .negate :: pending) := by
    intro top member
    cases member
    rfl
  obtain ⟨out, waiting, done, form, tight⟩ := converts _ above
  have waits : step pending .unaryMinus = .ok ([], .operator .negate :: pending) := step_waits below
  -- the sign waits behind all that its operand leaves waiting
  refine ⟨out, waiting ++ [.negate], ?_, ?_, ?_⟩
  · simp only [convert, waits, done, Except.map, List.nil_append, List.map_append, List.map_cons,
      List.map_nil, List.append_assoc, List.cons_append]
  · rw [Expression.postorder, ← form]
    simp
  · intro op member
    rcases List.mem_append.mp member with earlier | last
    · exact Nat.le_of_succ_le (tight op earlier)
    · rw [List.mem_singleton.mp last]
      exact Nat.le_refl _

/-- A minus sign right after a unary one releases it: the sign goes out before its operand. -/
theorem Converts.again {count : Nat} {resolved : List Token} {tree : Expression}
    (converts : Converts 4 (.unaryMinus :: resolved) count tree) :
    Converts 4 (.unaryMinus :: .unaryMinus :: resolved) (count + 1) tree := by
  intro pending below
  obtain ⟨out, waiting, done, form, tight⟩ := converts pending below
  have first : step pending .unaryMinus = .ok ([], .operator .negate :: pending) := step_waits below
  have ties : ∀ other ∈ [Operator.negate], Operator.negate.precedence ≤ other.precedence := by
    intro other member
    exact Nat.le_of_eq (congrArg _ (List.mem_singleton.mp member).symm)
  have second : step (.operator .negate :: pending) .unaryMinus =
      .ok ([.unaryMinus], .operator .negate :: pending) := step_operator ties below
  refine ⟨out, waiting, ?_, form, tight⟩
  -- with one sign or two, the rest of the tokens meets the same pending operators
  simp only [convert, first] at done
  obtain ⟨⟨sent, left⟩, rest, same⟩ := map_eq_ok done
  simp only [List.nil_append, Prod.mk.injEq] at same
  simp [convert, first, second, rest, same, Except.map, List.replicate_succ]

/-- An operator releases what its left operand leaves waiting, and waits itself while the tighter
right operand is converted. -/
theorem Converts.binary {op : BinaryOperator} {limit m n : Nat} {first second : List Token}
    {left right : Expression} (binds : op.precedence = limit)
    (convertsLeft : Converts limit first m left)
    (convertsRight : Converts (limit + 1) second n right) :
    Converts limit (first ++ .operator (.binary op) :: second) m
      (.binary op (Expression.negated n left) right) := by
  subst binds
  intro pending below
  obtain ⟨out, waiting, done, form, tight⟩ := convertsLeft pending below
  -- the left form is complete when the operator comes, since all that waits of it binds as tightly
  have releases : step (waiting.map Pending.operator ++ pending) (.operator (.binary op)) =
      .ok (waiting.map Token.operator, .operator (.binary op) :: pending) :=
    step_operator tight below
  -- the operator is loose enough for the right operand, of the next level, to be converted above it
  have above : Below (op.precedence + 1) (.operator (.binary op) :: pending) := by
    intro top member
    cases member
    exact decide_eq_false (Nat.not_succ_le_self _)
  obtain ⟨later, behind, doneRight, formRight, tightRight⟩ := convertsRight _ above
  refine ⟨out ++ waiting.map Token.operator ++ List.replicate n .unaryMinus ++ later,
    behind ++ [.binary op], ?_, ?_, ?_⟩
  · rw [convert_append, done]
    simp only [convert, releases, doneRight, Except.map, List.map_append, List.map_cons,
      List.map_nil, List.append_assoc, List.cons_append, List.nil_append]
  · rw [Expression.postorder, Expression.postorder_negated, ← form, ← formRight]
    simp
  · intro other member
    rcases List.mem_append.mp member with earlier | last
    · exact Nat.le_of_succ_le (tightRight other earlier)
    · rw [List.mem_singleton.mp last]
      exact Nat.le_refl _

end Postfix

/-! ### Converting derivations -/

namespace Token

/-- A binary operator behind a complete operand stays what it is, and the minus signs on both sides
are resolved apart. -/
theorem resolveAfter_operator {previous : Option Token} {first : List Token}
    (complete : expectsOperand first.getLast? = false) (op : BinaryOperator) (second : List Token) :
    resolveAfter previous (first ++ .operator (.binary op) :: second) =
      resolveAfter previous first ++
        .operator (.binary op) :: resolveAfter (some (.operator (.binary op))) second := by
  -- the last token of `first` decides, so the operator is binary whatever comes before
  have last : expectsOperand (first.getLast?.or previous) = false := by
    cases found : first.getLast? with
    | none => simp [found, expectsOperand] at complete
    | some token => simpa [found] using complete
  rw [resolveAfter_append, resolveAfter, resolveOne]
  simp [last]

theorem complete_append {second : List Token} (complete : expectsOperand second.getLast? = false)
    (first : List Token) : expectsOperand (first ++ second).getLast? = false := by
  cases found : second.getLast? with
  | none => simp [found, expectsOperand] at complete
  | some token => simpa [List.getLast?_append, found] using complete

theorem resolveAfter_minus {previous : Option Token} (opens : expectsOperand previous = true)
    (later : List Token) :
    resolveAfter previous (.binaryMinus :: later) =
      .unaryMinus :: resolveAfter (some .unaryMinus) later := by
  simp [resolveAfter, resolveOne, opens]

end Token

namespace Expression

open Postfix (Converts)

/-- How tightly the operators bind that an expression of a level may leave waiting. -/
def Level.tightness : Level → Nat
  | .sum => 2
  | .product => 3
  | .factor => 4
  | .primary => 5

/-- An expression ends with an operand that is complete, so that a minus sign after it is binary. -/
theorem Displaced.complete {level : Level} {tokens : List Token} {count : Nat} {tree : Expression}
    (displaced : Displaced level tokens count tree) :
    Token.expectsOperand tokens.getLast? = false := by
  induction displaced with
  | number value => rfl
  | @group tokens _ _ _ _ => exact Token.complete_append rfl (.leftParen :: tokens)
  | ofPrimary _ ih | ofFactor _ ih | ofProduct _ ih => exact ih
  | negate _ ih => exact Token.complete_append ih [.binaryMinus]
  | again _ ih => exact Token.complete_append ih [.binaryMinus]
  | @product op first _ _ _ _ _ _ _ _ _ ih | @sum op first _ _ _ _ _ _ _ _ _ ih =>
    have whole := Token.complete_append ih (first ++ [.operator (.binary op)])
    rwa [List.append_assoc, List.singleton_append] at whole

/-- An infix expression where an operand is expected converts to its displaced minus signs and the
postfix form of the rest. -/
theorem converts_displaced {level : Level} {tokens : List Token} {count : Nat} {tree : Expression}
    (displaced : Displaced level tokens count tree) {previous : Option Token}
    (opens : Token.expectsOperand previous = true) :
    Converts level.tightness (Token.resolveAfter previous tokens) count tree := by
  -- one spec lemma for each constructor; the levels are those the lemmas are about
  induction displaced generalizing previous with
  | number value => exact Converts.number _ value
  | @group tokens count tree _ ih =>
    rw [Token.resolveAfter_group previous tokens []]
    exact (ih rfl).group _
  | ofPrimary _ ih | ofFactor _ ih | ofProduct _ ih => exact (ih opens).of_le (by decide)
  | negate _ ih =>
    rw [Token.resolveAfter_minus opens]
    exact (ih rfl).negate
  | again _ ih =>
    -- a minus sign after a unary one is unary itself
    rw [Token.resolveAfter_minus opens, Token.resolveAfter_minus rfl]
    have once := ih opens
    rw [Token.resolveAfter_minus opens] at once
    exact once.again
  | @product op _ _ _ _ _ _ isProduct left _ ihLeft ihRight =>
    have next : Token.expectsOperand (some (.operator (.binary op))) = true := rfl
    have binds : op.precedence = 3 := by rcases isProduct with rfl | rfl <;> rfl
    rw [Token.resolveAfter_operator left.complete]
    exact (ihLeft opens).binary binds (ihRight next)
  | @sum op _ _ _ _ _ _ isSum left _ ihLeft ihRight =>
    have next : Token.expectsOperand (some (.operator (.binary op))) = true := rfl
    have binds : op.precedence = 2 := by rcases isSum with rfl | rfl <;> rfl
    rw [Token.resolveAfter_operator left.complete]
    exact (ihLeft opens).binary binds (ihRight next)

/-- A whole expression is converted to the postfix form of its displaced tree, behind the minus
signs that have no operand. -/
theorem ofInfix_displaced {tokens : List Token} {count : Nat} {tree : Expression}
    (displaced : Displaced .sum tokens count tree) :
    Postfix.ofInfix (Token.resolveMinus tokens) =
      .ok (List.replicate count .unaryMinus ++ tree.postorder) := by
  have start : Token.expectsOperand none = true := rfl
  exact (converts_displaced displaced start).ofInfix

/-- Where no minus signs stand one after another, nothing is displaced. -/
theorem Derives.displaced {level : Level} {tokens : List Token} {tree : Expression}
    (derivation : Derives .primary level tokens tree) : Displaced level tokens 0 tree := by
  induction derivation with
  | number value => exact .number value
  | group _ ih => exact .group ih
  | ofPrimary _ ih => exact .ofPrimary ih
  | negate _ ih => exact .negate ih
  | ofFactor _ ih => exact .ofFactor ih
  | product op _ _ ihLeft ihRight => exact .product op ihLeft ihRight
  | ofProduct _ ih => exact .ofProduct ih
  | sum op _ _ ihLeft ihRight => exact .sum op ihLeft ihRight

/-- Every infix expression is evaluated as something, with displaced minus signs where there are
stacks of them. -/
theorem Derives.exists_displaced {level : Level} {tokens : List Token} {tree : Expression}
    (derivation : Derives .factor level tokens tree) :
    ∃ count moved, Displaced level tokens count moved := by
  induction derivation with
  | number value => exact ⟨0, _, .number value⟩
  | group _ ih =>
    obtain ⟨count, moved, inner⟩ := ih
    exact ⟨count, moved, .group inner⟩
  | ofPrimary _ ih =>
    obtain ⟨count, moved, primary⟩ := ih
    exact ⟨count, moved, .ofPrimary primary⟩
  | negate _ ih =>
    obtain ⟨count, moved, operand⟩ := ih
    -- the operand decides whether this sign is the last of its stack
    cases operand with
    | ofPrimary primary => exact ⟨count, _, .negate primary⟩
    | negate primary => exact ⟨_, _, .again (.negate primary)⟩
    | again stack => exact ⟨_, _, .again (.again stack)⟩
  | ofFactor _ ih =>
    obtain ⟨count, moved, factor⟩ := ih
    exact ⟨count, moved, .ofFactor factor⟩
  | product op _ _ ihLeft ihRight =>
    obtain ⟨count, _, left⟩ := ihLeft
    obtain ⟨_, _, right⟩ := ihRight
    exact ⟨count, _, .product op left right⟩
  | ofProduct _ ih =>
    obtain ⟨count, moved, product⟩ := ih
    exact ⟨count, moved, .ofProduct product⟩
  | sum op _ _ ihLeft ihRight =>
    obtain ⟨count, _, left⟩ := ihLeft
    obtain ⟨_, _, right⟩ := ihRight
    exact ⟨count, _, .sum op left right⟩

/-! ### Evaluating what was converted -/

/-- A minus sign without an operand fails, and without such signs the tree is evaluated. -/
theorem eval_displaced (count : Nat) (tree : Expression) (policy : StackPolicy) :
    Postfix.eval policy (List.replicate count .unaryMinus ++ tree.postorder) =
      if count = 0 then tree.value else .error .insufficientOperands := by
  cases count with
  | zero => exact eval_postorder tree policy
  | succ count => rfl -- the first displaced sign finds no operand

theorem stepsOfTokens_displaced {tokens : List Token} {count : Nat} {tree : Expression}
    (displaced : Displaced .sum tokens count tree) (policy : StackPolicy) :
    stepsOfTokens tokens policy =
      match if count = 0 then tree.value else .error .insufficientOperands with
      | .error error => .error (.eval error)
      | .ok value => .ok ⟨tokens, Token.resolveMinus tokens,
          List.replicate count .unaryMinus ++ tree.postorder, value⟩ := by
  have form := ofInfix_displaced displaced
  have answer := eval_displaced count tree policy
  rw [← answer]
  cases found : Postfix.eval policy (List.replicate count .unaryMinus ++ tree.postorder) <;>
    simp only [stepsOfTokens, form, found]

end Expression
end Calculator
