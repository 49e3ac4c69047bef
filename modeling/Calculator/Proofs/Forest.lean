import Calculator.Proofs.Result
import Mathlib.Data.List.Forall2

/-!
# Postfix sequences and forests

A postfix sequence that leaves operands on the stack lists a forest: one expression for each operand
that is left, the first one at the bottom. Both directions matter. Listing a forest and evaluating
the list pushes the values of its expressions one after another, or stops with the first error; and
a run that succeeds has read the list of exactly one forest, which the stack allows to rebuild.

## Main statements

* `evalToken_cases`, `evalToken_error`: all that one token can do to the stack, and its errors.
* `run_error`: the error of a run is that of one of its tokens.
* `forest_injective`: a sequence lists at most one forest.
* `run_ok_iff`: the runs that succeed are those of forests in which every expression has a value.
* `eval_iff_forest`: what the evaluator accepts under each policy, and its errors on forests.
-/
namespace Calculator

/-! ### What one token does -/

namespace Postfix

/-- All that a token can do to the stack: push a number, or replace one operand or two by a result.
-/
theorem evalToken_cases {stack pushed : OperandStack} {token : Token}
    (evaluates : evalToken stack token = .ok pushed) :
    (∃ value, token = .number value ∧ pushed = stack.push value) ∨
    (∃ operand below value, token = .operator .negate ∧ stack.values = operand :: below ∧
      checked (-operand.toInt) = .ok value ∧ pushed = ⟨value :: below⟩) ∨
    (∃ op left right below value, token = .operator (.binary op) ∧
      stack.values = right :: left :: below ∧
      op.apply left right = .ok value ∧ pushed = ⟨value :: below⟩) := by
  obtain ⟨values⟩ := stack
  cases token with
  | leftParen | rightParen => cases evaluates
  | number value =>
    cases evaluates
    exact .inl ⟨value, rfl, rfl⟩
  | operator op =>
    right
    cases op with
    | negate =>
      left
      cases values with
      | nil => cases evaluates
      | cons operand below =>
        obtain ⟨applied, taken, pushes⟩ := map_eq_ok evaluates
        obtain ⟨value, result, rfl⟩ := map_eq_ok taken
        exact ⟨operand, below, value, rfl, rfl, result, pushes.symm⟩
    | binary op =>
      right
      rcases values with _ | ⟨right, _ | ⟨left, below⟩⟩
      · cases evaluates
      · cases evaluates
      · obtain ⟨applied, taken, pushes⟩ := map_eq_ok evaluates
        obtain ⟨value, result, rfl⟩ := map_eq_ok taken
        exact ⟨op, left, right, below, value, rfl, rfl, result, pushes.symm⟩

theorem checked_error {n : Int} {error : EvalError} (fails : checked n = .error error) :
    error = .arithmeticOverflow := by
  unfold checked at fails
  split at fails
  · cases fails
  · exact (Except.error.inj fails).symm

theorem apply_error {op : BinaryOperator} {left right : Value} {error : EvalError}
    (fails : op.apply left right = .error error) :
    error = .divisionByZero ∨ error = .arithmeticOverflow := by
  cases op with
  | plus | minus | times => exact .inr (checked_error fails)
  | divide =>
    rw [BinaryOperator.apply] at fails
    split at fails
    · exact .inl (Except.error.inj fails).symm
    · exact .inr (checked_error fails)

theorem applyOperator_error {stack : OperandStack} {op : Operator} {error : EvalError}
    (fails : applyOperator stack op = .error error) :
    error = .insufficientOperands ∨ error = .divisionByZero ∨ error = .arithmeticOverflow := by
  obtain ⟨values⟩ := stack
  cases op with
  | negate =>
    cases values with
    | nil => exact .inl (Except.error.inj fails).symm
    | cons operand below => exact .inr (.inr (checked_error (map_eq_error_iff.mp fails)))
  | binary op =>
    rcases values with _ | ⟨right, _ | ⟨left, below⟩⟩
    · exact .inl (Except.error.inj fails).symm
    · exact .inl (Except.error.inj fails).symm
    · exact .inr (apply_error (map_eq_error_iff.mp fails))

/-- A token fails as an operator does, and a parenthesis because it is one. -/
theorem evalToken_error {stack : OperandStack} {token : Token} {error : EvalError}
    (fails : evalToken stack token = .error error) :
    (token.isParen = true ∧ error = .unexpectedParenthesis) ∨
      error = .insufficientOperands ∨ error = .divisionByZero ∨ error = .arithmeticOverflow := by
  cases token with
  | leftParen | rightParen => exact .inl ⟨rfl, (Except.error.inj fails).symm⟩
  | number value => cases fails
  | operator op => exact .inr (applyOperator_error (map_eq_error_iff.mp fails))

theorem run_error {stack : OperandStack} {tokens : List Token} {error : EvalError}
    (fails : run stack tokens = .error error) :
    ∃ token ∈ tokens, ∃ reached, evalToken reached token = .error error := by
  induction tokens generalizing stack with
  | nil => cases fails
  | cons token later ih =>
    rw [run] at fails
    split at fails
    next stops =>
      cases fails
      exact ⟨token, List.mem_cons_self, stack, stops⟩
    next pushed _ =>
      obtain ⟨other, member, found⟩ := ih fails
      exact ⟨other, List.mem_cons_of_mem _ member, found⟩

end Postfix

/-! ### Listing a forest -/

namespace Expression

/-- The postfix forms of several expressions, one after another. -/
def forest (trees : List Expression) : List Token := trees.flatMap postorder

@[simp] theorem forest_nil : forest [] = [] := rfl

@[simp] theorem forest_cons (tree : Expression) (trees : List Expression) :
    forest (tree :: trees) = tree.postorder ++ forest trees := rfl

@[simp] theorem forest_append (first second : List Expression) :
    forest (first ++ second) = forest first ++ forest second :=
  List.flatMap_append

/-- The expressions that a postfix sequence builds on a stack of expressions, if every operator
finds its operands. -/
def rebuild (stack : List Expression) : List Token → Option (List Expression)
  | [] => some stack
  | .number value :: later => rebuild (.literal value :: stack) later
  | .operator .negate :: later =>
    match stack with
    | operand :: below => rebuild (.negate operand :: below) later
    | [] => none
  | .operator (.binary op) :: later =>
    match stack with
    | right :: left :: below => rebuild (.binary op left right :: below) later
    | _ => none
  | .leftParen :: _ | .rightParen :: _ => none

/-- The postorder list of an expression builds this expression on any stack. -/
theorem rebuild_postorder (tree : Expression) (stack : List Expression) (later : List Token) :
    rebuild stack (tree.postorder ++ later) = rebuild (tree :: stack) later := by
  induction tree generalizing stack later with
  | literal value => rfl
  | negate operand ih =>
    rw [postorder, List.append_assoc, ih]
    rfl
  | binary op left right ihLeft ihRight =>
    rw [postorder, List.append_assoc, List.append_assoc, ihLeft, ihRight]
    rfl

theorem rebuild_forest (trees stack : List Expression) :
    rebuild stack (forest trees) = some (trees.reverse ++ stack) := by
  induction trees generalizing stack with
  | nil => rfl
  | cons tree trees ih =>
    rw [forest_cons, rebuild_postorder, ih, List.reverse_cons, List.append_assoc]
    rfl

/-- Expressions are determined by their list, since it builds them again. -/
theorem forest_injective {first second : List Expression} (same : forest first = forest second) :
    first = second := by
  -- rebuilding the forest from its list gives it back
  have rebuilt := rebuild_forest first []
  rw [same, rebuild_forest, Option.some.injEq, List.append_nil, List.append_nil] at rebuilt
  exact (List.reverse_injective rebuilt).symm

/-! ### Runs that succeed -/

/-- The expressions that the operands of a stack are the values of, the top one first. -/
def Stand (trees : List Expression) (stack : OperandStack) : Prop :=
  List.Forall₂ (fun tree value => tree.value = .ok value) trees stack.values

/-- The invariant of a run: expressions stand for the stack, and their list is what was read. -/
theorem stand_evalToken {trees : List Expression} {stack pushed : OperandStack} {token : Token}
    (stand : Stand trees stack) (evaluates : Postfix.evalToken stack token = .ok pushed) :
    ∃ grown, Stand grown pushed ∧ forest grown.reverse = forest trees.reverse ++ [token] := by
  rcases Postfix.evalToken_cases evaluates with
    ⟨value, rfl, rfl⟩ | ⟨operand, below, value, rfl, shape, result, rfl⟩ |
    ⟨op, left, right, below, value, rfl, shape, result, rfl⟩
  · exact ⟨.literal value :: trees, .cons rfl stand, by simp [postorder]⟩
  · rw [Stand, shape] at stand
    cases stand with
    | @cons tree _ others _ found rest =>
      refine ⟨.negate tree :: others, .cons ?_ rest, by simp [postorder]⟩
      rw [Expression.value, found]
      exact result
  · rw [Stand, shape] at stand
    cases stand with
    | @cons second _ _ _ foundRight rest =>
      cases rest with
      | @cons first _ others _ foundLeft rest =>
        refine ⟨.binary op first second :: others, .cons ?_ rest, by simp [postorder]⟩
        rw [Expression.value, foundLeft, foundRight]
        exact result

/-- A run keeps the invariant: expressions stand for the stack it leaves, and they list what was
read. -/
theorem stand_run {trees : List Expression} {stack final : OperandStack} {tokens : List Token}
    (stand : Stand trees stack) (ran : Postfix.run stack tokens = .ok final) :
    ∃ grown, Stand grown final ∧ forest grown.reverse = forest trees.reverse ++ tokens := by
  induction tokens generalizing trees stack with
  | nil =>
    cases ran
    exact ⟨trees, stand, (List.append_nil _).symm⟩
  | cons token later ih =>
    obtain ⟨pushed, evaluates, rest⟩ := Postfix.run_cons_ok ran
    obtain ⟨between, standing, listed⟩ := stand_evalToken stand evaluates
    obtain ⟨grown, stands, list⟩ := ih standing rest
    refine ⟨grown, stands, ?_⟩
    rw [list, listed, List.append_assoc]
    rfl

theorem run_forest {trees : List Expression} {values : List Value}
    (evaluate : List.Forall₂ (fun tree value => tree.value = .ok value) trees values)
    (stack : OperandStack) (later : List Token) :
    Postfix.run stack (forest trees ++ later) =
      Postfix.run ⟨values.reverse ++ stack.values⟩ later := by
  induction evaluate generalizing stack with
  | nil => rfl
  | @cons tree value trees values found _ ih =>
    rw [forest_cons, List.append_assoc, run_postorder, found]
    simp only [ih, OperandStack.push, List.reverse_cons, List.append_assoc, List.singleton_append]

/-- A run succeeds exactly on the lists of expressions that have values, and leaves these values. -/
theorem run_ok_iff (tokens : List Token) (final : OperandStack) :
    Postfix.run .empty tokens = .ok final ↔
      ∃ trees, tokens = forest trees ∧
        List.Forall₂ (fun tree value => tree.value = .ok value) trees final.values.reverse := by
  constructor
  · -- the expressions that stand for the last stack list the whole sequence
    intro ran
    have start : Stand [] .empty := .nil
    obtain ⟨grown, stand, list⟩ := stand_run start ran
    exact ⟨grown.reverse, list.symm, List.rel_reverse stand⟩
  · rintro ⟨trees, rfl, evaluate⟩
    have ran := run_forest evaluate .empty []
    rw [List.append_nil, List.reverse_reverse] at ran
    rw [ran]
    simp only [OperandStack.empty, List.append_nil, Postfix.run]

/-! ### The answers of the evaluator -/

/-- A run over a list of expressions fails with the error of the first that has no value. -/
theorem run_forest_error {before after : List Expression} {tree : Expression} {error : EvalError}
    (evaluate : ∀ earlier ∈ before, ∃ value, earlier.value = .ok value)
    (fails : tree.value = .error error) (stack : OperandStack) :
    Postfix.run stack (forest (before ++ tree :: after)) = .error error := by
  induction before generalizing stack with
  | nil => rw [List.nil_append, forest_cons, run_postorder, fails]
  | cons earlier before ih =>
    obtain ⟨value, found⟩ := evaluate earlier List.mem_cons_self
    rw [List.cons_append, forest_cons, run_postorder, found]
    exact ih (fun other member => evaluate other (List.mem_cons_of_mem _ member)) (stack.push value)

theorem exists_values {trees : List Expression}
    (evaluate : ∀ tree ∈ trees, ∃ value, tree.value = .ok value) :
    ∃ values, List.Forall₂ (fun tree value => tree.value = .ok value) trees values := by
  induction trees with
  | nil => exact ⟨[], .nil⟩
  | cons tree trees ih =>
    obtain ⟨values, others⟩ := ih fun other member => evaluate other (List.mem_cons_of_mem _ member)
    obtain ⟨value, found⟩ := evaluate tree List.mem_cons_self
    exact ⟨value :: values, .cons found others⟩

/-- On a list of expressions that have values only the number of these values is left to be judged.
-/
theorem eval_forest {trees : List Expression} {values : List Value}
    (evaluate : List.Forall₂ (fun tree value => tree.value = .ok value) trees values)
    (policy : StackPolicy) :
    Postfix.eval policy (forest trees) = Postfix.answer policy ⟨values.reverse⟩ := by
  have ran := run_forest evaluate .empty []
  simp only [List.append_nil, OperandStack.empty] at ran
  simp only [Postfix.eval, OperandStack.empty, ran, Postfix.run]

end Expression

namespace Postfix

/-- The answer is the deepest value. The strict policy refuses any above it. -/
theorem answer_reverse_cons (first : Value) (others : List Value) (policy : StackPolicy) :
    answer policy ⟨(first :: others).reverse⟩ =
      if policy = .strict ∧ others ≠ [] then .error (.leftoverOperands (others.length + 1))
      else .ok first := by
  cases policy <;> cases others <;> simp [answer, OperandStack.bottom, OperandStack.size]

theorem answer_empty {stack : OperandStack} (empty : stack.size = 0) (policy : StackPolicy) :
    answer policy stack = .error .insufficientOperands := by
  obtain ⟨values⟩ := stack
  obtain rfl := List.length_eq_zero_iff.mp empty
  cases policy <;> rfl

/-- With an operand on the stack there is an answer, which only the strict policy refuses if there
are others. -/
theorem exists_answer {stack : OperandStack} (holds : 0 < stack.size) :
    ∃ value, ∀ policy, answer policy stack =
      if policy = .strict ∧ 1 < stack.size then .error (.leftoverOperands stack.size)
      else .ok value := by
  obtain ⟨bottomFirst, rfl⟩ : ∃ values : List Value, stack = ⟨values.reverse⟩ :=
    ⟨stack.values.reverse, by rw [List.reverse_reverse]⟩
  cases bottomFirst with
  | nil => simp [OperandStack.size] at holds
  | cons bottom others =>
    refine ⟨bottom, fun policy => ?_⟩
    rw [answer_reverse_cons]
    simp [OperandStack.size, List.length_pos_iff]

/-- A sequence with a value lists expressions with values, the first of which is the answer. -/
theorem eval_ok_forest {policy : StackPolicy} {tokens : List Token} {value : Value}
    (evaluates : eval policy tokens = .ok value) :
    ∃ first others, tokens = Expression.forest (first :: others) ∧ first.value = .ok value ∧
      (∀ tree ∈ others, ∃ value, tree.value = .ok value) ∧ (policy = .strict → others = []) := by
  cases ran : run .empty tokens with
  | error error => simp [eval, ran] at evaluates
  | ok final =>
    -- the sequence lists expressions, and the answer is the deepest of their values
    obtain ⟨trees, rfl, evaluate⟩ := (Expression.run_ok_iff _ _).mp ran
    rw [Expression.eval_forest evaluate] at evaluates
    generalize final.values.reverse = values at evaluate evaluates
    cases evaluate with
    | nil => cases policy <;> cases evaluates
    | @cons first bottom others values found rest =>
      rw [answer_reverse_cons] at evaluates
      split at evaluates
      · cases evaluates
      next allowed =>
        cases evaluates
        refine ⟨first, others, rfl, found, ?_, ?_⟩
        · intro tree member
          obtain ⟨index, bound, rfl⟩ := List.mem_iff_getElem.mp member
          exact ⟨_, rest.get bound (rest.length_eq ▸ bound)⟩
        · rintro rfl
          have empty : values = [] := by simpa using allowed
          subst empty
          cases rest
          rfl

/-- The evaluator accepts the lists of forests and nothing else. Under the strict policy the forest
is one tree; under the lenient policy the first tree is the answer, whatever follows it, and the
strict policy counts the trees. Where some tree fails, so does the evaluation, with the error of the
first such tree. A sequence lists at most one forest, so all these trees are the only ones. -/
theorem eval_iff_forest (tokens : List Token) :
    (∀ value, eval .strict tokens = .ok value ↔
      ∃ tree : Expression, tokens = tree.postorder ∧ tree.result = .ok value.toInt) ∧
    (∀ tree other : Expression, tokens = tree.postorder → tokens = other.postorder →
      tree = other) ∧
    (∀ value, eval .lenient tokens = .ok value ↔
      ∃ first others, tokens = Expression.forest (first :: others) ∧
        first.result = .ok value.toInt ∧ ∀ tree ∈ others, ∃ n, tree.result = .ok n) ∧
    (∀ trees others, tokens = Expression.forest trees → tokens = Expression.forest others →
      trees = others) ∧
    (∀ trees, tokens = Expression.forest trees → (∀ tree ∈ trees, ∃ n, tree.result = .ok n) →
      2 ≤ trees.length → eval .strict tokens = .error (.leftoverOperands trees.length)) ∧
    (∀ before tree after error, tokens = Expression.forest (before ++ tree :: after) →
      (∀ earlier ∈ before, ∃ n, earlier.result = .ok n) → tree.result = .error error →
      ∀ policy, eval policy tokens = .error error) := by
  -- the results are those of evaluation on values, about which the lemmas above speak
  simp only [← Expression.value_eq_ok_iff, ← Expression.value_eq_error_iff,
    ← Expression.exists_value_iff]
  refine ⟨fun value => ⟨?_, ?_⟩, ?_, fun value => ⟨?_, ?_⟩, ?_, ?_, ?_⟩
  · intro evaluates
    obtain ⟨tree, others, rfl, found, -, single⟩ := eval_ok_forest evaluates
    rw [single rfl]
    exact ⟨tree, List.append_nil _, found⟩
  · rintro ⟨tree, rfl, found⟩
    rw [Expression.eval_postorder]
    exact found
  · rintro tree other rfl same
    have equal : Expression.forest [tree] = Expression.forest [other] := by simpa using same
    exact List.singleton_inj.mp (Expression.forest_injective equal)
  · intro evaluates
    obtain ⟨first, others, rfl, found, rest, -⟩ := eval_ok_forest evaluates
    exact ⟨first, others, rfl, found, rest⟩
  · rintro ⟨first, others, rfl, found, rest⟩
    obtain ⟨values, evaluate⟩ := Expression.exists_values rest
    rw [Expression.eval_forest (.cons found evaluate), answer_reverse_cons]
    simp
  · rintro trees others rfl same
    exact Expression.forest_injective same
  · rintro trees rfl evaluate several
    obtain ⟨values, evaluate⟩ := Expression.exists_values evaluate
    rw [Expression.eval_forest evaluate]
    rw [evaluate.length_eq] at several ⊢
    match values with
    | [] | [_] => exact absurd several (by simp)
    | first :: second :: others =>
      rw [answer_reverse_cons, if_pos ⟨rfl, List.cons_ne_nil _ _⟩]
      rfl
  · rintro before tree after error rfl earlier fails policy
    rw [eval, Expression.run_forest_error earlier fails]

end Postfix
end Calculator
