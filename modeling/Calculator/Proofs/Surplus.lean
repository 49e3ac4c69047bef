import Calculator.Proofs.Policies

/-!
# How many operands are left

A number puts one operand on the stack, a unary minus replaces one, and a binary operator puts one
in the place of two. So a run that does not fail leaves as many operands as there are numbers more
than binary operators, in whatever order the tokens stand. Bringing a sequence into postfix order
loses no token, so the number of operands can be told before anything is reordered or evaluated.

## Main statements

* `size_evalToken`, `size_run`: how many operands are on the stack after one token, and after all.
* `counted_eval`: what the surplus of a sequence says about its results.
* `counted_of_scan`: the same for a text, in infix and in postfix order.
-/
namespace Calculator

open Token (resolveMinus surplus)

/-- What the number of operands that are left, if nothing fails, says about the results under the
stack policies. -/
structure Counted (operands : Int) (result : StackPolicy → Except Error Value) : Prop where
  strict_ok : ∀ value, result .strict = .ok value → operands = 1
  leftover : ∀ policy count, result policy = .error (.eval (.leftoverOperands count)) →
    count = operands ∧ 2 ≤ operands
  lenient_ok : ∀ value, result .lenient = .ok value → 1 ≤ operands
  no_value : operands ≤ 0 → ∀ policy value, result policy ≠ .ok value

namespace Postfix

/-- A token changes the height of the stack by its own surplus. -/
theorem size_evalToken {stack pushed : OperandStack} {token : Token}
    (evaluates : evalToken stack token = .ok pushed) :
    (pushed.size : Int) = stack.size + surplus [token] := by
  rcases evalToken_cases evaluates with
    ⟨value, rfl, rfl⟩ | ⟨operand, below, value, rfl, shape, -, rfl⟩ |
    ⟨op, left, right, below, value, rfl, shape, -, rfl⟩
  · have one : surplus [.number value] = 1 := rfl
    rw [OperandStack.size_push, one, Int.natCast_succ]
  · have unchanged : surplus [.operator .negate] = 0 := rfl
    simp [OperandStack.size, shape, unchanged]
  · have taken : surplus [.operator (.binary op)] = -1 := rfl
    simp only [OperandStack.size, shape, taken, List.length_cons]
    omega

/-- A run changes the height of the stack by the surplus of what it read. -/
theorem size_run {stack final : OperandStack} {tokens : List Token}
    (ran : run stack tokens = .ok final) : (final.size : Int) = stack.size + surplus tokens := by
  induction tokens generalizing stack with
  | nil =>
    cases ran
    exact (Int.add_zero _).symm
  | cons token later ih =>
    obtain ⟨pushed, evaluates, rest⟩ := run_cons_ok ran
    rw [ih rest, size_evalToken evaluates, Token.surplus_cons token later, Int.add_assoc]

end Postfix

/-! ### Results -/

/-- A sequence that fails under both policies, and not for numbers left over, is counted whatever
its surplus. -/
theorem Counted.of_fails {operands : Int} {result : StackPolicy → Except Error Value} (error : Error)
    (fails : ∀ policy, result policy = .error error)
    (complete : ∀ count, error ≠ .eval (.leftoverOperands count)) : Counted operands result := by
  constructor
  case strict_ok | lenient_ok => simp [fails]
  case leftover =>
    intro policy count stops
    rw [fails, Except.error.injEq] at stops
    exact absurd stops (complete count)
  case no_value => simp [fails]

/-- A sequence that leaves a number is counted by how many it leaves: only the strict policy minds
more than one. -/
theorem Counted.of_answers {operands : Nat} {result : StackPolicy → Except Error Value}
    (holds : 0 < operands) (value : Value)
    (answers : ∀ policy, result policy =
      if policy = .strict ∧ 1 < operands then .error (.eval (.leftoverOperands operands))
      else .ok value) :
    Counted operands result := by
  constructor
  case strict_ok =>
    intro found accepted
    rw [answers] at accepted
    split at accepted
    · cases accepted
    next single =>
      have alone : ¬ 1 < operands := fun several => single ⟨rfl, several⟩
      omega
  case leftover =>
    intro policy count stops
    rw [answers] at stops
    split at stops
    next several =>
      cases stops
      omega
    · cases stops
  case lenient_ok => exact fun _ _ => by omega
  case no_value => exact fun tooFew => by omega

/-- The evaluation of a postfix sequence is counted by its surplus, since nothing but the last test
looks at the policy. -/
theorem Postfix.counted_eval (tokens : List Token) :
    Counted (surplus tokens) fun policy => (eval policy tokens).mapError .eval := by
  -- the run is the same under both policies, and only its end is judged
  cases ran : run .empty tokens with
  | error error =>
    have fails : ∀ policy, (eval policy tokens).mapError Error.eval = .error (.eval error) := by
      intro policy
      rw [eval, ran]
      rfl
    refine .of_fails _ fails fun count same => run_ne_leftover .empty tokens count ?_
    cases same
    exact ran
  | ok final =>
    have size : (final.size : Int) = surplus tokens := by
      rw [size_run ran]
      exact Int.zero_add _
    have answered : ∀ policy, eval policy tokens = answer policy final := by
      intro policy
      rw [eval, ran]
    -- the surplus is the height of the stack at the end
    rw [← size]
    rcases Nat.eq_zero_or_pos final.size with empty | holds
    · refine .of_fails (.eval .insufficientOperands) (fun policy => ?_) fun count same => ?_
      · rw [answered, answer_empty empty]
        rfl
      · cases same
    · obtain ⟨value, answers⟩ := exists_answer holds
      refine .of_answers holds value fun policy => ?_
      rw [answered, answers]
      split <;> rfl

/-- An infix sequence is counted by the surplus of its resolved form: the conversion changes the
order of the tokens, and of the surplus only the parentheses, which count nothing. -/
theorem counted_valueOfTokens (tokens : List Token) :
    Counted (surplus (resolveMinus tokens)) (valueOfTokens tokens) := by
  cases converts : Postfix.ofInfix (resolveMinus tokens) with
  | error error =>
    refine .of_fails (.parse error) (fun policy => ?_) nofun
    rw [valueOfTokens_eq, converts]
  | ok ordered =>
    have same : valueOfTokens tokens = fun policy => (Postfix.eval policy ordered).mapError .eval := by
      funext policy
      rw [valueOfTokens_eq, converts]
    rw [same, ← Postfix.surplus_ofInfix converts]
    exact Postfix.counted_eval ordered

/-- By how much the numbers of a scanned text outnumber its binary operators decides how many
operands can be left. There is a value under the strict policy only if they are one more, and under
the lenient policy only if they are more at all; and if the error is that operands are left over,
its count is this difference. In infix order the minus signs are resolved before they are counted;
in postfix order all of them are binary. -/
theorem counted_of_scan {source : String} {overflow : OverflowPolicy} {tokens : List Token}
    (scanned : scan source overflow = .ok tokens) :
    Counted (surplus (resolveMinus tokens)) (fun stack => evaluate source ⟨overflow, stack⟩) ∧
      Counted (surplus tokens) (fun stack => evaluatePostfix source ⟨overflow, stack⟩) := by
  have infixOrder : (fun stack => evaluate source ⟨overflow, stack⟩) = valueOfTokens tokens :=
    funext fun _ => evaluate_of_scan scanned
  have postfixOrder : (fun stack => evaluatePostfix source ⟨overflow, stack⟩) =
      fun stack => (Postfix.eval stack tokens).mapError .eval :=
    funext fun _ => evaluatePostfix_of_scan scanned
  rw [infixOrder, postfixOrder]
  exact ⟨counted_valueOfTokens tokens, Postfix.counted_eval tokens⟩

theorem counted_of_scan_misplaced :
    scan "- 1 * 2 3" .reject = .ok [.binaryMinus, .number 1, .times, .number 2, .number 3] ∧
      evaluate "- 1 * 2 3" ⟨.reject, .strict⟩ = .error (.eval (.leftoverOperands 2)) ∧
      surplus (resolveMinus [.binaryMinus, .number 1, .times, .number 2, .number 3]) = 2 := by
  have scanned : scan "- 1 * 2 3" .reject =
      .ok [.binaryMinus, .number 1, .times, .number 2, .number 3] := by
    have rendered : Token.render [.binaryMinus, .number 1, .times, .number 2, .number 3] =
        "- 1 * 2 3" := by decide
    rw [← rendered]
    exact Token.scan_render (by decide) .reject
  have left : evaluate "- 1 * 2 3" ⟨.reject, .strict⟩ = .error (.eval (.leftoverOperands 2)) := by
    rw [evaluate_of_scan scanned]
    decide
  exact ⟨scanned, left, ((counted_of_scan scanned).1.leftover .strict 2 left).1.symm⟩

end Calculator
