import Calculator.Proofs.Rendering

/-!
# Policies

A policy is asked at one point only: by the scanner when a literal is too large, and by the
evaluator when operands are left at the end. Until then two runs under different policies are the
same run, so a more tolerant policy changes no result but the error that it is there to avoid.

## Main statements

* `scan_saturate_or`: scans under both policies agree, unless one rejects a literal.
* `run_ne_leftover`: while it runs, the evaluator finds no operand left over.
* `relaxes_eval`: the answers of both policies for operands left over.
* `policies_conservative`: the results of a text under all policies, infix or in postfix order.
-/
namespace Calculator

/-- How the results of one text under all policies are related. -/
structure Conservative (result : Policies → Except Error Value) : Prop where
  -- large literals are the only difference that saturating them makes
  saturate_eq : ∀ stack, (∀ literal position,
      result ⟨.reject, stack⟩ ≠ .error (.scan (.literalOverflow literal position))) →
    result ⟨.saturate, stack⟩ = result ⟨.reject, stack⟩
  saturate_ne : ∀ stack literal position,
    result ⟨.saturate, stack⟩ ≠ .error (.scan (.literalOverflow literal position))
  -- operands left over are the only difference that allowing them makes
  lenient_eq : ∀ overflow, (∀ count,
      result ⟨overflow, .strict⟩ ≠ .error (.eval (.leftoverOperands count))) →
    result ⟨overflow, .lenient⟩ = result ⟨overflow, .strict⟩
  lenient_ok : ∀ overflow count,
    result ⟨overflow, .strict⟩ = .error (.eval (.leftoverOperands count)) →
      2 ≤ count ∧ ∃ value, result ⟨overflow, .lenient⟩ = .ok value
  lenient_ne : ∀ overflow count,
    result ⟨overflow, .lenient⟩ ≠ .error (.eval (.leftoverOperands count))

/-! ### Scans -/

theorem scan_saturate_or (source : String) :
    (∃ literal position, scan source .reject = .error (.literalOverflow literal position)) ∨
      scan source .saturate = scan source .reject :=
  Scanner.scanAll_saturate_or source.toList .start

theorem scan_saturate_ne (source : String) (literal : List Char) (position : Position) :
    scan source .saturate ≠ .error (.literalOverflow literal position) := by
  intro failed
  obtain ⟨place, offence, -⟩ := firstOffence_of_error failed
  cases offence with
  | tooLarge rejects => cases rejects

/-! ### Operands left over -/

namespace Postfix

/-- Only the end of an evaluation complains about operands left over. -/
theorem run_ne_leftover (stack : OperandStack) (tokens : List Token) (count : Nat) :
    run stack tokens ≠ .error (.leftoverOperands count) := by
  intro fails
  obtain ⟨token, -, reached, stops⟩ := run_error fails
  rcases evalToken_error stops with ⟨-, wrong⟩ | wrong | wrong | wrong <;> cases wrong

end Postfix

/-- The results under the strict and under the lenient policy: operands left over are an error under
the strict one only, and nothing else makes a difference. -/
inductive Relaxes : Except Error Value → Except Error Value → Prop where
  | same {result : Except Error Value} :
    (∀ count, result ≠ .error (.eval (.leftoverOperands count))) → Relaxes result result
  | leftover {count : Nat} {value : Value} :
    2 ≤ count → Relaxes (.error (.eval (.leftoverOperands count))) (.ok value)

namespace Relaxes

variable {strict lenient : Except Error Value} {count : Nat}

theorem eq_of_ne (relaxes : Relaxes strict lenient)
    (complete : ∀ count, strict ≠ .error (.eval (.leftoverOperands count))) : lenient = strict := by
  cases relaxes with
  | same _ => rfl
  | leftover _ => exact absurd rfl (complete _)

theorem exists_ok (relaxes : Relaxes strict lenient)
    (left : strict = .error (.eval (.leftoverOperands count))) :
    2 ≤ count ∧ ∃ value, lenient = .ok value := by
  cases relaxes with
  | same complete => exact absurd left (complete count)
  | leftover several =>
    cases left
    exact ⟨several, _, rfl⟩

theorem ne_leftover (relaxes : Relaxes strict lenient) (count : Nat) :
    lenient ≠ .error (.eval (.leftoverOperands count)) := by
  cases relaxes with
  | same complete => exact complete count
  | leftover _ => exact nofun

end Relaxes

namespace Postfix

theorem relaxes_answer (stack : OperandStack) :
    Relaxes ((answer .strict stack).mapError .eval) ((answer .lenient stack).mapError .eval) := by
  rcases Nat.eq_zero_or_pos stack.size with empty | holds
  · rw [answer_empty empty, answer_empty empty]
    exact .same nofun
  · obtain ⟨value, answers⟩ := exists_answer holds
    rw [answers, answers]
    by_cases several : 1 < stack.size
    · rw [if_pos ⟨rfl, several⟩, if_neg (fun refused => nomatch refused.1)]
      exact .leftover several
    · rw [if_neg fun refused => several refused.2, if_neg fun refused => several refused.2]
      exact .same nofun

/-- Both policies share the run, and differ in its answer only. -/
theorem relaxes_eval (tokens : List Token) :
    Relaxes ((eval .strict tokens).mapError .eval) ((eval .lenient tokens).mapError .eval) := by
  rw [eval, eval]
  cases ran : run .empty tokens with
  | error error =>
    refine .same fun count same => run_ne_leftover .empty tokens count ?_
    cases same
    exact ran
  | ok stack => exact relaxes_answer stack

end Postfix

/-! ### Results -/

theorem eval_ne_scan (policy : StackPolicy) (tokens : List Token) (error : ScanError) :
    (Postfix.eval policy tokens).mapError Error.eval ≠ .error (.scan error) := by
  intro same
  obtain ⟨stops, -, wrong⟩ := mapError_eq_error same
  cases wrong

theorem valueOfTokens_ne_scan (tokens : List Token) (policy : StackPolicy) (error : ScanError) :
    valueOfTokens tokens policy ≠ .error (.scan error) := by
  rw [valueOfTokens_eq]
  split
  · rintro ⟨⟩
  · exact eval_ne_scan policy _ error

/-- The conversion does not depend on the policy, so that the values of a sequence are related as
its evaluations are. -/
theorem relaxes_valueOfTokens (tokens : List Token) :
    Relaxes (valueOfTokens tokens .strict) (valueOfTokens tokens .lenient) := by
  rw [valueOfTokens_eq, valueOfTokens_eq]
  cases Postfix.ofInfix (Token.resolveMinus tokens) with
  | error error => exact .same nofun
  | ok ordered => exact Postfix.relaxes_eval ordered

/-- A result that is a scan error or that of the scanned tokens is conservative, if the tokens have
no scan error and the lenient policy relaxes their result. -/
theorem conservative_of_scan {source : String} {result : Policies → Except Error Value}
    {judge : List Token → StackPolicy → Except Error Value}
    (ofScan : ∀ policies, result policies =
      match scan source policies.overflow with
      | .error error => .error (.scan error)
      | .ok tokens => judge tokens policies.stack)
    (noScan : ∀ tokens policy error, judge tokens policy ≠ .error (.scan error))
    (relaxes : ∀ tokens, Relaxes (judge tokens .strict) (judge tokens .lenient)) :
    Conservative result := by
  -- the overflow policy is asked by the scan alone, and the stack policy by `judge` alone
  have relaxed : ∀ overflow, Relaxes (result ⟨overflow, .strict⟩) (result ⟨overflow, .lenient⟩) := by
    intro overflow
    rw [ofScan, ofScan]
    cases scan source overflow with
    | error error => exact .same nofun
    | ok tokens => exact relaxes tokens
  constructor
  case saturate_eq =>
    intro stack accepted
    rw [ofScan, ofScan]
    rcases scan_saturate_or source with ⟨literal, position, rejected⟩ | same
    · exact absurd (by rw [ofScan, rejected]) (accepted literal position)
    · rw [same]
  case saturate_ne =>
    intro stack literal position
    rw [ofScan]
    cases scanned : scan source .saturate with
    | error error =>
      rintro ⟨⟩
      exact scan_saturate_ne source literal position scanned
    | ok tokens => exact noScan tokens stack _
  case lenient_eq => exact fun overflow => (relaxed overflow).eq_of_ne
  case lenient_ok => exact fun overflow _ => (relaxed overflow).exists_ok
  case lenient_ne => exact fun overflow => (relaxed overflow).ne_leftover

/-- A more tolerant policy changes no result of a text but the error that it avoids. Where literals
saturate, the result is the same value or the same error at the same position, unless a literal was
rejected, and none is. Where operands may be left over, the result is the same, unless it was that
two or more are left; then it is a value. -/
theorem policies_conservative (source : String) :
    Conservative (evaluate source) ∧ Conservative (evaluatePostfix source) := by
  constructor
  · exact conservative_of_scan (evaluate_eq source) valueOfTokens_ne_scan relaxes_valueOfTokens
  · exact @conservative_of_scan _ _ (fun tokens policy => (Postfix.eval policy tokens).mapError .eval)
      (fun _ => rfl) (fun tokens policy => eval_ne_scan policy tokens) Postfix.relaxes_eval

theorem policies_conservative_leftover :
    evaluate "7 8" ⟨.saturate, .strict⟩ = .error (.eval (.leftoverOperands 2)) ∧
      ∃ value, evaluate "7 8" ⟨.saturate, .lenient⟩ = .ok value := by
  have scanned : scan "7 8" .saturate = .ok [.number 7, .number 8] := by
    have rendered : Token.render [.number 7, .number 8] = "7 8" := by decide
    rw [← rendered]
    exact Token.scan_render (by decide) .saturate
  have left : evaluate "7 8" ⟨.saturate, .strict⟩ = .error (.eval (.leftoverOperands 2)) := by
    rw [evaluate_of_scan scanned]
    decide
  exact ⟨left, ((policies_conservative "7 8").1.lenient_ok .saturate 2 left).2⟩

end Calculator
