import Calculator.Proofs.Conversion
import Calculator.Proofs.Scanning

/-!
# The value of an infix text

A text that lays out an infix expression is evaluated to the integer result of the expression, or
fails with its first error, in every layout and under every stack policy. This needs every unary
minus to stand right before its operand. Where unary minus signs are stacked, the result is that of
the displaced form of the expression, which may be another number.

## Main statements

* `steps_single`: the steps and the value of an expression without stacked minus signs.
* `evaluate_stacked_iff`: when a value of an expression with stacked minus signs is the exact one.
-/
namespace Calculator

open Token (Layout Spells)

/-! ### Running what was scanned -/

theorem steps_of_scan {source : String} {policies : Policies} {tokens : List Token}
    (scanned : scan source policies.overflow = .ok tokens) :
    steps source policies = stepsOfTokens tokens policies.stack := by
  rw [steps, scanned]

theorem steps_of_scan_error {source : String} {policies : Policies} {error : ScanError}
    (failed : scan source policies.overflow = .error error) :
    steps source policies = .error (.scan error) := by
  rw [steps, failed]

namespace Expression

variable {source : String} {policies : Policies} {tokens : List Token} {tree moved : Expression}
  {count : Nat}

/-- The steps of a sequence whose minus signs are displaced: the signs that lost their operand come
first, and with any of them the evaluation fails. -/
theorem steps_displaced (displaced : Displaced .sum tokens count moved)
    (scanned : scan source policies.overflow = .ok tokens) :
    (steps source policies).map (fun run => (run.ordered, run.value.toInt)) =
      ((if count = 0 then moved.result else .error .insufficientOperands).map fun n =>
        (List.replicate count .unaryMinus ++ moved.postorder, n)).mapError .eval := by
  rw [steps_of_scan scanned, stepsOfTokens_displaced displaced, ← value_toInt]
  by_cases unmoved : count = 0
  · rw [if_pos unmoved, if_pos unmoved]
    cases moved.value <;> rfl
  · rw [if_neg unmoved, if_neg unmoved]
    rfl

/-- The value of a sequence whose minus signs are displaced is that of the displaced tree, if no
sign lost its operand. -/
theorem evaluate_displaced (displaced : Displaced .sum tokens count moved)
    (scanned : scan source policies.overflow = .ok tokens) :
    (evaluate source policies).map Int64.toInt =
      (if count = 0 then moved.result else .error .insufficientOperands).mapError .eval := by
  have last : (evaluate source policies).map Int64.toInt =
      ((steps source policies).map fun run => (run.ordered, run.value.toInt)).map Prod.snd := by
    rw [evaluate]
    cases steps source policies <;> rfl
  rw [last, steps_displaced displaced scanned]
  cases (if count = 0 then moved.result else .error .insufficientOperands) <;> rfl

theorem evaluate_eq_ok_iff (displaced : Displaced .sum tokens count moved)
    (scanned : scan source policies.overflow = .ok tokens) {value : Value} :
    evaluate source policies = .ok value ↔ count = 0 ∧ moved.result = .ok value.toInt := by
  have equal := evaluate_displaced displaced scanned
  have whole : evaluate source policies = .ok value ↔
      (evaluate source policies).map Int64.toInt = .ok value.toInt := by
    cases evaluate source policies <;> simp [Except.map, Int64.toInt_inj]
  rw [whole, equal, mapError_eq_ok_iff]
  by_cases unmoved : count = 0
  · simp [unmoved]
  · simp [unmoved]

/-- A text that lays out an infix expression without stacked minus signs has the result of the
expression and goes through its postfix form, if its literals can be read. Otherwise the first
literal that does not fit is the error. -/
theorem steps_single (derivation : Single tokens tree)
    (layout : Layout .saturate source.toList tokens) (policies : Policies) :
    (Readable policies.overflow source.toList →
      (steps source policies).map (fun run => (run.ordered, run.value.toInt)) =
          (tree.result.map fun n => (tree.postorder, n)).mapError .eval ∧
        (evaluate source policies).map Int64.toInt = tree.result.mapError .eval) ∧
    (¬ Readable policies.overflow source.toList → ∃ literal position,
      FirstOffence policies.overflow source.toList (.literalOverflow literal position) ∧
        steps source policies = .error (.scan (.literalOverflow literal position)) ∧
        evaluate source policies = .error (.scan (.literalOverflow literal position))) := by
  rcases scan_layout layout policies.overflow with
    ⟨readable, scanned⟩ | ⟨unreadable, literal, position, first, failed⟩
  · refine ⟨fun _ => ⟨?_, ?_⟩, fun unreadable => absurd readable unreadable⟩
    · exact steps_displaced derivation.displaced scanned
    · exact evaluate_displaced derivation.displaced scanned
  · refine ⟨fun readable => absurd readable unreadable, fun _ => ?_⟩
    have stops := steps_of_scan_error failed
    refine ⟨literal, position, first, stops, ?_⟩
    rw [evaluate, stops]
    rfl

theorem steps_single_group :
    Single [.number 3, .binaryMinus, .binaryMinus, .leftParen, .number 2, .rightParen]
        (.binary .minus (.literal 3) (.negate (.literal 2))) ∧
      Layout .saturate "3 - -(02)".toList
        [.number 3, .binaryMinus, .binaryMinus, .leftParen, .number 2, .rightParen] ∧
      (steps "3 - -(02)" ⟨.saturate, .strict⟩).map (fun run => (run.ordered, run.value.toInt)) =
        .ok ([.number 3, .number 2, .unaryMinus, .binaryMinus], 5) := by
  have derivation : Single [.number 3, .binaryMinus, .binaryMinus, .leftParen, .number 2,
      .rightParen] (.binary .minus (.literal 3) (.negate (.literal 2))) := by
    have three : Derives .primary .sum [.number 3] (.literal 3) :=
      .ofProduct (.ofFactor (.ofPrimary (.number 3)))
    have group : Derives .primary .primary [.leftParen, .number 2, .rightParen] (.literal 2) :=
      .group (.ofProduct (.ofFactor (.ofPrimary (.number 2))))
    exact .sum (.inr rfl) three (.ofFactor (.negate group))
  have layout : Layout .saturate "3 - -(02)".toList
      [.number 3, .binaryMinus, .binaryMinus, .leftParen, .number 2, .rightParen] := by
    have three : Spells .saturate ['3'] (.number 3) :=
      .number ⟨by decide, List.all_eq_true.mp rfl⟩ (by decide)
    have minus : Spells .saturate ['-'] .binaryMinus := .operator .minus
    have two : Spells .saturate ['0', '2'] (.number 2) :=
      .number ⟨by decide, List.all_eq_true.mp rfl⟩ (by decide)
    have nothing : Layout .saturate [] [] := .blanks fun _ member => by cases member
    have group : Layout .saturate "(02)".toList [.leftParen, .number 2, .rightParen] :=
      layout_spells .leftParen (layout_spells two (layout_spells .rightParen nothing (by decide))
        (by decide)) (by decide)
    exact layout_spells three (layout_blank rfl (layout_spells minus (layout_blank rfl
      (layout_spells minus group (by decide))) (by decide))) (by decide)
  refine ⟨derivation, layout, ?_⟩
  exact ((steps_single derivation layout ⟨.saturate, .strict⟩).1 (.inl rfl)).1

/-! ### Stacked minus signs -/

/-- As the grammar reads it, both minus signs belong to the operand after them. -/
theorem stacked_minus : Stacked [.number 1, .binaryMinus, .binaryMinus, .binaryMinus, .number 2]
    (.binary .minus (.literal 1) (.negate (.negate (.literal 2)))) := by
  have one : Derives .factor .sum [.number 1] (.literal 1) :=
    .ofProduct (.ofFactor (.ofPrimary (.number 1)))
  have two : Derives .factor .factor [.number 2] (.literal 2) := .ofPrimary (.number 2)
  exact .sum (.inr rfl) one (.ofFactor (.negate (.negate two)))

/-- As the conversion reads it, the first of the two signs is applied to the operand before them. -/
theorem displaced_minus :
    Displaced .sum [.number 1, .binaryMinus, .binaryMinus, .binaryMinus, .number 2] 0
      (.binary .minus (.negate (.literal 1)) (.negate (.literal 2))) := by
  have one : Displaced .sum [.number 1] 0 (.literal 1) :=
    .ofProduct (.ofFactor (.ofPrimary (.number 1)))
  have stack : Displaced .factor [.binaryMinus, .binaryMinus, .number 2] 1
      (.negate (.literal 2)) := .again (.negate (.number 2))
  exact .sum (.inr rfl) one (.ofFactor stack)

theorem layout_minus (policy : OverflowPolicy) : Layout policy "1---2".toList
    [.number 1, .binaryMinus, .binaryMinus, .binaryMinus, .number 2] := by
  have one : Spells policy ['1'] (.number 1) :=
    .number ⟨by decide, List.all_eq_true.mp rfl⟩ (by decide)
  have minus : Spells policy ['-'] .binaryMinus := .operator .minus
  have two : Spells policy ['2'] (.number 2) :=
    .number ⟨by decide, List.all_eq_true.mp rfl⟩ (by decide)
  have nothing : Layout policy [] [] := .blanks fun _ member => by cases member
  exact layout_spells one (layout_spells minus (layout_spells minus (layout_spells minus
    (layout_spells two nothing (by decide)) (by decide)) (by decide)) (by decide)) (by decide)

/-- A text that lays out an infix expression is evaluated as its displaced form. So every value of
it is the exact one if and only if the scan fails, minus signs are displaced past its beginning, or
the displacement does not change the number that it denotes. -/
theorem evaluate_stacked_iff (derivation : Stacked tokens tree)
    (layout : Layout .saturate source.toList tokens) (policies : Policies) :
    (∃ count moved, Displaced .sum tokens count moved) ∧
    ∀ count moved, Displaced .sum tokens count moved →
      (Readable policies.overflow source.toList →
        (evaluate source policies).map Int64.toInt =
          (if count = 0 then moved.result else .error .insufficientOperands).mapError .eval) ∧
      ((∀ value, evaluate source policies = .ok value → tree.exact = some value.toInt) ↔
        ¬ Readable policies.overflow source.toList ∨ count ≠ 0 ∨
          ∀ n, moved.result = .ok n → tree.exact = some n) := by
  refine ⟨derivation.exists_displaced, ?_⟩
  intro count moved displaced
  rcases scan_layout layout policies.overflow with
    ⟨readable, scanned⟩ | ⟨unreadable, literal, position, -, failed⟩
  · refine ⟨fun _ => evaluate_displaced displaced scanned, ?_⟩
    simp only [evaluate_eq_ok_iff displaced scanned]
    constructor
    · intro allExact
      by_cases unmoved : count = 0
      · refine .inr (.inr ?_)
        intro n result
        -- a result of the displaced form is in range, so it is a value of the text
        obtain ⟨value, found⟩ := exists_value_iff.mpr ⟨n, result⟩
        have same := value_eq_ok_iff.mp found
        rw [result, Except.ok.injEq] at same
        rw [same]
        exact allExact value ⟨unmoved, same ▸ result⟩
      · exact .inr (.inl unmoved)
    · rintro (unreadable | moves | same) value ⟨unmoved, result⟩
      · exact absurd readable unreadable
      · exact absurd unmoved moves
      · exact same _ result
  · -- without tokens there is no value, so both sides hold
    have stops : evaluate source policies =
        .error (.scan (.literalOverflow literal position)) := by
      rw [evaluate, steps_of_scan_error failed]
      rfl
    refine ⟨fun readable => absurd readable unreadable, ?_⟩
    refine ⟨fun _ => .inl unreadable, fun _ value evaluates => ?_⟩
    rw [stops] at evaluates
    cases evaluates

theorem evaluate_stacked_not_exact :
    Stacked [.number 1, .binaryMinus, .binaryMinus, .binaryMinus, .number 2]
        (.binary .minus (.literal 1) (.negate (.negate (.literal 2)))) ∧
      Layout .saturate "1---2".toList
        [.number 1, .binaryMinus, .binaryMinus, .binaryMinus, .number 2] ∧
      evaluate "1---2" {} = .ok 1 ∧
      exact (.binary .minus (.literal 1) (.negate (.negate (.literal 2)))) = some (-1) := by
  have scanned : scan "1---2" .reject =
      .ok [.number 1, .binaryMinus, .binaryMinus, .binaryMinus, .number 2] :=
    Scanner.scanAll_of_layout (layout_minus .reject) .start
  refine ⟨stacked_minus, layout_minus .saturate, ?_, ?_⟩
  · exact (evaluate_eq_ok_iff displaced_minus scanned).mpr ⟨rfl, by decide⟩
  · decide

theorem evaluate_stacked_saturated :
    Displaced .sum [.number 1, .binaryMinus, .binaryMinus, .binaryMinus, .number 2] 0
        (.binary .minus (.negate (.literal 1)) (.negate (.literal 2))) ∧
      (evaluate "1---2" ⟨.saturate, .strict⟩).map Int64.toInt = .ok 1 := by
  have evaluates := evaluate_stacked_iff stacked_minus (layout_minus .saturate) ⟨.saturate, .strict⟩
  exact ⟨displaced_minus, (evaluates.2 _ _ displaced_minus).1 (.inl rfl)⟩

end Expression
end Calculator
