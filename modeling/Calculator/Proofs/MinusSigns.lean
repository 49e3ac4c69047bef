import Calculator.Token.Minus

/-!
# Which minus signs are unary

The pass that tells the minus signs apart looks back at tokens that it may have changed a moment
before. This makes no difference, since both minus signs are operators: what becomes of a token
depends on the given sequence only, on this token and on the one before it.

A sequence in which every binary minus stands after an operand is left as it is. The pass makes
every sequence one of these, so a second pass changes nothing.

## Main statements

* `getElem?_resolveMinus`: what becomes of each token.
* `settled_resolveMinus`, `resolveMinus_of_settled`: the sequences that come out, and that they stay.
* `resolveMinus_pointwise`: the rule with all that follows from it.
-/
namespace Calculator.Token

/-- An operand is expected at a position: it is the first one, or an opening parenthesis or an
operator stands right before it. -/
def OpensOperand (tokens : List Token) (index : Nat) : Prop :=
  index = 0 ∨ ∃ previous ∈ [leftParen, plus, times, divide, binaryMinus, unaryMinus],
    tokens[index - 1]? = some previous

instance (tokens : List Token) (index : Nat) : Decidable (OpensOperand tokens index) :=
  inferInstanceAs (Decidable (_ ∨ _))

/-- Every binary minus stands right after a number or a closing parenthesis. -/
def Settled (tokens : List Token) : Prop :=
  ∀ index, tokens[index]? = some .binaryMinus →
    0 < index ∧ (tokens[index - 1]? = some .rightParen ∨
      ∃ value, tokens[index - 1]? = some (.number value))

/-! ### The rule for one token -/

/-- Each token is resolved by the one before it, as it was given. This is why the resolution can be
read position by position. -/
theorem getElem?_resolveAfter (previous : Option Token) (tokens : List Token) (index : Nat) :
    (resolveAfter previous tokens)[index]? =
      tokens[index]?.map (resolveOne (if index = 0 then previous else tokens[index - 1]?)) := by
  induction tokens generalizing previous index with
  | nil => rfl
  | cons token later ih =>
    cases index with
    | zero => rfl
    | succ index =>
      rw [resolveAfter, List.getElem?_cons_succ, List.getElem?_cons_succ, ih]
      cases index with
      | zero =>
        -- the token before may have been changed, but not what is expected after it
        exact Option.map_congr fun next _ => resolveOne_congr (expectsOperand_resolveOne _ _) next
      | succ index => rfl

theorem expectsOperand_some_iff (previous : Token) : expectsOperand (some previous) = true ↔
    previous ∈ [leftParen, plus, times, divide, binaryMinus, unaryMinus] := by
  cases previous with
  | leftParen | rightParen | number => simp [expectsOperand]
  | operator op =>
    cases op with
    | negate => decide
    | binary op => cases op <;> decide

/-- What the resolution looks at is whether an operand is expected at the position. -/
theorem expectsOperand_iff_opensOperand {tokens : List Token} {index : Nat}
    (inside : index < tokens.length) :
    expectsOperand (if index = 0 then none else tokens[index - 1]?) = true ↔
      OpensOperand tokens index := by
  cases index with
  | zero => exact iff_of_true rfl (.inl rfl)
  | succ index =>
    have before : tokens[index]? = some tokens[index] :=
      List.getElem?_eq_getElem (Nat.lt_of_succ_lt inside)
    simp [OpensOperand, before, expectsOperand_some_iff]

/-- The token at a position after the resolution: a minus sign where an operand is expected has
become unary. -/
theorem getElem?_resolveMinus (tokens : List Token) (index : Nat) :
    (resolveMinus tokens)[index]? = tokens[index]?.map fun token =>
      if token = .binaryMinus ∧ OpensOperand tokens index then .unaryMinus else token := by
  rw [resolveMinus, getElem?_resolveAfter]
  refine Option.map_congr fun token found => ?_
  have inside : index < tokens.length := (List.getElem?_eq_some_iff.mp found).1
  simp only [resolveOne, expectsOperand_iff_opensOperand inside]

-- In a run of minus signs only the first can be binary, and one that is unary already stays so.
example : resolveMinus [.number 1, .binaryMinus, .binaryMinus, .unaryMinus, .binaryMinus,
    .number 2] = [.number 1, .binaryMinus, .unaryMinus, .unaryMinus, .unaryMinus, .number 2] := by
  decide

/-! ### Sequences that come out -/

theorem not_opensOperand_iff {tokens : List Token} {index : Nat} (inside : index < tokens.length) :
    ¬ OpensOperand tokens index ↔ 0 < index ∧ (tokens[index - 1]? = some .rightParen ∨
      ∃ value, tokens[index - 1]? = some (.number value)) := by
  rw [← expectsOperand_iff_opensOperand inside]
  cases index with
  | zero => exact iff_of_false (fun closed => closed rfl) fun later => nomatch later.1
  | succ index =>
    have before : tokens[index]? = some tokens[index] :=
      List.getElem?_eq_getElem (Nat.lt_of_succ_lt inside)
    -- only a closing parenthesis and a number end an operand
    cases found : tokens[index] <;> simp [before, found, expectsOperand]

/-- The resolution changes no position at which an operand is expected, since a unary minus expects
one as a binary one does. -/
theorem opensOperand_resolveMinus {tokens : List Token} {index : Nat}
    (inside : index < tokens.length) :
    OpensOperand (resolveMinus tokens) index ↔ OpensOperand tokens index := by
  have resolvedInside : index < (resolveMinus tokens).length := by
    rwa [resolveMinus, resolveAfter_length]
  rw [← expectsOperand_iff_opensOperand inside, ← expectsOperand_iff_opensOperand resolvedInside]
  cases index with
  | zero => rfl
  | succ index =>
    have before : tokens[index]? = some tokens[index] :=
      List.getElem?_eq_getElem (Nat.lt_of_succ_lt inside)
    simp [resolveMinus, getElem?_resolveAfter, before, expectsOperand_resolveOne]

/-- After the resolution every binary minus follows an operand. -/
theorem settled_resolveMinus (tokens : List Token) : Settled (resolveMinus tokens) := by
  intro index minus
  have resolvedInside := (List.getElem?_eq_some_iff.mp minus).1
  rw [getElem?_resolveMinus, Option.map_eq_some_iff] at minus
  obtain ⟨token, found, kept⟩ := minus
  have inside := (List.getElem?_eq_some_iff.mp found).1
  rw [← not_opensOperand_iff resolvedInside, opensOperand_resolveMinus inside]
  split at kept
  · cases kept
  next binary =>
    subst kept
    exact fun opens => binary ⟨rfl, opens⟩

/-- Where every binary minus follows an operand, nothing is left to be resolved. -/
theorem resolveMinus_of_settled {tokens : List Token} (settled : Settled tokens) :
    resolveMinus tokens = tokens := by
  apply List.ext_getElem?
  intro index
  rw [getElem?_resolveMinus]
  cases found : tokens[index]? with
  | none => rfl
  | some token =>
    refine congrArg some (if_neg ?_)
    rintro ⟨rfl, opens⟩
    have inside := (List.getElem?_eq_some_iff.mp found).1
    exact (not_opensOperand_iff inside).mpr (settled index found) opens

/-! ### Sequences in two parts -/

/-- Unless it begins with a minus sign, a sequence is resolved the same after anything. -/
theorem resolveAfter_of_head {later : List Token} (starts : later.head? ≠ some .binaryMinus)
    (previous : Option Token) : resolveAfter previous later = resolveMinus later := by
  cases later with
  | nil => rfl
  | cons token rest =>
    have other : token ≠ .binaryMinus := fun same => starts (congrArg some same)
    simp only [resolveMinus, resolveAfter, resolveOne, other, false_and, if_false]

/-- A minus sign becomes unary if and only if it is the first token or an opening parenthesis or an
operator, a minus sign of either kind among them, stands right before it in the given sequence; no
other token changes. So a second pass changes nothing, the minus signs that stay binary stand after
operands, and a sequence may be resolved in two parts unless the second one starts with a minus
sign. -/
theorem resolveMinus_pointwise (tokens : List Token) :
    (resolveMinus tokens).length = tokens.length ∧
    (∀ index, (resolveMinus tokens)[index]? = tokens[index]?.map fun token =>
      if token = .binaryMinus ∧ OpensOperand tokens index then .unaryMinus else token) ∧
    resolveMinus (resolveMinus tokens) = resolveMinus tokens ∧
    Settled (resolveMinus tokens) ∧
    ∀ later, later.head? ≠ some .binaryMinus →
      resolveMinus (tokens ++ later) = resolveMinus tokens ++ resolveMinus later := by
  refine ⟨resolveAfter_length none tokens, getElem?_resolveMinus tokens,
    resolveMinus_of_settled (settled_resolveMinus tokens), settled_resolveMinus tokens, ?_⟩
  intro later starts
  rw [resolveMinus, resolveAfter_append, resolveAfter_of_head starts]
  rfl

end Calculator.Token
