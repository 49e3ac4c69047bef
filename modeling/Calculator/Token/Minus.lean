import Calculator.Token.Basic

/-!
# Telling the minus signs apart

A minus sign is unary where an operand is expected: at the beginning, after an opening parenthesis
and after an operator. Everywhere else it is binary. One pass from left to right, which remembers
the token before, does it.

## Main statements

* `resolveAfter_append`: a sequence may be resolved in two parts, if the second part is told the
  last token of the first.
-/
namespace Calculator.Token

/-- Whether an operand is expected after `previous`, or at the beginning. -/
def expectsOperand : (previous : Option Token) → Bool
  | none | some .leftParen | some (.operator _) => true
  | some .rightParen | some (.number _) => false

/-- The token that `token` stands for when it comes after `previous`. -/
def resolveOne (previous : Option Token) (token : Token) : Token :=
  if token = binaryMinus ∧ expectsOperand previous then unaryMinus else token

def resolveAfter (previous : Option Token) : List Token → List Token
  | [] => []
  | token :: later =>
    resolveOne previous token :: resolveAfter (some (resolveOne previous token)) later

def resolveMinus (tokens : List Token) : List Token := resolveAfter none tokens

@[simp] theorem resolveAfter_length (previous : Option Token) (tokens : List Token) :
    (resolveAfter previous tokens).length = tokens.length := by
  induction tokens generalizing previous with
  | nil => rfl
  | cons token later ih => simp [resolveAfter, ih]

/-- Both minus signs are operators, so resolution does not change what is expected next. -/
theorem expectsOperand_resolveOne (previous : Option Token) (token : Token) :
    expectsOperand (some (resolveOne previous token)) = expectsOperand (some token) := by
  unfold resolveOne
  split
  · next minus => rw [minus.1]; rfl
  · rfl

/-- What is resolved depends on the token before only through what is expected after it. -/
theorem resolveOne_congr {first second : Option Token}
    (same : expectsOperand first = expectsOperand second) (token : Token) :
    resolveOne first token = resolveOne second token := by
  rw [resolveOne, resolveOne, same]

/-- Only whether an operand is expected is told to a sequence by what is before it. -/
theorem resolveAfter_congr {first second : Option Token}
    (same : expectsOperand first = expectsOperand second) (tokens : List Token) :
    resolveAfter first tokens = resolveAfter second tokens := by
  cases tokens with
  | nil => rfl
  | cons token later => rw [resolveAfter, resolveAfter, resolveOne_congr same token]

/-- A sequence is resolved in two parts, the second after the last token of the first. -/
theorem resolveAfter_append (previous : Option Token) (first second : List Token) :
    resolveAfter previous (first ++ second) =
      resolveAfter previous first ++ resolveAfter (first.getLast?.or previous) second := by
  induction first generalizing previous with
  | nil => simp [resolveAfter]
  | cons token later ih =>
    simp only [List.cons_append, resolveAfter, ih, List.cons.injEq, true_and,
      List.append_cancel_left_eq]
    apply resolveAfter_congr
    cases later with
    | nil => simpa using expectsOperand_resolveOne previous token
    | cons next rest => simp [List.getLast?_cons]

end Calculator.Token
