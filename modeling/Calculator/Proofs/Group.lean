import Calculator.Pipeline
import Calculator.Proofs.Forest

/-!
# Groups as operands

A group in parentheses is converted as if it stood alone: what is pending below its opening
parenthesis is neither seen nor changed, and closing it sends out the rest of its own postfix form.
So the group acts as one operand between any tokens, balanced or not, and where it has a value it
may be replaced by that value.

## Main statements

* `convert_frame`: a conversion that succeeds goes on in the same way above an open group, or above
  operators that bind less tightly.
* `convert_group`: a group sends out its own postfix form and leaves what is pending as it was.
* `resolveAfter_group`: the minus signs of a group are resolved as if it stood alone.
* `fold_group`: replacing a group by its value changes no result.
-/
namespace Calculator

namespace Postfix

/-- What lies deeper on the stack makes no difference to a token, if a group is above it or it binds
less tightly. -/
theorem step_frame {pending waiting below : List Pending} {token : Token} {out : List Token}
    (moves : step pending token = .ok (out, waiting))
    (stops : ∀ op, token = .operator op → .group ∈ pending ∨ Below op.precedence below) :
    step (pending ++ below) token = .ok (out, waiting ++ below) := by
  cases step_eq_ok_iff.mp moves with
  | number | opening => rfl
  | closing above =>
    rw [List.append_assoc]
    exact step_closing above (waiting ++ below)
  | @operator op above kept tight stays =>
    rw [List.append_assoc]
    refine step_operator tight ?_
    cases kept with
    | nil => exact (stops op rfl).resolve_left (by simp)
    | cons top rest => exact stays

/-- A conversion goes on in the same way above other things that are pending, if wherever an
operator is read a group is open or what lies below binds less tightly. -/
theorem convert_frame {pending waiting below : List Pending} {tokens out : List Token}
    (converts : convert pending tokens = .ok (out, waiting))
    (stops : ∀ start op later sent between, tokens = start ++ .operator op :: later →
      convert pending start = .ok (sent, between) →
      .group ∈ between ∨ Below op.precedence below) :
    convert (pending ++ below) tokens = .ok (out, waiting ++ below) := by
  induction tokens generalizing pending out with
  | nil =>
    cases converts
    rfl
  | cons token later ih =>
    obtain ⟨first, between, others, moves, rest, rfl⟩ := convert_cons_ok converts
    have framed : step (pending ++ below) token = .ok (first, between ++ below) :=
      step_frame moves fun op same => stops [] op later [] pending (by rw [same]; rfl) rfl
    -- what stops the operators of the rest is known from the whole sequence
    have further := ih rest fun start op behind sent reached split found =>
      stops (token :: start) op behind (first ++ sent) reached (by rw [split]; rfl)
        (by simp only [convert, moves, found, Except.map])
    simp only [convert, framed, further, Except.map]

/-- A group sends out its own conversion, whatever is pending before it. -/
theorem convert_group {inner ordered : List Token} (converts : ofInfix inner = .ok ordered)
    (pending : List Pending) :
    convert pending (.leftParen :: inner ++ [.rightParen]) = .ok (ordered, pending) := by
  obtain ⟨out, above, inside, rfl⟩ := ofInfix_ok converts
  -- the opening parenthesis frames what is pending, and the closing one takes the frame away
  have framed := convert_frame inside fun _ op _ _ _ _ _ => .inr (below_group op.precedence pending)
  have opens : step pending .leftParen = .ok ([], .group :: pending) := rfl
  rw [List.nil_append] at framed
  simp only [List.cons_append, convert, opens, convert_append, framed, step_closing, Except.map,
    List.nil_append, List.append_nil]

/-- All that goes out from `pending` on: for the tokens of a sequence and at its end. -/
def convertToEnd (pending : List Pending) (tokens : List Token) : Except ParseError (List Token) :=
  match convert pending tokens with
  | .error error => .error error
  | .ok (out, waiting) => (finish waiting).map (out ++ ·)

theorem ofInfix_eq (tokens : List Token) : ofInfix tokens = convertToEnd [] tokens := rfl

/-- A sequence is converted in two parts, the second from what waits after the first. -/
theorem convertToEnd_append (pending : List Pending) (first second : List Token) :
    convertToEnd pending (first ++ second) =
      match convert pending first with
      | .error error => .error error
      | .ok (out, waiting) => (convertToEnd waiting second).map (out ++ ·) := by
  rw [convertToEnd, convert_append]
  cases convert pending first with
  | error error => rfl
  | ok done =>
    obtain ⟨out, waiting⟩ := done
    simp only [convertToEnd]
    cases convert waiting second with
    | error error => rfl
    | ok rest =>
      obtain ⟨others, left⟩ := rest
      cases last : finish left <;> simp [Except.map, last]

/-- A block that sends out the same tokens whatever is pending, and leaves it as it was, is one
operand for the tokens around it. -/
theorem convertToEnd_operand {block sent : List Token}
    (operand : ∀ pending, convert pending block = .ok (sent, pending))
    (pending : List Pending) (before after : List Token) :
    convertToEnd pending (before ++ block ++ after) =
      match convert pending before with
      | .error error => .error error
      | .ok (out, waiting) => (convertToEnd waiting after).map (out ++ sent ++ ·) := by
  rw [List.append_assoc, convertToEnd_append]
  cases convert pending before with
  | error error => rfl
  | ok done =>
    obtain ⟨out, waiting⟩ := done
    simp only [convertToEnd_append, operand]
    cases convertToEnd waiting after <;> simp [Except.map]

/-- In postfix order an expression with a value may be replaced by this value. -/
theorem eval_literal {tree : Expression} {value : Value} (found : tree.value = .ok value)
    (policy : StackPolicy) (before after : List Token) :
    eval policy (before ++ tree.postorder ++ after) =
      eval policy (before ++ [.number value] ++ after) := by
  rw [eval, eval, List.append_assoc, List.append_assoc, run_append, run_append]
  cases run .empty before with
  | error error => rfl
  | ok stack =>
    -- on any stack, the expression and its value push the same
    simp only [Expression.run_postorder, found]
    rfl

end Postfix

namespace Token

/-- The minus signs of a group are resolved as if nothing stood before it: an opening parenthesis
expects an operand, as the beginning does. -/
theorem resolveAfter_group (previous : Option Token) (inner after : List Token) :
    resolveAfter previous (.leftParen :: inner ++ .rightParen :: after) =
      .leftParen :: resolveMinus inner ++ .rightParen :: resolveAfter (some .rightParen) after := by
  have same : expectsOperand (some .leftParen) = expectsOperand none := rfl
  have alone : resolveAfter (some .leftParen) inner = resolveMinus inner :=
    resolveAfter_congr same inner
  rw [List.cons_append, resolveAfter, resolveAfter_append, resolveAfter]
  simp [resolveOne, alone]

/-- The three parts of a sequence with a group are resolved apart. -/
theorem resolveMinus_group (before inner after : List Token) :
    resolveMinus (before ++ [.leftParen] ++ inner ++ [.rightParen] ++ after) =
      resolveMinus before ++ (.leftParen :: resolveMinus inner ++ [.rightParen]) ++
        resolveAfter (some .rightParen) after := by
  have regrouped : before ++ [.leftParen] ++ inner ++ [.rightParen] ++ after =
      before ++ (.leftParen :: inner ++ .rightParen :: after) := by simp
  rw [regrouped, resolveMinus, resolveAfter_append, resolveAfter_group]
  simp [resolveMinus]

theorem resolveMinus_number (before after : List Token) (value : Value) :
    resolveMinus (before ++ [.number value] ++ after) =
      resolveMinus before ++ [.number value] ++ resolveAfter (some .rightParen) after := by
  have same : expectsOperand (some (.number value)) = expectsOperand (some .rightParen) := rfl
  rw [List.append_assoc, resolveMinus, resolveAfter_append, List.singleton_append, resolveAfter,
    ← resolveAfter_congr same, resolveMinus]
  simp [resolveOne]

end Token

/-- The value of the tokens of an infix expression. -/
def valueOfTokens (tokens : List Token) (policy : StackPolicy) : Except Error Value :=
  (stepsOfTokens tokens policy).map Steps.value

theorem valueOfTokens_eq (tokens : List Token) (policy : StackPolicy) :
    valueOfTokens tokens policy =
      match Postfix.ofInfix (Token.resolveMinus tokens) with
      | .error error => .error (.parse error)
      | .ok ordered => (Postfix.eval policy ordered).mapError .eval := by
  rw [valueOfTokens, stepsOfTokens]
  cases Postfix.ofInfix (Token.resolveMinus tokens) with
  | error error => rfl
  | ok ordered =>
    cases found : Postfix.eval policy ordered <;> simp only [found] <;> rfl

theorem evaluate_eq (source : String) (policies : Policies) :
    evaluate source policies =
      match scan source policies.overflow with
      | .error error => .error (.scan error)
      | .ok tokens => valueOfTokens tokens policies.stack := by
  rw [evaluate, steps]
  cases scan source policies.overflow <;> rfl

theorem evaluate_of_scan {source : String} {policies : Policies} {tokens : List Token}
    (scanned : scan source policies.overflow = .ok tokens) :
    evaluate source policies = valueOfTokens tokens policies.stack := by
  rw [evaluate_eq, scanned]

theorem evaluatePostfix_of_scan {source : String} {policies : Policies} {tokens : List Token}
    (scanned : scan source policies.overflow = .ok tokens) :
    evaluatePostfix source policies = (Postfix.eval policies.stack tokens).mapError .eval := by
  rw [evaluatePostfix, scanned]

/-- A sequence with a value under the strict policy is converted to the list of one expression. -/
theorem postorder_of_strict {tokens : List Token} {value : Value}
    (evaluates : valueOfTokens tokens .strict = .ok value) :
    ∃ tree : Expression, Postfix.ofInfix (Token.resolveMinus tokens) = .ok tree.postorder ∧
      tree.value = .ok value := by
  rw [valueOfTokens_eq] at evaluates
  split at evaluates
  · cases evaluates
  next ordered converts =>
    have found := mapError_eq_ok_iff.mp evaluates
    obtain ⟨tree, others, rfl, has, -, single⟩ := Postfix.eval_ok_forest found
    rw [single rfl, Expression.forest_cons, Expression.forest_nil, List.append_nil] at converts
    exact ⟨tree, converts, has⟩

/-- A group that has a value by itself under the strict policy may be replaced by this value between
any tokens, well-formed or not, and under each policy: the result is the same value or the same
error. -/
theorem fold_group (before inner after : List Token) (value : Value) (policy : StackPolicy)
    (evaluates : valueOfTokens inner .strict = .ok value) :
    valueOfTokens (before ++ [.leftParen] ++ inner ++ [.rightParen] ++ after) policy =
      valueOfTokens (before ++ [.number value] ++ after) policy := by
  obtain ⟨tree, converts, found⟩ := postorder_of_strict evaluates
  -- the group and the value are operands alike, and what follows them is resolved alike
  have group : ∀ pending, Postfix.convert pending
      (.leftParen :: Token.resolveMinus inner ++ [.rightParen]) = .ok (tree.postorder, pending) :=
    Postfix.convert_group converts
  have number : ∀ pending,
      Postfix.convert pending [.number value] = .ok ([.number value], pending) := fun _ => rfl
  rw [valueOfTokens_eq, valueOfTokens_eq, Token.resolveMinus_group, Token.resolveMinus_number,
    Postfix.ofInfix_eq, Postfix.ofInfix_eq, Postfix.convertToEnd_operand group,
    Postfix.convertToEnd_operand number]
  cases Postfix.convert [] (Token.resolveMinus before) with
  | error error => rfl
  | ok done =>
    obtain ⟨out, waiting⟩ := done
    cases last : Postfix.convertToEnd waiting (Token.resolveAfter (some .rightParen) after) with
    | error error => simp only [Except.map, last]
    | ok rest => simp only [Except.map, last, Postfix.eval_literal found]

theorem fold_group_malformed :
    valueOfTokens [.number 7, .binaryMinus, .number 2] .strict = .ok 5 ∧
      valueOfTokens [.number 1, .leftParen, .number 7, .binaryMinus, .number 2, .rightParen,
        .binaryMinus, .number 3] .strict =
        valueOfTokens [.number 1, .number 5, .binaryMinus, .number 3] .strict :=
  have evaluates : valueOfTokens [.number 7, .binaryMinus, .number 2] .strict = .ok 5 := by decide
  ⟨evaluates, fold_group [.number 1] _ [.binaryMinus, .number 3] 5 .strict evaluates⟩

end Calculator
