import Calculator.Proofs.Provenance

/-!
# Sequences that have a postfix form

Bringing a sequence into postfix order drops its parentheses. A form comes out only if they match,
since each closing one takes an open group off and no group may be left open.

A postfix form has a value by itself only if it has one number more than binary operators. As no
other token is lost, so has the sequence that it comes from.

## Main statements

* `closes_of_ofInfix`: only a sequence whose parentheses match has a postfix form.
* `closes_leftParen`, `closes_rightParen`, `closes_other`: how matching goes on after each token.
* `surplus_of_strict`: a sequence with a value under the strict policy has one number more than
  binary operators.
-/
namespace Calculator

/-- The parentheses of a sequence match, if `depth` groups are open before it: all groups are closed
at its end, and none is closed that is not open. -/
inductive Token.Closes : Nat → List Token → Prop where
  | finished : Closes 0 []
  | opening {depth : Nat} {later : List Token} :
    Closes (depth + 1) later → Closes depth (.leftParen :: later)
  | closing {depth : Nat} {later : List Token} :
    Closes depth later → Closes (depth + 1) (.rightParen :: later)
  | other {depth : Nat} {token : Token} {later : List Token} :
    token.isParen = false → Closes depth later → Closes depth (token :: later)

def Token.isBinary : Token → Bool
  | .operator (.binary _) => true
  | _ => false

/-- By how much the numbers of a sequence outnumber its binary operators. -/
def Token.surplus (tokens : List Token) : Int := tokens.countP isNumber - tokens.countP isBinary

namespace Postfix

/-! ### Parentheses -/

theorem count_operator (op : Operator) (rest : List Pending) :
    (Pending.operator op :: rest).count .group = rest.count .group := by
  have other : Pending.operator op ≠ .group := nofun
  exact List.count_cons_of_ne other

theorem count_over (above : List Operator) (pending : List Pending) :
    (above.map Pending.operator ++ pending).count .group = pending.count .group := by
  induction above with
  | nil => rfl
  | cons op above ih => rw [List.map_cons, List.cons_append, count_operator, ih]

theorem count_operators (above : List Operator) : (above.map Pending.operator).count .group = 0 := by
  have counted := count_over above []
  rwa [List.append_nil] at counted

/-- A token that is accepted keeps the groups in step: as many are open in the sequence as wait on
the stack. -/
theorem closes_of_step {pending waiting : List Pending} {token : Token} {out later : List Token}
    (moves : step pending token = .ok (out, waiting))
    (closes : Token.Closes (waiting.count .group) later) :
    Token.Closes (pending.count .group) (token :: later) := by
  cases step_eq_ok_iff.mp moves with
  | number value => exact .other rfl closes
  | opening =>
    rw [List.count_cons_self] at closes
    exact .opening closes
  | closing above =>
    rw [count_over, List.count_cons_self]
    exact .closing closes
  | operator =>
    rw [count_over]
    rw [count_operator] at closes
    exact .other rfl closes

/-- A conversion that leaves no group open has read matching parentheses. This is `closes_of_step`
over the whole run. -/
theorem closes_of_convert {pending waiting : List Pending} {tokens out : List Token}
    (converts : convert pending tokens = .ok (out, waiting))
    (noneOpen : waiting.count .group = 0) : Token.Closes (pending.count .group) tokens := by
  induction tokens generalizing pending out with
  | nil =>
    cases converts
    rw [noneOpen]
    exact .finished
  | cons token later ih =>
    obtain ⟨first, between, others, moves, rest, rfl⟩ := convert_cons_ok converts
    exact closes_of_step moves (ih rest)

theorem closes_of_ofInfix {tokens ordered : List Token} (converts : ofInfix tokens = .ok ordered) :
    Token.Closes 0 tokens := by
  obtain ⟨out, above, inside, -⟩ := ofInfix_ok converts
  exact closes_of_convert inside (count_operators above)

end Postfix

/-! ### Matching parentheses -/

namespace Token

theorem closes_leftParen {depth : Nat} {later : List Token} :
    Closes depth (.leftParen :: later) ↔ Closes (depth + 1) later := by
  constructor
  · intro closes
    cases closes with
    | opening rest => exact rest
    | other unparenthesised _ => cases unparenthesised
  · exact .opening

theorem closes_rightParen {depth : Nat} {later : List Token} :
    Closes (depth + 1) (.rightParen :: later) ↔ Closes depth later := by
  constructor
  · intro closes
    cases closes with
    | closing rest => exact rest
    | other unparenthesised _ => cases unparenthesised
  · exact .closing

theorem not_closes_zero {later : List Token} : ¬ Closes 0 (.rightParen :: later) := by
  rintro (_ | _ | _ | ⟨⟨⟩, _⟩)

theorem closes_other {depth : Nat} {token : Token} {later : List Token}
    (unparenthesised : token.isParen = false) :
    Closes depth (token :: later) ↔ Closes depth later := by
  constructor
  · intro closes
    cases closes with
    | opening | closing => cases unparenthesised
    | other _ rest => exact rest
  · exact .other unparenthesised

/-- Tokens that are no parentheses may be left out. -/
theorem closes_filter (keeps : Token → Bool)
    (parens : ∀ token, token.isParen = true → keeps token = true) {depth : Nat}
    {tokens : List Token} : Closes depth (tokens.filter keeps) ↔ Closes depth tokens := by
  induction tokens generalizing depth with
  | nil => rfl
  | cons token later ih =>
    cases token with
    | leftParen =>
      rw [List.filter_cons_of_pos (parens _ rfl), closes_leftParen, closes_leftParen, ih]
    | rightParen =>
      rw [List.filter_cons_of_pos (parens _ rfl)]
      cases depth with
      | zero => exact iff_of_false not_closes_zero not_closes_zero
      | succ depth => rw [closes_rightParen, closes_rightParen, ih]
    | operator | number =>
      rw [List.filter_cons]
      split
      · rw [closes_other rfl, closes_other rfl, ih]
      · rw [closes_other rfl, ih]

theorem isParen_resolveOne (previous : Option Token) (token : Token) :
    (resolveOne previous token).isParen = token.isParen := by
  rw [resolveOne]
  split
  next minus => rw [minus.1]; rfl
  · rfl

theorem closes_resolveAfter {previous : Option Token} {depth : Nat} {tokens : List Token} :
    Closes depth (resolveAfter previous tokens) ↔ Closes depth tokens := by
  induction tokens generalizing previous depth with
  | nil => rfl
  | cons token later ih =>
    rw [resolveAfter]
    cases token with
    | leftParen => exact closes_leftParen.trans (ih.trans closes_leftParen.symm)
    | rightParen =>
      cases depth with
      | zero => exact iff_of_false not_closes_zero not_closes_zero
      | succ depth => exact closes_rightParen.trans (ih.trans closes_rightParen.symm)
    | operator | number =>
      rw [closes_other (isParen_resolveOne previous _), closes_other rfl, ih]

end Token

/-! ### Numbers and binary operators -/

namespace Token

theorem surplus_append (first second : List Token) :
    surplus (first ++ second) = surplus first + surplus second := by
  simp only [surplus, List.countP_append]
  omega

theorem surplus_cons (token : Token) (later : List Token) :
    surplus (token :: later) = surplus [token] + surplus later := surplus_append [token] later

/-- The surplus does not depend on the order of the tokens. -/
theorem surplus_perm {first second : List Token} (same : first.Perm second) :
    surplus first = surplus second := by
  rw [surplus, surplus, same.countP_eq, same.countP_eq]

theorem surplus_of_paren {token : Token} (paren : token.isParen = true) : surplus [token] = 0 := by
  cases token with
  | leftParen | rightParen => rfl
  | operator | number => cases paren

theorem surplus_filter (tokens : List Token) :
    surplus (tokens.filter (! ·.isParen)) = surplus tokens := by
  induction tokens with
  | nil => rfl
  | cons token later ih =>
    rw [List.filter_cons, surplus_cons token later]
    split
    · rw [surplus_cons, ih]
    next hidden => rw [ih, surplus_of_paren (by simpa using hidden), Int.zero_add]

end Token

/-- The conversion keeps the surplus. -/
theorem Postfix.surplus_ofInfix {tokens ordered : List Token}
    (converts : ofInfix tokens = .ok ordered) : Token.surplus ordered = Token.surplus tokens := by
  rw [Token.surplus_perm (ofInfix_perm converts), Token.surplus_filter]

/-- The list of an expression leaves one number. -/
theorem Expression.surplus_postorder (tree : Expression) : Token.surplus tree.postorder = 1 := by
  induction tree with
  | literal value => rfl
  | negate operand ih =>
    have sign : Token.surplus [.operator .negate] = 0 := rfl
    rw [postorder, Token.surplus_append, ih, sign]
    rfl
  | binary op left right ihLeft ihRight =>
    have sign : Token.surplus [.operator (.binary op)] = -1 := rfl
    rw [postorder, Token.surplus_append, Token.surplus_append, ihLeft, ihRight, sign]
    rfl

theorem closes_of_valueOfTokens {tokens : List Token} {policy : StackPolicy} {value : Value}
    (evaluates : valueOfTokens tokens policy = .ok value) : Token.Closes 0 tokens := by
  rw [valueOfTokens_eq] at evaluates
  split at evaluates
  · cases evaluates
  next ordered converts => exact Token.closes_resolveAfter.mp (Postfix.closes_of_ofInfix converts)

/-- A sequence with a value under the strict policy leaves exactly one number. -/
theorem surplus_of_strict {tokens : List Token} {value : Value}
    (evaluates : valueOfTokens tokens .strict = .ok value) :
    Token.surplus (Token.resolveMinus tokens) = 1 := by
  obtain ⟨tree, converts, -⟩ := postorder_of_strict evaluates
  rw [← Postfix.surplus_ofInfix converts, tree.surplus_postorder]

end Calculator
