import Calculator.Proofs.Reordering

/-!
# The order of what is pending

An operator is put on the stack when nothing on top of it binds as tightly. So whatever is read,
misplaced tokens included, an operator that lies directly on another one binds more tightly. Closing
a group uncovers what lay below it, which has been in this order since the group was opened.

There are three degrees of binding. So at most three operators are pending above the innermost open
group, between two groups that are open, and below the outermost one.

## Main statements

* `ordered_step`, `ordered_convert`: one token keeps the order, and so do all of them.
* `ordered_iff`: the stacks in this order are exactly those that some tokens lead to.
* `count_step`, `count_convert`: how many groups are pending.
* `stacked_step`, `stacked_convert`: what is pending comes from the tokens, in their order.
* `pending_ordered`: the stack after the first tokens of a sequence.
-/
namespace Calculator.Postfix

/-- Top first: an operator binds more tightly than one directly below it. -/
inductive Ordered : List Pending → Prop where
  | empty : Ordered []
  | group {below : List Pending} : Ordered below → Ordered (.group :: below)
  | operator {op : Operator} {below : List Pending} : Below op.precedence below → Ordered below →
    Ordered (.operator op :: below)

/-- The token that is pending. -/
def Pending.token : Pending → Token
  | .group => .leftParen
  | .operator op => .operator op

/-- The tokens on a stack, from the bottom to the top. -/
def stacked (pending : List Pending) : List Token := pending.reverse.map Pending.token

/-- What is pending, top first, after the first tokens of a sequence. -/
structure Awaits (before : List Token) (pending : List Pending) : Prop where
  -- opening parentheses and operators that have been read, in the same order
  tokens : (stacked pending).Sublist before
  -- no group was closed that was not open
  closes : ∀ start, start <+: before → start.count .rightParen ≤ start.count .leftParen
  -- the groups that are open
  groups : before.count .leftParen = before.count .rightParen + pending.count .group
  -- operators with no group between them: each one binds more tightly than those below it
  tighter : ∀ (upper : List Pending) (segment : List Operator) (lower : List Pending),
    pending = upper ++ segment.map .operator ++ lower →
      segment.Pairwise fun top under => under.precedence < top.precedence
  -- so there are not many of them, and not many in all for the number of open groups
  few : ∀ (upper : List Pending) (segment : List Operator) (lower : List Pending),
    pending = upper ++ segment.map .operator ++ lower → segment.length ≤ 3
  bounded : pending.length ≤ 4 * pending.count .group + 3

/-! ### Stacks in order -/

theorem below_of_append {limit : Nat} {above below : List Pending}
    (stays : Below limit (above ++ below)) : Below limit above := by
  cases above with
  | nil => exact nofun
  | cons top rest => exact stays

theorem below_five (pending : List Pending) : Below 5 pending := by
  rintro (_ | op) _
  · rfl
  · exact decide_eq_false (Nat.not_le.mpr (Nat.lt_succ_of_le op.precedence_le_four))

theorem Ordered.of_append_left {above below : List Pending} (ordered : Ordered (above ++ below)) :
    Ordered above := by
  induction above with
  | nil => exact .empty
  | cons top above ih =>
    cases ordered with
    | group rest => exact .group (ih rest)
    | operator stays rest => exact .operator (below_of_append stays) (ih rest)

theorem Ordered.of_append_right {above below : List Pending} (ordered : Ordered (above ++ below)) :
    Ordered below := by
  induction above with
  | nil => exact ordered
  | cons top above ih =>
    cases ordered with
    | group rest => exact ih rest
    | operator stays rest => exact ih rest

/-- If the top operator of an ordered segment binds less tightly than `limit`, then all of them do.
-/
theorem Ordered.precedence_lt {limit : Nat} {segment : List Operator}
    (ordered : Ordered (segment.map .operator)) (stays : Below limit (segment.map .operator)) :
    ∀ op ∈ segment, op.precedence < limit := by
  induction segment generalizing limit with
  | nil => exact nofun
  | cons top segment ih =>
    cases ordered with
    | operator under rest =>
      have less : top.precedence < limit := below_operator.mp stays
      intro op member
      rcases List.mem_cons.mp member with rfl | among
      · exact less
      · exact Nat.lt_trans (ih rest under op among) less

/-- Within a segment of operators each binds more tightly than all below it. -/
theorem Ordered.pairwise {segment : List Operator} (ordered : Ordered (segment.map .operator)) :
    segment.Pairwise fun top under => under.precedence < top.precedence := by
  induction segment with
  | nil => exact .nil
  | cons top segment ih =>
    cases ordered with
    | operator under rest => exact .cons (rest.precedence_lt under) (ih rest)

/-- Before an operator that binds as tightly as `limit`, there is room for one operator of each
lower degree on top, and for one of each degree under every open group. -/
theorem Ordered.length_add_two_le {pending : List Pending} (ordered : Ordered pending) {limit : Nat}
    (least : 2 ≤ limit) (stays : Below limit pending) :
    pending.length + 2 ≤ 4 * pending.count .group + limit := by
  induction ordered generalizing limit with
  | empty => simpa using least
  | @group below rest ih =>
    have fits := ih (by decide) (below_five below)
    rw [List.count_cons_self, List.length_cons]
    omega
  | @operator op below under rest ih =>
    have fits := ih op.two_le_precedence under
    have less := below_operator.mp stays
    rw [count_operator, List.length_cons]
    omega

/-- At most three operators lie between two groups, as there are three precedences. -/
theorem Ordered.length_le {pending : List Pending} (ordered : Ordered pending) :
    pending.length ≤ 4 * pending.count .group + 3 := by
  have fits := ordered.length_add_two_le (by decide) (below_five pending)
  omega

/-! ### One token and all of them -/

/-- One token keeps the stack in order: an operator is put only on what binds less tightly. -/
theorem ordered_step {pending waiting : List Pending} {token : Token} {out : List Token}
    (moves : step pending token = .ok (out, waiting)) (ordered : Ordered pending) :
    Ordered waiting := by
  cases step_eq_ok_iff.mp moves with
  | number value => exact ordered
  | opening => exact .group ordered
  | closing above =>
    cases ordered.of_append_right with
    | group rest => exact rest
  | operator tight stays => exact .operator stays ordered.of_append_right

/-- A conversion keeps the stack in order, token by token. -/
theorem ordered_convert {pending waiting : List Pending} {tokens out : List Token}
    (converts : convert pending tokens = .ok (out, waiting)) (ordered : Ordered pending) :
    Ordered waiting := by
  induction tokens generalizing pending out with
  | nil =>
    cases converts
    exact ordered
  | cons token later ih =>
    obtain ⟨first, between, others, moves, rest, rfl⟩ := convert_cons_ok converts
    exact ih rest (ordered_step moves ordered)

theorem stacked_append (above below : List Pending) :
    stacked (above ++ below) = stacked below ++ stacked above := by
  rw [stacked, List.reverse_append, List.map_append]
  rfl

theorem stacked_cons (top : Pending) (below : List Pending) :
    stacked (top :: below) = stacked below ++ [top.token] :=
  stacked_append [top] below

/-- A stack in order is built up by its own tokens, which all wait. -/
theorem Ordered.convert_stacked {pending : List Pending} (ordered : Ordered pending) :
    convert [] (stacked pending) = .ok ([], pending) := by
  induction ordered with
  | empty => rfl
  | group rest ih =>
    rw [stacked_cons, convert_append, ih]
    rfl
  | operator stays rest ih =>
    rw [stacked_cons, convert_append, ih]
    simp only [convert, Pending.token, step_waits stays]
    rfl

/-- The ordered stacks are those that some sequence leaves, so that nothing more could be said of
them. -/
theorem ordered_iff {pending : List Pending} :
    Ordered pending ↔ ∃ tokens out, convert [] tokens = .ok (out, pending) := by
  constructor
  · intro ordered
    exact ⟨stacked pending, [], ordered.convert_stacked⟩
  · rintro ⟨tokens, out, converts⟩
    exact ordered_convert converts .empty

/-! ### Open groups -/

/-- A group is pushed for each opening parenthesis and popped for each closing one. -/
theorem count_step {pending waiting : List Pending} {token : Token} {out : List Token}
    (moves : step pending token = .ok (out, waiting)) :
    pending.count .group + [token].count .leftParen =
      waiting.count .group + [token].count .rightParen := by
  cases step_eq_ok_iff.mp moves with
  | number value => rfl
  | opening =>
    have opened : (Pending.group :: pending).count .group = pending.count .group + 1 :=
      List.count_cons_self
    rw [opened]
    rfl
  | closing above =>
    rw [count_over, List.count_cons_self]
    rfl
  | operator tight stays =>
    rw [count_over, count_operator]
    rfl

/-- As many groups wait as parentheses were opened and not closed. -/
theorem count_convert {pending waiting : List Pending} {tokens out : List Token}
    (converts : convert pending tokens = .ok (out, waiting)) :
    pending.count .group + tokens.count .leftParen =
      waiting.count .group + tokens.count .rightParen := by
  induction tokens generalizing pending out with
  | nil =>
    cases converts
    rfl
  | cons token later ih =>
    obtain ⟨first, between, others, moves, rest, rfl⟩ := convert_cons_ok converts
    have one := count_step moves
    have all := ih rest
    rw [← List.singleton_append, List.count_append, List.count_append]
    omega

/-! ### What is on the stack -/

/-- What waits after a token waited before it, or is the token, in the same order. -/
theorem stacked_step {pending waiting : List Pending} {token : Token} {out : List Token}
    (moves : step pending token = .ok (out, waiting)) :
    (stacked waiting).Sublist (stacked pending ++ [token]) := by
  -- from the bottom up, a token takes away from the end, or stands there itself
  cases step_eq_ok_iff.mp moves with
  | number value => exact List.sublist_append_left _ _
  | opening =>
    rw [stacked_cons]
    exact List.Sublist.refl _
  | closing above =>
    rw [stacked_append, stacked_cons]
    simp only [List.append_assoc]
    exact List.sublist_append_left _ _
  | operator tight stays =>
    rw [stacked_append, stacked_cons]
    exact (List.sublist_append_left _ _).append_right _

theorem stacked_convert {pending waiting : List Pending} {tokens out : List Token}
    (converts : convert pending tokens = .ok (out, waiting)) :
    (stacked waiting).Sublist (stacked pending ++ tokens) := by
  induction tokens generalizing pending out with
  | nil =>
    cases converts
    rw [List.append_nil]
  | cons token later ih =>
    obtain ⟨first, between, others, moves, rest, rfl⟩ := convert_cons_ok converts
    have one := (stacked_step moves).append_right later
    rw [List.append_assoc, List.singleton_append] at one
    exact (ih rest).trans one

/-- All that is known of the stack after the first tokens of a sequence, put together. -/
theorem awaits_of_convert {before out : List Token} {pending : List Pending}
    (converts : convert [] before = .ok (out, pending)) : Awaits before pending := by
  have ordered : Ordered pending := ordered_convert converts .empty
  have inside {upper lower : List Pending} {segment : List Operator}
      (split : pending = upper ++ segment.map .operator ++ lower) :
      Ordered (segment.map .operator) := by
    rw [split] at ordered
    exact ordered.of_append_left.of_append_right
  constructor
  · -- operators and groups that wait are tokens of the sequence
    exact stacked_convert converts
  · -- a start is converted as well, and what waits after it counts the groups open there
    rintro start ⟨rest, rfl⟩
    obtain ⟨sent, between, others, found, -, -⟩ := convert_append_ok converts
    have counted := count_convert found
    rw [List.count_nil] at counted
    omega
  · have counted := count_convert converts
    rw [List.count_nil] at counted
    omega
  · intro upper segment lower split
    exact (inside split).pairwise
  · intro upper segment lower split
    have fits := (inside split).length_le
    rwa [count_operators, List.length_map] at fits
  · exact ordered.length_le

/-- Any sequence whose first tokens are converted without an error: its conversion is that of the
other tokens, from a stack on which at most three operators are pending for each group that is open,
in strict order. -/
theorem pending_ordered {before out : List Token} {pending : List Pending}
    (converts : convert [] before = .ok (out, pending)) :
    Awaits before pending ∧
      ∀ later, ofInfix (before ++ later) = (convertToEnd pending later).map (out ++ ·) := by
  refine ⟨awaits_of_convert converts, fun later => ?_⟩
  rw [ofInfix_eq, convertToEnd_append, converts]

theorem pending_ordered_nested :
    convert [] [.number 1, .plus, .leftParen, .number 2, .plus, .number 3, .times, .unaryMinus] =
        .ok ([.number 1, .number 2, .number 3], [.operator .negate, .operator (.binary .times),
          .operator (.binary .plus), .group, .operator (.binary .plus)]) ∧
      Awaits [.number 1, .plus, .leftParen, .number 2, .plus, .number 3, .times, .unaryMinus]
        [.operator .negate, .operator (.binary .times), .operator (.binary .plus), .group,
          .operator (.binary .plus)] :=
  have converts : convert []
      [.number 1, .plus, .leftParen, .number 2, .plus, .number 3, .times, .unaryMinus] =
        .ok ([.number 1, .number 2, .number 3], [.operator .negate, .operator (.binary .times),
          .operator (.binary .plus), .group, .operator (.binary .plus)]) := by decide
  ⟨converts, (pending_ordered converts).1⟩

end Calculator.Postfix
