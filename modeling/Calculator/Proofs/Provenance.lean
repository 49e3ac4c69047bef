import Calculator.Proofs.Group

/-!
# Where the tokens of a postfix form come from

A number goes out as soon as it is read, and every other token that is kept has to wait. So numbers
never overtake each other, and no operator goes out before a number that stands before it; but
operators may overtake each other, and numbers may overtake operators.

Equal tokens cannot be told apart in the form, so each one is given its position in the sequence.
What has gone out and what is held are then, at every moment, the tokens that were read with their
positions, less the parentheses. A postfix form is such a list without the positions.

No parenthesis goes out, and only a parenthesis could be an unexpected one for the evaluator.

## Main statements

* `step_held`: all that one token does to the operators that are held.
* `exists_placed_step`, `exists_placed_convert`: positions are kept by one step and by all of them.
* `ofInfix_perm`: a postfix form holds the tokens of its sequence without the parentheses.
* `eval_ne_unexpected`: a sequence without parentheses has no unexpected one.
* `ofInfix_origins`: what is in a postfix form, and in which order.
-/
namespace Calculator

namespace Postfix

/-- A token with its position in a sequence. -/
abbrev Placed := Token × Nat

/-- Where the tokens of a postfix form were in its sequence. -/
structure Origins (tokens ordered : List Token) (origins : List Placed) : Prop where
  shows : origins.map Prod.fst = ordered
  -- each token but the parentheses goes out once
  perm : origins.Perm (tokens.zipIdx.filter (! ·.1.isParen))
  -- a number goes out before all tokens that come after it in the sequence
  number_first : ∀ number ∈ origins, ∀ later ∈ origins, number.1.isNumber = true →
    number.2 < later.2 → [number, later].Sublist origins

/-- What goes out before a number also stood before it. -/
def Ready (first second : Placed) : Prop := second.1.isNumber = true → first.2 < second.2

/-- The operators that are pending, in the order in which they go out. -/
def held (pending : List Pending) : List Token := pending.filterMap Pending.token?

theorem held_append (above below : List Pending) : held (above ++ below) = held above ++ held below :=
  List.filterMap_append

theorem held_operators (above : List Operator) :
    held (above.map .operator) = above.map .operator := by
  have tokens : Pending.token? ∘ Pending.operator = some ∘ Token.operator := rfl
  rw [held, List.filterMap_map, tokens, List.filterMap_eq_map]

/-- A number goes out at once. Any other token takes some of the operators that are held off the
top, and is held itself if it is an operator. -/
theorem step_held {pending waiting : List Pending} {token : Token} {out : List Token}
    (moves : step pending token = .ok (out, waiting)) :
    (token.isNumber = true ∧ out = [token] ∧ waiting = pending) ∨
    (token.isNumber = false ∧ ∃ kept, held pending = out ++ kept ∧
      held waiting = [token].filter (! ·.isParen) ++ kept) := by
  cases step_eq_ok_iff.mp moves with
  | number value => exact .inl ⟨rfl, rfl, rfl⟩
  | opening => exact .inr ⟨rfl, held pending, rfl, rfl⟩
  | closing above =>
    refine .inr ⟨rfl, held waiting, ?_, rfl⟩
    rw [held_append, held_operators]
    rfl
  | @operator op above below =>
    refine .inr ⟨rfl, held below, ?_, rfl⟩
    rw [held_append, held_operators]

/-! ### Tokens with their positions -/

theorem map_fst_filter (keeps : Token → Bool) (placed : List Placed) :
    (placed.filter (keeps ·.1)).map Prod.fst = (placed.map Prod.fst).filter keeps :=
  List.filter_map.symm

theorem not_number_of_held {pending : List Pending} {token : Token} (member : token ∈ held pending) :
    token.isNumber = false := by
  obtain ⟨top, -, shown⟩ := List.mem_filterMap.mp member
  cases top with
  | group => cases shown
  | operator op =>
    cases shown
    rfl

/-- No number waits on the stack, so that what waits there may leave after anything. -/
theorem ready_of_held {pending : List Pending} {kept : List Placed}
    (shows : kept.map Prod.fst = held pending) (first : Placed) {second : Placed}
    (member : second ∈ kept) : Ready first second := by
  intro number
  have waits : second.1 ∈ held pending := shows ▸ List.mem_map_of_mem member
  rw [not_number_of_held waits] at number
  cases number

/-- The step with positions: what it sends and what it keeps are the tokens it was given, each with
its own position, and what it sends is in a permitted order. -/
theorem exists_placed_step {pending waiting : List Pending} {token : Token} {out : List Token}
    (moves : step pending token = .ok (out, waiting)) {before : List Placed}
    (shows : before.map Prod.fst = held pending) (position : Nat) :
    ∃ sent kept : List Placed, sent.map Prod.fst = out ∧ kept.map Prod.fst = held waiting ∧
      (sent ++ kept).Perm (before ++ [(token, position)].filter (! ·.1.isParen)) ∧
      sent.Pairwise Ready := by
  -- a number is sent at once; any other token waits, and sends some of those that waited
  rcases step_held moves with ⟨number, rfl, rfl⟩ | ⟨-, rest, taken, holds⟩
  · have read : [(token, position)].filter (! ·.1.isParen) = [(token, position)] := by
      cases token <;> simp_all [Token.isNumber, Token.isParen]
    refine ⟨[(token, position)], before, rfl, shows, ?_, List.pairwise_singleton _ _⟩
    rw [read]
    exact List.perm_append_comm
  · obtain ⟨sent, kept, rfl, showsOut, showsRest⟩ := List.map_eq_append_iff.mp (shows.trans taken)
    refine ⟨sent, [(token, position)].filter (! ·.1.isParen) ++ kept, showsOut, ?_, ?_, ?_⟩
    · rw [List.map_append, showsRest, holds, map_fst_filter (! ·.isParen)]
      rfl
    · rw [List.append_assoc]
      exact List.perm_append_comm.append_left sent
    · -- only operators are sent, so nothing is asked
      refine List.pairwise_of_forall_mem_list fun first _ second member => ?_
      exact ready_of_held shows first (List.mem_append_left kept member)

/-- The run with positions. The invariant is that every token on the stack stands earlier in the
infix sequence than all that is still to be read. -/
theorem exists_placed_convert {pending waiting : List Pending} {tokens out : List Token}
    (converts : convert pending tokens = .ok (out, waiting)) (before : List Placed) (position : Nat)
    (shows : before.map Prod.fst = held pending) (earlier : ∀ other ∈ before, other.2 < position) :
    ∃ sent kept : List Placed, sent.map Prod.fst = out ∧ kept.map Prod.fst = held waiting ∧
      (sent ++ kept).Perm (before ++ (tokens.zipIdx position).filter (! ·.1.isParen)) ∧
      sent.Pairwise Ready := by
  induction tokens generalizing pending out before position with
  | nil =>
    cases converts
    exact ⟨[], before, rfl, shows, .of_eq (List.append_nil _).symm, .nil⟩
  | cons token later ih =>
    obtain ⟨first, between, others, moves, rest, rfl⟩ := convert_cons_ok converts
    obtain ⟨sent, kept, rfl, showsKept, one, ready⟩ := exists_placed_step moves shows position
    -- what was read so far has smaller positions than what comes
    have read : ∀ other ∈ sent ++ kept, other.2 < position + 1 := by
      intro other member
      rcases List.mem_append.mp (one.subset member) with held | new
      · exact Nat.lt_succ_of_lt (earlier other held)
      · rw [List.mem_singleton.mp (List.mem_of_mem_filter new)]
        exact Nat.lt_succ_self position
    obtain ⟨more, final, rfl, showsFinal, all, readyMore⟩ := ih rest kept _ showsKept
      fun other member => read other (List.mem_append_right sent member)
    refine ⟨sent ++ more, final, List.map_append, showsFinal, ?_, ?_⟩
    · have step := one.append_right ((later.zipIdx (position + 1)).filter (! ·.1.isParen))
      have run := all.append_left sent
      rw [List.append_assoc, List.append_assoc] at step
      rw [List.append_assoc, List.zipIdx_cons, ← List.singleton_append, List.filter_append]
      exact run.trans step
    · refine List.pairwise_append.mpr ⟨ready, readyMore, fun first sentFirst second goes => ?_⟩
      rcases List.mem_append.mp (all.subset (List.mem_append_left final goes)) with held | new
      · exact ready_of_held showsKept first held
      · -- a number that is read later has a larger position
        have after := List.le_snd_of_mem_zipIdx (List.mem_of_mem_filter new)
        exact fun _ => Nat.lt_of_lt_of_le (read first (List.mem_append_left kept sentFirst)) after

/-- Every token of a converted sequence has a position in the infix sequence, no position is used
twice and none but those of parentheses is left out. -/
theorem exists_placed_ofInfix {tokens ordered : List Token}
    (converts : ofInfix tokens = .ok ordered) :
    ∃ origins : List Placed, origins.map Prod.fst = ordered ∧
      origins.Perm (tokens.zipIdx.filter (! ·.1.isParen)) ∧ origins.Pairwise Ready := by
  obtain ⟨out, above, inside, rfl⟩ := ofInfix_ok converts
  obtain ⟨sent, kept, rfl, showsKept, perm, ready⟩ :=
    exists_placed_convert inside [] 0 rfl (by simp)
  refine ⟨sent ++ kept, ?_, perm, ?_⟩
  · rw [List.map_append, showsKept, held_operators]
  · refine List.pairwise_append.mpr ⟨ready, ?_, fun first _ second => ready_of_held showsKept first⟩
    exact List.pairwise_of_forall_mem_list fun first _ second => ready_of_held showsKept first

/-- A converted sequence is the infix sequence without its parentheses, in another order. -/
theorem ofInfix_perm {tokens ordered : List Token} (converts : ofInfix tokens = .ok ordered) :
    ordered.Perm (tokens.filter (! ·.isParen)) := by
  obtain ⟨origins, rfl, perm, -⟩ := exists_placed_ofInfix converts
  have tokensOnly := perm.map Prod.fst
  rwa [map_fst_filter (! ·.isParen), List.zipIdx_map_fst] at tokensOnly

/-- Numbers keep their order, since none goes out before one that stood before it. -/
theorem ofInfix_numbers {tokens ordered : List Token} (converts : ofInfix tokens = .ok ordered) :
    ordered.filter (·.isNumber) = tokens.filter (·.isNumber) := by
  obtain ⟨origins, rfl, perm, ready⟩ := exists_placed_ofInfix converts
  have read : (tokens.zipIdx.filter (·.1.isNumber)).Pairwise fun first second =>
      first.2 < second.2 := by
    refine List.Pairwise.filter _ ?_
    rw [← List.pairwise_map, List.zipIdx_map_snd]
    exact List.pairwise_lt_range'
  have sent : (origins.filter (·.1.isNumber)).Pairwise fun first second => first.2 < second.2 :=
    List.pairwise_filter.mpr (ready.imp fun before _ number => before number)
  have same : (origins.filter (·.1.isNumber)).Perm (tokens.zipIdx.filter (·.1.isNumber)) := by
    have numbers := perm.filter (·.1.isNumber)
    rw [List.filter_filter] at numbers
    refine numbers.trans (.of_eq (List.filter_congr ?_))
    rintro ⟨token, position⟩ -
    cases token <;> rfl
  -- two ascending lists with the same members are one list
  have equal : origins.filter (·.1.isNumber) = tokens.zipIdx.filter (·.1.isNumber) :=
    same.eq_of_pairwise (fun _ _ _ _ less more => absurd less (Nat.lt_asymm more)) sent read
  rw [← map_fst_filter (·.isNumber), equal, map_fst_filter (·.isNumber), List.zipIdx_map_fst]

/-- Tokens in a permitted order have the origins they carry. -/
theorem Origins.of_ready {tokens : List Token} {origins : List Placed}
    (perm : origins.Perm (tokens.zipIdx.filter (! ·.1.isParen))) (ready : origins.Pairwise Ready) :
    Origins tokens (origins.map Prod.fst) origins := by
  refine ⟨rfl, perm, fun number member later memberLater isNumber before => ?_⟩
  obtain ⟨start, rest, rfl⟩ := List.append_of_mem member
  rcases List.mem_append.mp memberLater with inStart | inRest
  · -- what goes out before the number stood before it
    have stood := (List.pairwise_append.mp ready).2.2 later inStart number List.mem_cons_self
    exact absurd before (Nat.lt_asymm (stood isNumber))
  · rcases List.mem_cons.mp inRest with rfl | inRest
    · exact absurd before (Nat.lt_irrefl _)
    · exact ((List.singleton_sublist.mpr inRest).cons_cons number).trans
        (List.sublist_append_right start _)

/-! ### Unexpected parentheses -/

/-- Without parentheses in it a sequence is never refused for one. -/
theorem eval_ne_unexpected {tokens : List Token} (plain : ∀ token ∈ tokens, token.isParen = false)
    (policy : StackPolicy) : eval policy tokens ≠ .error .unexpectedParenthesis := by
  rw [eval]
  cases ran : run .empty tokens with
  | error error =>
    rintro ⟨⟩
    -- a run fails at one token, and this one is no parenthesis
    obtain ⟨token, member, reached, stops⟩ := run_error ran
    rcases evalToken_error stops with ⟨paren, -⟩ | wrong | wrong | wrong
    · simp [plain token member] at paren
    all_goals cases wrong
  | ok final =>
    simp only
    rcases Nat.eq_zero_or_pos final.size with empty | holds
    · rw [answer_empty empty]
      rintro ⟨⟩
    · obtain ⟨value, answers⟩ := exists_answer holds
      rw [answers]
      split <;> rintro ⟨⟩

theorem plain_of_ofInfix {tokens ordered : List Token} (converts : ofInfix tokens = .ok ordered) :
    ∀ token ∈ ordered, token.isParen = false := by
  intro token member
  have kept := (List.mem_filter.mp ((ofInfix_perm converts).subset member)).2
  simpa using kept

end Postfix

theorem evaluate_ne_unexpected (source : String) (policies : Policies) :
    evaluate source policies ≠ .error (.eval .unexpectedParenthesis) := by
  rw [evaluate_eq]
  cases scan source policies.overflow with
  | error error => exact nofun
  | ok tokens =>
    simp only [valueOfTokens_eq]
    cases converts : Postfix.ofInfix (Token.resolveMinus tokens) with
    | error error => exact nofun
    | ok ordered =>
      intro stops
      obtain ⟨error, fails, same⟩ := mapError_eq_error stops
      cases same
      exact Postfix.eval_ne_unexpected (Postfix.plain_of_ofInfix converts) _ fails

/-- A postfix form holds the tokens of its sequence without the parentheses, each as often as there.
The numbers keep their order, and the tokens can be matched with those of the sequence so that each
number goes out before all tokens that come after it, operators or numbers. So no infix text ends
with an unexpected parenthesis. -/
theorem ofInfix_origins :
    (∀ tokens ordered, Postfix.ofInfix tokens = .ok ordered →
      (∀ token ∈ ordered, token.isParen = false) ∧
      ordered.Perm (tokens.filter (! ·.isParen)) ∧
      ordered.filter (·.isNumber) = tokens.filter (·.isNumber) ∧
      ∃ origins, Postfix.Origins tokens ordered origins) ∧
    ∀ source policies, steps source policies ≠ .error (.eval .unexpectedParenthesis) ∧
      evaluate source policies ≠ .error (.eval .unexpectedParenthesis) := by
  constructor
  · intro tokens ordered converts
    refine ⟨Postfix.plain_of_ofInfix converts, Postfix.ofInfix_perm converts,
      Postfix.ofInfix_numbers converts, ?_⟩
    obtain ⟨origins, rfl, perm, ready⟩ := Postfix.exists_placed_ofInfix converts
    exact ⟨origins, .of_ready perm ready⟩
  · intro source policies
    have evaluated := evaluate_ne_unexpected source policies
    exact ⟨fun stops => evaluated (map_eq_error_iff.mpr stops), evaluated⟩

theorem ofInfix_origins_group :
    Postfix.ofInfix [.unaryMinus, .number 1, .times, .leftParen, .number 2, .plus, .number 3,
        .rightParen] = .ok [.number 1, .unaryMinus, .number 2, .number 3, .plus, .times] ∧
      ∃ origins, Postfix.Origins [.unaryMinus, .number 1, .times, .leftParen, .number 2, .plus,
        .number 3, .rightParen] [.number 1, .unaryMinus, .number 2, .number 3, .plus, .times]
        origins := by
  have converts : Postfix.ofInfix [.unaryMinus, .number 1, .times, .leftParen, .number 2, .plus,
      .number 3, .rightParen] =
      .ok [.number 1, .unaryMinus, .number 2, .number 3, .plus, .times] := by decide
  exact ⟨converts, (ofInfix_origins.1 _ _ converts).2.2.2⟩

end Calculator
