import Calculator.Error
import Calculator.Token.Basic

/-!
# Postfix order

An infix sequence is brought into postfix order with a stack of pending operators. Numbers go out
at once; an operator waits until every operator that binds at least as tightly before it has gone
out, which makes the binary operators associate to the left. An opening parenthesis hides what is
pending below it until it is closed.

The conversion looks at the order of the tokens and at parentheses only. A misplaced operator or
number is left for the evaluator to find.

## Main statements

* `step_eq_ok_iff`: all that one token can do to what is pending.
* `convert_append`: a sequence may be converted in two parts, if the second part starts with what
  the first leaves pending.
-/
namespace Calculator.Postfix

/-- What waits on the stack: an open group, or an operator whose right operand is not complete. -/
inductive Pending where
  | group
  | operator (op : Operator)
  deriving DecidableEq, Repr

/-- Whether something pending goes out before an operator that binds as tightly as `limit`. -/
def Pending.yields (limit : Nat) : Pending → Bool
  | .group => false
  | .operator op => limit ≤ op.precedence

def Pending.token? : Pending → Option Token
  | .group => none
  | .operator op => some (.operator op)

/-- The operators above the innermost open group and what is pending below it, if one is open. -/
def closeGroup : List Pending → Option (List Token × List Pending)
  | [] => none
  | .group :: below => some ([], below)
  | .operator op :: below =>
    (closeGroup below).map fun closed => (.operator op :: closed.1, closed.2)

def released (op : Operator) (pending : List Pending) : List Token :=
  (pending.takeWhile (Pending.yields op.precedence)).filterMap Pending.token?

/-- One token: what goes out, and what is pending afterwards. -/
def step (pending : List Pending) : Token → Except ParseError (List Token × List Pending)
  | .number value => .ok ([.number value], pending)
  | .leftParen => .ok ([], .group :: pending)
  | .rightParen =>
    match closeGroup pending with
    | some closed => .ok closed
    | none => .error .mismatchedParenthesis
  | .operator op =>
    .ok (released op pending, .operator op :: pending.dropWhile (Pending.yields op.precedence))

def finish : List Pending → Except ParseError (List Token)
  | [] => .ok []
  | .group :: _ => .error .mismatchedParenthesis
  | .operator op :: below => (finish below).map (.operator op :: ·)

/-- All tokens of a sequence: what goes out, and what is pending afterwards. -/
def convert (pending : List Pending) :
    List Token → Except ParseError (List Token × List Pending)
  | [] => .ok ([], pending)
  | token :: later =>
    match step pending token with
    | .error error => .error error
    | .ok (out, waiting) =>
      (convert waiting later).map fun done => (out ++ done.1, done.2)

/-- The postfix form of an infix sequence whose minus signs are resolved. -/
def ofInfix (tokens : List Token) : Except ParseError (List Token) :=
  match convert [] tokens with
  | .error error => .error error
  | .ok (out, pending) => (finish pending).map (out ++ ·)

/-! ### What is released -/

theorem closeGroup_over (above : List Operator) (pending : List Pending) :
    closeGroup (above.map .operator ++ pending) =
      (closeGroup pending).map fun closed => (above.map .operator ++ closed.1, closed.2) := by
  induction above with
  | nil => simp
  | cons op above ih =>
    simp only [List.map_cons, List.cons_append, closeGroup, ih, Option.map_map]
    rfl

/-- A group is closed by sending out the operators above it. -/
theorem closeGroup_eq_some_iff {pending waiting : List Pending} {out : List Token} :
    closeGroup pending = some (out, waiting) ↔ ∃ above : List Operator,
      pending = above.map .operator ++ .group :: waiting ∧ out = above.map .operator := by
  constructor
  · intro closes
    induction pending generalizing out with
    | nil => cases closes
    | cons top rest ih =>
      cases top with
      | group =>
        cases closes
        exact ⟨[], rfl, rfl⟩
      | operator op =>
        obtain ⟨⟨inner, below⟩, found, same⟩ := Option.map_eq_some_iff.mp closes
        cases same
        obtain ⟨above, rfl, rfl⟩ := ih found
        exact ⟨op :: above, rfl, rfl⟩
  · rintro ⟨above, rfl, rfl⟩
    simp [closeGroup_over, closeGroup]

theorem finish_over (above : List Operator) (pending : List Pending) :
    finish (above.map .operator ++ pending) =
      (finish pending).map (above.map .operator ++ ·) := by
  induction above with
  | nil => cases found : finish pending <;> simp [Except.map, found]
  | cons op above ih =>
    simp only [List.map_cons, List.cons_append, finish, ih]
    cases finish pending <;> rfl

/-- A conversion ends well when only operators are pending, all of which go out. -/
theorem finish_eq_ok_iff {pending : List Pending} {out : List Token} :
    finish pending = .ok out ↔ ∃ above : List Operator,
      pending = above.map .operator ∧ out = above.map .operator := by
  constructor
  · intro finishes
    induction pending generalizing out with
    | nil =>
      cases finishes
      exact ⟨[], rfl, rfl⟩
    | cons top rest ih =>
      cases top with
      | group => cases finishes
      | operator op =>
        obtain ⟨others, later, rfl⟩ := map_eq_ok finishes
        obtain ⟨above, rfl, rfl⟩ := ih later
        exact ⟨op :: above, rfl, rfl⟩
  · rintro ⟨above, rfl, rfl⟩
    have finishes := finish_over above []
    simpa [finish, Except.map] using finishes

/-- Nothing pending goes out before an operator that binds as tightly as `limit`. -/
def Below (limit : Nat) (pending : List Pending) : Prop :=
  ∀ top ∈ pending.head?, top.yields limit = false

theorem below_group (limit : Nat) (pending : List Pending) : Below limit (.group :: pending) := by
  intro top member
  cases member
  rfl

theorem below_operator {limit : Nat} {op : Operator} {pending : List Pending} :
    Below limit (.operator op :: pending) ↔ op.precedence < limit := by
  simp [Below, Pending.yields]

theorem Below.of_le {limit tighter : Nat} {pending : List Pending} (below : Below limit pending)
    (le : limit ≤ tighter) : Below tighter pending := by
  intro top member
  have kept := below top member
  cases top with
  | group => rfl
  | operator op =>
    simp only [Pending.yields, decide_eq_false_iff_not] at kept ⊢
    omega

/-- What is pending are some operators that bind at least as tightly as `limit`, above what stays
before an operator that binds so. -/
theorem exists_above (limit : Nat) (pending : List Pending) :
    ∃ (above : List Operator) (below : List Pending), pending = above.map .operator ++ below ∧
      (∀ op ∈ above, limit ≤ op.precedence) ∧ Below limit below := by
  -- the stack is read from its top down to the first that stays
  induction pending with
  | nil => exact ⟨[], [], rfl, nofun, nofun⟩
  | cons top rest ih =>
    cases yields : top.yields limit with
    | false =>
      refine ⟨[], top :: rest, rfl, nofun, ?_⟩
      rintro _ ⟨⟩
      exact yields
    | true =>
      cases top with
      | group => cases yields
      | operator op =>
        obtain ⟨above, below, rfl, tight, stays⟩ := ih
        refine ⟨op :: above, below, rfl, fun other member => ?_, stays⟩
        rcases List.mem_cons.mp member with rfl | among
        · exact of_decide_eq_true yields
        · exact tight other among

/-! ### One token -/

theorem step_closing (above : List Operator) (below : List Pending) :
    step (above.map .operator ++ .group :: below) .rightParen =
      .ok (above.map .operator, below) := by
  rw [step, closeGroup_eq_some_iff.mpr ⟨above, rfl, rfl⟩]

/-- Operators that bind at least as tightly as an incoming one are released by it, and then those
below them as if they had been on top. -/
theorem step_over {op : Operator} {above : List Operator}
    (tight : ∀ other ∈ above, op.precedence ≤ other.precedence) (pending : List Pending) :
    step (above.map .operator ++ pending) (.operator op) =
      (step pending (.operator op)).map fun moved => (above.map .operator ++ moved.1, moved.2) := by
  have all : ∀ top ∈ above.map .operator, Pending.yields op.precedence top = true := by
    intro top member
    obtain ⟨other, among, rfl⟩ := List.mem_map.mp member
    exact decide_eq_true (tight other among)
  have tokens : Pending.token? ∘ Pending.operator = some ∘ Token.operator := rfl
  rw [step, step, released, List.takeWhile_append_of_pos all, List.dropWhile_append_of_pos all,
    List.filterMap_append, List.filterMap_map, tokens, List.filterMap_eq_map]
  rfl

theorem step_waits {op : Operator} {pending : List Pending} (below : Below op.precedence pending) :
    step pending (.operator op) = .ok ([], .operator op :: pending) := by
  cases pending with
  | nil => rfl
  | cons top rest => simp [step, released, below top rfl]

/-- An operator sends out all that binds at least as tightly, down to the first that does not. -/
theorem step_operator {op : Operator} {above : List Operator} {below : List Pending}
    (tight : ∀ other ∈ above, op.precedence ≤ other.precedence) (stays : Below op.precedence below) :
    step (above.map .operator ++ below) (.operator op) =
      .ok (above.map .operator, .operator op :: below) := by
  simp [step_over tight, step_waits stays, Except.map]

/-- What one token does, where it does not fail: `pending` is taken apart into the operators that go
out and what stays. -/
inductive Moves : List Pending → Token → List Token → List Pending → Prop where
  | number {pending : List Pending} (value : Value) :
    Moves pending (.number value) [.number value] pending
  | opening {pending : List Pending} : Moves pending .leftParen [] (.group :: pending)
  | closing {below : List Pending} (above : List Operator) :
    Moves (above.map .operator ++ .group :: below) .rightParen (above.map .operator) below
  | operator {op : Operator} {above : List Operator} {below : List Pending} :
    (∀ other ∈ above, op.precedence ≤ other.precedence) → Below op.precedence below →
      Moves (above.map .operator ++ below) (.operator op) (above.map .operator)
        (.operator op :: below)

/-- All that a token can do, read off its result. The lemmas on whole conversions look at a step
only through `Moves`. -/
theorem step_eq_ok_iff {pending waiting : List Pending} {token : Token} {out : List Token} :
    step pending token = .ok (out, waiting) ↔ Moves pending token out waiting := by
  constructor
  · intro moves
    cases token with
    | number value =>
      cases moves
      exact .number value
    | leftParen =>
      cases moves
      exact .opening
    | rightParen =>
      simp only [step] at moves
      split at moves
      next closed closes =>
        cases moves
        obtain ⟨above, rfl, rfl⟩ := closeGroup_eq_some_iff.mp closes
        exact .closing above
      · cases moves
    | operator op =>
      -- every stack splits into what goes out before the operator and what stays
      obtain ⟨above, below, rfl, tight, stays⟩ := exists_above op.precedence pending
      rw [step_operator tight stays] at moves
      cases moves
      exact .operator tight stays
  · intro moves
    cases moves with
    | number | opening => rfl
    | closing above => exact step_closing above waiting
    | operator tight stays => exact step_operator tight stays

/-! ### All tokens -/

theorem convert_cons_ok {pending waiting : List Pending} {token : Token} {later out : List Token}
    (converts : convert pending (token :: later) = .ok (out, waiting)) :
    ∃ first between others, step pending token = .ok (first, between) ∧
      convert between later = .ok (others, waiting) ∧ out = first ++ others := by
  rw [convert] at converts
  split at converts
  · cases converts
  next first between moves =>
    obtain ⟨⟨others, left⟩, rest, same⟩ := map_eq_ok converts
    cases same
    exact ⟨first, between, others, moves, rest, rfl⟩

/-- A whole conversion: what goes out for the tokens, and then the operators that are left. -/
theorem ofInfix_ok {tokens ordered : List Token} (converts : ofInfix tokens = .ok ordered) :
    ∃ (out : List Token) (above : List Operator),
      convert [] tokens = .ok (out, above.map .operator) ∧ ordered = out ++ above.map .operator := by
  rw [ofInfix] at converts
  split at converts
  · cases converts
  next out waiting inside =>
    obtain ⟨last, finishes, rfl⟩ := map_eq_ok converts
    obtain ⟨above, rfl, rfl⟩ := finish_eq_ok_iff.mp finishes
    exact ⟨out, above, inside, rfl⟩

/-- A sequence is converted in two parts, the second on top of what waits after the first. -/
theorem convert_append (pending : List Pending) (first second : List Token) :
    convert pending (first ++ second) =
      match convert pending first with
      | .error error => .error error
      | .ok (out, waiting) =>
        (convert waiting second).map fun done => (out ++ done.1, done.2) := by
  induction first generalizing pending with
  | nil =>
    simp only [List.nil_append, convert]
    cases convert pending second <;> rfl
  | cons token later ih =>
    simp only [List.cons_append, convert]
    cases step pending token with
    | error error => rfl
    | ok moved =>
      obtain ⟨out, waiting⟩ := moved
      simp only [ih]
      cases convert waiting later with
      | error error => rfl
      | ok done =>
        simp only [Except.map]
        cases convert done.2 second <;> simp

theorem convert_append_ok {pending waiting : List Pending} {first second out : List Token}
    (converts : convert pending (first ++ second) = .ok (out, waiting)) :
    ∃ sent between others, convert pending first = .ok (sent, between) ∧
      convert between second = .ok (others, waiting) ∧ out = sent ++ others := by
  rw [convert_append] at converts
  split at converts
  · cases converts
  next sent between start =>
    obtain ⟨⟨others, left⟩, rest, same⟩ := map_eq_ok converts
    cases same
    exact ⟨sent, between, others, start, rest, rfl⟩

end Calculator.Postfix
