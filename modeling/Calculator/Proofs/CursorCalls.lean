import Calculator.Text.Cursor

/-!
# Calls on a cursor

Whatever is asked of a cursor, and however often, it stands at the end of a start of the source: this
start is what has been consumed, one character or one stretch at a time, and the rest is unread. The
position is that of the first unread character, although it is kept step by step and never counted
again. Looking at a character or at the position consumes nothing.

## Main statements

* `performAll_advance_takeWhile`: a stretch is read as its characters are, one by one.
* `longestStart_takeWhile`: a stretch is the longest one on which the predicate holds.
* `exists_reads`: what one call answers and consumes, and where it leaves the cursor.
* `exists_serves`: what a sequence of calls does.
* `calls_serve`: any calls on a whole source.
-/
namespace Calculator.Cursor

inductive Call where
  | peek
  | position
  | advance
  | takeWhile (holds : Char → Bool)
  | skipWhile (holds : Char → Bool)

inductive Answer where
  | char (char : Option Char)
  | position (position : Position)
  | stretch (text : List Char)
  | nothing

def perform (cursor : Cursor) : Call → Answer × Cursor
  | .peek => (.char cursor.peek, cursor)
  | .position => (.position cursor.position, cursor)
  | .advance => (.char cursor.advance.1, cursor.advance.2)
  | .takeWhile holds => (.stretch (cursor.takeWhile holds).1, (cursor.takeWhile holds).2)
  | .skipWhile holds => (.nothing, cursor.skipWhile holds)

/-- Performs calls one after another, and keeps what each of them is answered. -/
def performAll (cursor : Cursor) : List Call → List (Call × Answer) × Cursor
  | [] => ([], cursor)
  | call :: later =>
    let first := cursor.perform call
    let others := first.2.performAll later
    ((call, first.1) :: others.1, others.2)

/-- The longest start of a text on which a predicate holds. -/
structure LongestStart (holds : Char → Bool) (text start : List Char) : Prop where
  starts : start <+: text
  inside : ∀ char ∈ start, holds char = true
  longest : ∀ other, other <+: text → (∀ char ∈ other, holds char = true) → other <+: start

/-- What a call has to answer after `consumed`, and what it consumes of the unread text. -/
inductive Reads (consumed unread : List Char) : Call → Answer → List Char → Prop where
  | peek : Reads consumed unread .peek (.char unread.head?) []
  | position : Reads consumed unread .position (.position (.after consumed)) []
  | advance {char : Char} : unread.head? = some char →
    Reads consumed unread .advance (.char (some char)) [char]
  | ended : unread = [] → Reads consumed unread .advance (.char none) []
  | takeWhile {holds : Char → Bool} {stretch : List Char} : LongestStart holds unread stretch →
    Reads consumed unread (.takeWhile holds) (.stretch stretch) stretch
  | skipWhile {holds : Char → Bool} {stretch : List Char} : LongestStart holds unread stretch →
    Reads consumed unread (.skipWhile holds) .nothing stretch

/-- Calls with their answers, from one division of a source into consumed and unread text to
another: each call moves what it consumes from the unread text to the consumed one. -/
inductive Serves : (consumed unread : List Char) → List (Call × Answer) →
    (consumedAfter unreadAfter : List Char) → Prop where
  | done {consumed unread : List Char} : Serves consumed unread [] consumed unread
  | call {consumed used unread consumedAfter unreadAfter : List Char} {call : Call}
    {answer : Answer} {later : List (Call × Answer)} :
    Reads consumed (used ++ unread) call answer used →
      Serves (consumed ++ used) unread later consumedAfter unreadAfter →
      Serves consumed (used ++ unread) ((call, answer) :: later) consumedAfter unreadAfter

theorem performAll_calls (cursor : Cursor) (calls : List Call) :
    (cursor.performAll calls).1.map Prod.fst = calls := by
  induction calls generalizing cursor with
  | nil => rfl
  | cons call later ih => rw [performAll, List.map_cons, ih]

/-! ### Stretches -/

/-- A stretch is consumed by one call for each of its characters. -/
theorem performAll_advance (stretch rest : List Char) (position : Position) :
    performAll ⟨stretch ++ rest, position⟩ (stretch.map fun _ => .advance) =
      (stretch.map fun char => (.advance, .char (some char)),
        past ⟨stretch ++ rest, position⟩ stretch rest) := by
  induction stretch generalizing position with
  | nil => rfl
  | cons char stretch ih =>
    have steps : perform ⟨char :: stretch ++ rest, position⟩ .advance =
        (.char (some char), ⟨stretch ++ rest, position.advance char⟩) := rfl
    rw [List.map_cons, performAll, steps, ih]
    rfl

/-- Reading a stretch at once leaves the cursor where its characters one by one leave it. -/
theorem performAll_advance_takeWhile (cursor : Cursor) (holds : Char → Bool) :
    cursor.performAll ((cursor.takeWhile holds).1.map fun _ => .advance) =
      ((cursor.takeWhile holds).1.map fun char => (.advance, .char (some char)),
        (cursor.takeWhile holds).2) := by
  obtain ⟨unread, position⟩ := cursor
  have read := performAll_advance (unread.takeWhile holds) (unread.dropWhile holds) position
  rw [List.takeWhile_append_dropWhile] at read
  exact read

theorem longestStart_takeWhile (holds : Char → Bool) (text : List Char) :
    LongestStart holds text (text.takeWhile holds) where
  starts := List.takeWhile_prefix holds
  inside char member := List.all_eq_true.mp List.all_takeWhile char member
  longest other starts inside := by
    obtain ⟨rest, rfl⟩ := starts
    rw [List.takeWhile_append_of_pos inside]
    exact List.prefix_append other _

theorem past_after (consumed stretch rest : List Char) :
    past ⟨stretch ++ rest, .after consumed⟩ stretch rest = ⟨rest, .after (consumed ++ stretch)⟩ :=
  congrArg (Cursor.mk rest) (Position.advanceAll_after consumed stretch)

/-- What a predicate tells apart in the unread text: the stretch that is read, and the cursor right
behind it. -/
theorem exists_stretch (consumed unread : List Char) (holds : Char → Bool) :
    ∃ stretch rest, unread = stretch ++ rest ∧ LongestStart holds unread stretch ∧
      takeWhile ⟨unread, .after consumed⟩ holds =
        (stretch, ⟨rest, .after (consumed ++ stretch)⟩) := by
  refine ⟨unread.takeWhile holds, unread.dropWhile holds, List.takeWhile_append_dropWhile.symm,
    longestStart_takeWhile holds unread, ?_⟩
  rw [← past_after]
  rfl

/-! ### Calls -/

/-- One call consumes a start of the unread text and leaves the cursor right behind it. -/
theorem exists_reads (consumed unread : List Char) (call : Call) :
    ∃ used rest, unread = used ++ rest ∧
      Reads consumed unread call (perform ⟨unread, .after consumed⟩ call).1 used ∧
      (perform ⟨unread, .after consumed⟩ call).2 = ⟨rest, .after (consumed ++ used)⟩ := by
  cases call with
  -- looking at the text consumes nothing
  | peek => exact ⟨[], unread, rfl, .peek, by rw [List.append_nil]; rfl⟩
  | position => exact ⟨[], unread, rfl, .position, by rw [List.append_nil]; rfl⟩
  | advance =>
    cases unread with
    | nil => exact ⟨[], [], rfl, .ended rfl, by rw [List.append_nil]; rfl⟩
    | cons char rest =>
      refine ⟨[char], rest, rfl, .advance rfl, ?_⟩
      rw [Position.after_append_singleton]
      rfl
  | takeWhile holds =>
    obtain ⟨stretch, rest, split, longest, taken⟩ := exists_stretch consumed unread holds
    rw [perform, taken]
    exact ⟨stretch, rest, split, .takeWhile longest, rfl⟩
  | skipWhile holds =>
    obtain ⟨stretch, rest, split, longest, taken⟩ := exists_stretch consumed unread holds
    rw [perform, skipWhile, taken]
    exact ⟨stretch, rest, split, .skipWhile longest, rfl⟩

/-- Any calls are served one after another, from any place of the text. -/
theorem exists_serves (consumed unread : List Char) (calls : List Call) :
    ∃ consumedAfter unreadAfter,
      Serves consumed unread (performAll ⟨unread, .after consumed⟩ calls).1 consumedAfter
        unreadAfter ∧
      (performAll ⟨unread, .after consumed⟩ calls).2 = ⟨unreadAfter, .after consumedAfter⟩ := by
  induction calls generalizing consumed unread with
  | nil => exact ⟨consumed, unread, .done, rfl⟩
  | cons call later ih =>
    obtain ⟨used, rest, rfl, reads, moves⟩ := exists_reads consumed unread call
    obtain ⟨consumedAfter, unreadAfter, serves, ends⟩ := ih (consumed ++ used) rest
    rw [performAll, moves]
    exact ⟨consumedAfter, unreadAfter, .call reads serves, ends⟩

/-- Served calls lose nothing of the text and add nothing to it. -/
theorem Serves.append_eq {consumed unread consumedAfter unreadAfter : List Char}
    {history : List (Call × Answer)}
    (serves : Serves consumed unread history consumedAfter unreadAfter) :
    consumedAfter ++ unreadAfter = consumed ++ unread := by
  induction serves with
  | done => rfl
  | call _ _ ih => rw [ih, List.append_assoc]

/-- Any calls on a source: each is answered as it has to be and consumes what it should. In the end,
what has been consumed and the unread rest make up the source, the position is what is counted in the
consumed text, and the cursor stays where it is if it is only looked at. -/
theorem calls_serve (source : String) (calls : List Call) :
    ∃ (history : List (Call × Answer)) (consumed : List Char) (cursor : Cursor),
      (ofSource source).performAll calls = (history, cursor) ∧
      history.map Prod.fst = calls ∧
      Serves [] source.toList history consumed cursor.rest ∧
      consumed ++ cursor.rest = source.toList ∧
      cursor.position.byteOffset = (String.ofList consumed).utf8ByteSize ∧
      cursor.position.line = 1 + consumed.count '\n' ∧
      cursor.position.column = 1 + (consumed.reverse.takeWhile (· ≠ '\n')).length ∧
      cursor.perform .peek = (.char cursor.rest.head?, cursor) ∧
      cursor.perform .position = (.position cursor.position, cursor) := by
  obtain ⟨consumed, unread, serves, ends⟩ := exists_serves [] source.toList calls
  exact ⟨_, consumed, ⟨unread, .after consumed⟩, Prod.ext rfl ends,
    performAll_calls (ofSource source) calls, serves, serves.append_eq, rfl, rfl, rfl, rfl, rfl⟩

end Calculator.Cursor
