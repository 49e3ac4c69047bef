import Calculator.Text.Position

/-!
# Reading a text character by character

A cursor holds the unread rest of a text and the position of its first character. Characters are
read one at a time or as the longest stretch on which a predicate holds, and the position follows.

## Main statements

* `skipWhile_skipWhile`: skipping twice is skipping once.
-/
namespace Calculator

structure Cursor where
  rest : List Char
  position : Position
  deriving DecidableEq, Repr

namespace Cursor

def ofSource (source : String) : Cursor := ⟨source.toList, .start⟩

def peek (cursor : Cursor) : Option Char := cursor.rest.head?

def advance (cursor : Cursor) : Option Char × Cursor :=
  match cursor.rest with
  | [] => (none, cursor)
  | char :: rest => (some char, ⟨rest, cursor.position.advance char⟩)

/-- Moves past a stretch of text that the unread part begins with, leaving `rest`. -/
def past (cursor : Cursor) (stretch rest : List Char) : Cursor :=
  ⟨rest, cursor.position.advanceAll stretch⟩

/-- Reads the longest stretch of characters on which `holds` is true. -/
def takeWhile (cursor : Cursor) (holds : Char → Bool) : List Char × Cursor :=
  let stretch := cursor.rest.takeWhile holds
  (stretch, cursor.past stretch (cursor.rest.dropWhile holds))

def skipWhile (cursor : Cursor) (holds : Char → Bool) : Cursor :=
  (cursor.takeWhile holds).2

@[simp] theorem skipWhile_rest (cursor : Cursor) (holds : Char → Bool) :
    (cursor.skipWhile holds).rest = cursor.rest.dropWhile holds := rfl

theorem skipWhile_cons_of_pos {holds : Char → Bool} {char : Char} (skips : holds char = true)
    (rest : List Char) (position : Position) :
    skipWhile ⟨char :: rest, position⟩ holds = skipWhile ⟨rest, position.advance char⟩ holds := by
  simp [skipWhile, takeWhile, past, skips]

theorem skipWhile_cons_of_neg {holds : Char → Bool} {char : Char} (stops : holds char = false)
    (rest : List Char) (position : Position) :
    skipWhile ⟨char :: rest, position⟩ holds = ⟨char :: rest, position⟩ := by
  simp [skipWhile, takeWhile, past, stops]

/-- What has been skipped is not skipped again. -/
theorem skipWhile_skipWhile (cursor : Cursor) (holds : Char → Bool) :
    (cursor.skipWhile holds).skipWhile holds = cursor.skipWhile holds := by
  obtain ⟨rest, position⟩ := cursor
  induction rest generalizing position with
  | nil => rfl
  | cons char rest ih =>
    cases skips : holds char with
    | true => rw [skipWhile_cons_of_pos skips, ih]
    | false => rw [skipWhile_cons_of_neg skips, skipWhile_cons_of_neg skips]

end Cursor
end Calculator
