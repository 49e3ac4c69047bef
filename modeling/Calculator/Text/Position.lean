import Calculator.Text.Decimal

/-!
# Positions in a source text

A position is where the next unread character stands: its line and column, both counted from one,
and the number of UTF-8 bytes before it. Columns count characters, and only a line feed starts a
new line.

## Main statements

* `advanceAll_append`: moving past two texts in turn is moving past both at once.
* `advanceAll_start`: the position reached is determined by the text moved past: its line feeds, the
  characters since the last of them, and its bytes.
-/
namespace Calculator

structure Position where
  -- line, counted from one
  line : Nat
  -- column, counted from one in characters
  column : Nat
  -- number of UTF-8 bytes before the character
  byteOffset : Nat
  deriving DecidableEq, Repr

namespace Position

def start : Position := ⟨1, 1, 0⟩

def advance (position : Position) (char : Char) : Position :=
  if char = '\n' then
    ⟨position.line + 1, 1, position.byteOffset + char.utf8Size⟩
  else
    ⟨position.line, position.column + 1, position.byteOffset + char.utf8Size⟩

def advanceAll (position : Position) (text : List Char) : Position :=
  text.foldl advance position

@[simp] theorem advanceAll_nil (position : Position) : position.advanceAll [] = position := rfl

@[simp] theorem advanceAll_cons (position : Position) (char : Char) (text : List Char) :
    position.advanceAll (char :: text) = (position.advance char).advanceAll text := rfl

theorem advanceAll_append (position : Position) (first second : List Char) :
    position.advanceAll (first ++ second) = (position.advanceAll first).advanceAll second :=
  List.foldl_append

/-- The position after a whole text that begins at the start, by counting. -/
def after (text : List Char) : Position where
  line := 1 + text.count '\n'
  column := 1 + (text.reverse.takeWhile (· ≠ '\n')).length
  byteOffset := (String.ofList text).utf8ByteSize

theorem after_append_singleton (text : List Char) (char : Char) :
    after (text ++ [char]) = (after text).advance char := by
  have bytes : (String.ofList (text ++ [char])).utf8ByteSize =
      (String.ofList text).utf8ByteSize + char.utf8Size := by
    rw [String.ofList_append, String.utf8ByteSize_append, ← String.singleton_eq_ofList,
      String.utf8ByteSize_singleton]
  by_cases feed : char = '\n'
  · simp only [after, advance, bytes]
    simp [feed, Nat.add_assoc]
  · simp only [after, advance, bytes]
    simp [feed, Nat.add_comm]

theorem advanceAll_after (before text : List Char) :
    (after before).advanceAll text = after (before ++ text) := by
  induction text generalizing before with
  | nil => simp
  | cons char text ih =>
    rw [advanceAll_cons, ← after_append_singleton, ih, List.append_assoc]
    rfl

theorem advanceAll_start (text : List Char) : start.advanceAll text = after text :=
  advanceAll_after [] text

def label (position : Position) : String :=
  Decimal.ofNat position.line ++ ":" ++ Decimal.ofNat position.column

end Position
end Calculator
