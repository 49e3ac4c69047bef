import Calculator.Error
import Calculator.Policy
import Calculator.Token.Layout

/-!
# Offences

What keeps a text from being scanned: a character that belongs to no token and is no blank and,
unless literals saturate, a literal above the largest value with all its digits. Each offence has a
place, and the error that it leads to tells the position of that place.
-/
namespace Calculator

def Legal (char : Char) : Prop :=
  char.isDigit = true ∨ char ∈ ['(', ')', '+', '-', '*', '/'] ∨ isBlank char = true

/-- The text `before` and what follows it are parted between two digits. -/
def SplitsLiteral (before rest : List Char) : Prop :=
  before.getLast?.any Char.isDigit = true ∧ rest.head?.any Char.isDigit = true

/-- An offence in a text, after the part `before` of it, and the error that it leads to. -/
inductive Offence (policy : OverflowPolicy) (text : List Char) :
    (before : List Char) → ScanError → Prop where
  | unknown {before rest : List Char} {char : Char} :
    text = before ++ char :: rest → ¬ Legal char →
      Offence policy text before (.unknownCharacter char (.after before))
  | tooLarge {before literal rest : List Char} :
    policy = .reject → text = before ++ literal ++ rest → Token.IsLiteral literal →
      ¬ SplitsLiteral before literal → ¬ SplitsLiteral literal rest →
      Value.largest.toInt < Decimal.value literal →
      Offence policy text before (.literalOverflow literal (.after before))

/-- The first of the offences in a text. -/
def FirstOffence (policy : OverflowPolicy) (text : List Char) (error : ScanError) : Prop :=
  ∃ before, Offence policy text before error ∧
    ∀ other otherError, Offence policy text other otherError → before.length ≤ other.length

end Calculator
