/-!
# Decimal numerals

Numbers are written in base ten without leading zeros and with a leading minus sign when negative.
A string of digits is read back as the number it denotes, leading zeros allowed.

## Main statements

* `value_digits`: reading the digits of a number gives the number back.
* `isDigit_of_mem_digits`: the digits of a number are ASCII digits.
-/
namespace Calculator.Decimal

def digits (n : Nat) : List Char := Nat.toDigits 10 n

/-- The number that a string of ASCII digits denotes. -/
def value (literal : List Char) : Nat := Nat.ofDigitChars 10 literal 0

/-- The numeral of an integer: its digits, after a minus sign when it is negative. -/
def numeral : Int → List Char
  | .ofNat n => digits n
  | .negSucc n => '-' :: digits (n + 1)

def ofNat (n : Nat) : String := String.ofList (digits n)

def ofInt (n : Int) : String := String.ofList (numeral n)

theorem value_digits (n : Nat) : value (digits n) = n :=
  Nat.ofDigitChars_toDigits (by decide) (by decide)

theorem isDigit_of_mem_digits {n : Nat} {char : Char} (member : char ∈ digits n) :
    char.isDigit = true :=
  Nat.isDigit_of_mem_toDigits (by decide) (by decide) member

end Calculator.Decimal
