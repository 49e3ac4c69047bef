import Calculator.Policy
import Calculator.Text.Blank
import Calculator.Text.Decimal
import Calculator.Token.Basic

/-!
# Layouts

A text lays out a sequence of tokens if it spells them one after another, with any blanks before,
between and after them. Only two numbers in a row need a blank between them. A number is spelled by
any digits with its value, leading zeros allowed; where literals saturate, the largest value is also
spelled by every literal above it.
-/
namespace Calculator.Token

def AllBlank (text : List Char) : Prop := ∀ char ∈ text, isBlank char = true

instance (text : List Char) : Decidable (AllBlank text) :=
  decidable_of_iff (text.all isBlank = true) List.all_eq_true

/-- A literal: at least one digit, and digits only. -/
def IsLiteral (text : List Char) : Prop := text ≠ [] ∧ ∀ char ∈ text, char.isDigit = true

instance (text : List Char) : Decidable (IsLiteral text) :=
  decidable_of_iff (text ≠ [] ∧ text.all Char.isDigit = true) (and_congr Iff.rfl List.all_eq_true)

/-- The texts that spell a token. -/
inductive Spells (policy : OverflowPolicy) : List Char → Token → Prop where
  | leftParen : Spells policy ['('] .leftParen
  | rightParen : Spells policy [')'] .rightParen
  | operator (op : BinaryOperator) :
    Spells policy [(Operator.binary op).sign] (.operator (.binary op))
  | number {literal : List Char} {value : Value} :
    IsLiteral literal → Decimal.value literal = value.toInt →
      Spells policy literal (.number value)
  | saturated {literal : List Char} :
    IsLiteral literal → policy = .saturate → Value.largest.toInt < Decimal.value literal →
      Spells policy literal (.number Value.largest)

/-- A token that some text spells: no unary minus and no negative number. -/
def Scannable (token : Token) : Prop :=
  token ≠ .unaryMinus ∧ ∀ value, token = .number value → 0 ≤ value.toInt

instance (token : Token) : Decidable (Scannable token) :=
  match token with
  | .leftParen | .rightParen | .operator (.binary _) => .isTrue ⟨nofun, nofun⟩
  | .operator .negate => .isFalse fun scannable => scannable.1 rfl
  | .number value => decidable_of_iff (0 ≤ value.toInt)
    ⟨fun nonneg => ⟨nofun, fun _ same => Token.number.inj same ▸ nonneg⟩,
      fun scannable => scannable.2 value rfl⟩

def startsWithNumber (tokens : List Token) : Bool := tokens.head?.any isNumber

/-- The texts that lay out a sequence of tokens. -/
inductive Layout (policy : OverflowPolicy) : List Char → List Token → Prop where
  | blanks {text : List Char} : AllBlank text → Layout policy text []
  | token {blanks text rest : List Char} {token : Token} {later : List Token} :
    AllBlank blanks → Spells policy text token → Layout policy rest later →
      (token.isNumber = true → startsWithNumber later = true → rest.head?.any isBlank = true) →
      Layout policy (blanks ++ text ++ rest) (token :: later)

end Calculator.Token
