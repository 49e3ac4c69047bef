import Calculator.Text.Decimal
import Calculator.Token.Basic

/-!
# Texts of tokens

Tokens are written in two ways. The *spelling* is what an expression would hold: both minus signs
are spelled alike, and spellings joined by spaces scan again. The *display* is for people who
follow the steps of a run: each token stands in angle brackets, and the two minus signs differ.
-/
namespace Calculator.Token

def spelling : Token → List Char
  | .leftParen => ['(']
  | .rightParen => [')']
  | .operator op => [op.sign]
  | .number value => Decimal.numeral value.toInt

def sourceText (token : Token) : String := String.ofList token.spelling

/-- The token in angle brackets: a number by its numeral, any other token by its tag. -/
def displayChars : Token → List Char
  | .number value => '<' :: Decimal.numeral value.toInt ++ ['>']
  | token => ['<', token.symbol, '>']

def display (token : Token) : String := String.ofList token.displayChars

def displayAll (tokens : List Token) : String :=
  String.ofList ('{' :: List.intercalate [',', ' '] (tokens.map displayChars) ++ ['}'])

def render (tokens : List Token) : String :=
  String.ofList (List.intercalate [' '] (tokens.map spelling))

end Calculator.Token
