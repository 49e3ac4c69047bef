import Calculator.Operator
import Calculator.Value

/-!
# Tokens

The units of an expression: parentheses, operators and numbers. A freshly scanned sequence holds
the binary minus for every minus sign; minus resolution tells the unary ones apart.
-/
namespace Calculator

inductive Token where
  | leftParen
  | rightParen
  | operator (op : Operator)
  | number (value : Value)
  deriving DecidableEq, Repr

namespace Token

@[match_pattern] abbrev plus : Token := .operator (.binary .plus)
@[match_pattern] abbrev binaryMinus : Token := .operator (.binary .minus)
@[match_pattern] abbrev unaryMinus : Token := .operator .negate
@[match_pattern] abbrev times : Token := .operator (.binary .times)
@[match_pattern] abbrev divide : Token := .operator (.binary .divide)

def isOperator : Token → Bool
  | .operator _ => true
  | _ => false

def isParen : Token → Bool
  | .leftParen | .rightParen => true
  | _ => false

def isNumber : Token → Bool
  | .number _ => true
  | _ => false

/-- How tightly an operator binds; other tokens have no precedence. -/
def precedence? : Token → Option Nat
  | .operator op => some op.precedence
  | _ => none

def arity? : Token → Option Nat
  | .operator op => some op.arity
  | _ => none

/-- The one-character tag of a token; all numbers share the tag `n`. -/
def symbol : Token → Char
  | .leftParen => '('
  | .rightParen => ')'
  | .operator op => op.symbol
  | .number _ => 'n'

end Token
end Calculator
