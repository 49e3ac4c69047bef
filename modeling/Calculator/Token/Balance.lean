import Calculator.Token.Basic

/-!
# Balanced parentheses

Parentheses are balanced if none is closed before it is opened and all are closed at the end,
whatever stands between them. This is said of tokens and, in the same words, of the characters of a
text.
-/
namespace Calculator

/-- The parentheses of a text are balanced. -/
structure BalancedText (text : List Char) : Prop where
  -- none is closed before it is opened
  ordered : ∀ before, before <+: text → before.count ')' ≤ before.count '('
  -- all are closed at the end
  closed : text.count ')' = text.count '('

namespace Token

/-- The parentheses of a sequence are balanced. -/
structure Balanced (tokens : List Token) : Prop where
  -- none is closed before it is opened
  ordered : ∀ before, before <+: tokens → before.count .rightParen ≤ before.count .leftParen
  -- all are closed at the end
  closed : tokens.count .rightParen = tokens.count .leftParen

end Token
end Calculator
