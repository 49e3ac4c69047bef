import Calculator.Expression.Basic

/-!
# The grammar of infix expressions

A sum is a product, or a sum and a product with a plus or a minus sign between them; a product is a
factor, or a product and a factor with an operator of products between them. A factor is a primary,
or a minus sign before something. A primary is a number or a sum in parentheses.

What may stand after the minus sign of a factor is a parameter: only a primary, or another factor,
so that minus signs may be stacked. Every minus sign is the one token that the scanner reads.
-/
namespace Calculator.Expression

/-- The levels of the grammar, the loosest first. -/
inductive Level where
  | sum
  | product
  | factor
  | primary
  deriving DecidableEq, Repr

/-- The tokens of an infix expression at a level, and its tree. The operand of a unary minus is at
the level `negated`. -/
inductive Derives (negated : Level) : Level → List Token → Expression → Prop where
  | number (value : Value) : Derives negated .primary [.number value] (.literal value)
  | group {tokens : List Token} {tree : Expression} :
    Derives negated .sum tokens tree →
      Derives negated .primary (.leftParen :: tokens ++ [.rightParen]) tree
  | ofPrimary {tokens : List Token} {tree : Expression} :
    Derives negated .primary tokens tree → Derives negated .factor tokens tree
  | negate {tokens : List Token} {tree : Expression} :
    Derives negated negated tokens tree →
      Derives negated .factor (.binaryMinus :: tokens) (.negate tree)
  | ofFactor {tokens : List Token} {tree : Expression} :
    Derives negated .factor tokens tree → Derives negated .product tokens tree
  | product {op : BinaryOperator} {first second : List Token} {left right : Expression} :
    op = .times ∨ op = .divide →
      Derives negated .product first left → Derives negated .factor second right →
      Derives negated .product (first ++ .operator (.binary op) :: second) (.binary op left right)
  | ofProduct {tokens : List Token} {tree : Expression} :
    Derives negated .product tokens tree → Derives negated .sum tokens tree
  | sum {op : BinaryOperator} {first second : List Token} {left right : Expression} :
    op = .plus ∨ op = .minus →
      Derives negated .sum first left → Derives negated .product second right →
      Derives negated .sum (first ++ .operator (.binary op) :: second) (.binary op left right)

/-- The tokens of an infix expression in which no minus sign stands right after a unary one. -/
def Single (tokens : List Token) (tree : Expression) : Prop :=
  Derives .primary .sum tokens tree

/-- The tokens of an infix expression in which unary minus signs may be stacked. -/
def Stacked (tokens : List Token) (tree : Expression) : Prop :=
  Derives .factor .sum tokens tree

end Calculator.Expression
