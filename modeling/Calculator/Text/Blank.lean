/-!
# Blanks

The characters that stand between tokens of an expression, and between the parts of a JSON text,
without a meaning of their own.
-/
namespace Calculator

def isBlank (char : Char) : Bool :=
  char = ' ' || char = '\t' || char = '\r' || char = '\n'

end Calculator
