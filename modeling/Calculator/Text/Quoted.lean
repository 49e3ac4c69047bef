import Calculator.Text.Printable

/-!
# Quoted characters and texts

Log lines show characters in single and texts in double quotes. Quotes of the kind that stands
around them, backslashes and what is not printable are escaped, so that a quoted text is one line.
-/
namespace Calculator.Quoted

def codeEscape (char : Char) : List Char :=
  ['\\', 'u', '{'] ++ Nat.toDigits 16 char.toNat ++ ['}']

/-- A character as it stands between two marks `mark`. -/
def escape (mark char : Char) : List Char :=
  if char = mark || char = '\\' then ['\\', char]
  else if char = '\n' then ['\\', 'n']
  else if char = '\r' then ['\\', 'r']
  else if char = '\t' then ['\\', 't']
  else if char.toNat = 0 then ['\\', '0']
  else if Printable.isPrintable char then [char]
  else codeEscape char

def char (char : Char) : String := String.ofList ('\x27' :: escape '\x27' char ++ ['\x27'])

def text (text : String) : String :=
  String.ofList ('"' :: text.toList.flatMap (escape '"') ++ ['"'])

end Calculator.Quoted
