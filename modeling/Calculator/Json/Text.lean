/-!
# Writing JSON

JSON texts are written on one line without blanks. Inside a string only the double quote, the
backslash and the control characters are escaped.
-/
namespace Calculator.Json

/-- The escape of a control character that has no short one: four hexadecimal digits. -/
def unicodeEscape (code : Nat) : List Char :=
  let digits := Nat.toDigits 16 code
  '\\' :: 'u' :: List.replicate (4 - digits.length) '0' ++ digits

def escapeChar (char : Char) : List Char :=
  if char = '"' then ['\\', '"']
  else if char = '\\' then ['\\', '\\']
  else if char = '\n' then ['\\', 'n']
  else if char = '\r' then ['\\', 'r']
  else if char = '\t' then ['\\', 't']
  else if char.toNat = 0x08 then ['\\', 'b']
  else if char.toNat = 0x0c then ['\\', 'f']
  else if char.toNat < 0x20 then unicodeEscape char.toNat
  else [char]

def string (text : String) : String :=
  String.ofList ('"' :: text.toList.flatMap escapeChar ++ ['"'])

/-- An object with the given names and values; the values are JSON texts. -/
def object (members : List (String × String)) : String :=
  "\x7b" ++ ",".intercalate (members.map fun entry => string entry.1 ++ ":" ++ entry.2) ++ "\x7d"

end Calculator.Json
