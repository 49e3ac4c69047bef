import Calculator.Text.Blank

/-!
# JSON lexemes

A JSON text is split into brackets, separators, words, numbers and strings; blanks between them
are skipped. Values of numbers are of no interest here, only that they are well written. A string
may hold escapes of UTF-16 units that do not make up a character, and then it denotes no text.

## Main statements

* `lexeme?_shorter`: every lexeme uses up some of the text.
* `lexemes?_cons`: the lexemes of a text that starts with one.
-/
namespace Calculator.Json

inductive Lexeme where
  | openArray
  | closeArray
  | openObject
  | closeObject
  | comma
  | colon
  | null
  | bool (value : Bool)
  | number
  -- a string, with the text it denotes if it denotes one
  | string (content : Option String)
  deriving DecidableEq, Repr

/-! ### Strings -/

/-- What a string literal holds: a character, or an escaped UTF-16 unit. -/
inductive StringUnit where
  | char (char : Char)
  | escaped (code : Nat)
  deriving DecidableEq, Repr

def hexDigit? (char : Char) : Option Nat :=
  if char.isDigit then some (char.toNat - '0'.toNat)
  else if 'a' ≤ char ∧ char ≤ 'f' then some (char.toNat - 'a'.toNat + 10)
  else if 'A' ≤ char ∧ char ≤ 'F' then some (char.toNat - 'A'.toNat + 10)
  else none

def hexValue? (digits : List Char) : Option Nat :=
  digits.foldlM (fun value char => (hexDigit? char).map (16 * value + ·)) 0

def shortEscape? : Char → Option Char
  | '"' => some '"'
  | '\\' => some '\\'
  | '/' => some '/'
  | 'b' => some '\x08'
  | 'f' => some '\x0c'
  | 'n' => some '\n'
  | 'r' => some '\r'
  | 't' => some '\t'
  | _ => none

def stringUnits? : List Char → Option (List StringUnit × List Char)
  | [] => none
  | '"' :: later => some ([], later)
  | '\\' :: 'u' :: a :: b :: c :: d :: later => do
    let code ← hexValue? [a, b, c, d]
    let (units, rest) ← stringUnits? later
    return (.escaped code :: units, rest)
  | '\\' :: escape :: later => do
    let char ← shortEscape? escape
    let (units, rest) ← stringUnits? later
    return (.char char :: units, rest)
  | char :: later => do
    if char.toNat < 0x20 then none
    else
      let (units, rest) ← stringUnits? later
      return (.char char :: units, rest)

def isHigh (code : Nat) : Bool := 0xD800 ≤ code && code < 0xDC00

def isLow (code : Nat) : Bool := 0xDC00 ≤ code && code < 0xE000

/-- The text that a string literal denotes, if all its escaped pairs are complete. -/
def content? : List StringUnit → Option (List Char)
  | [] => some []
  | .char char :: later => (content? later).map (char :: ·)
  | .escaped code :: later =>
    if isHigh code then
      match later with
      | .escaped second :: rest =>
        if isLow second then
          let pair := 0x10000 + (code - 0xD800) * 0x400 + (second - 0xDC00)
          (content? rest).map (Char.ofNat pair :: ·)
        else none
      | _ => none
    else if isLow code then none
    else (content? later).map (Char.ofNat code :: ·)

/-! ### Numbers -/

def dropDigits? : List Char → Option (List Char)
  | [] => none
  | char :: later => if char.isDigit then some (later.dropWhile Char.isDigit) else none

/-- Skips the digits before the point, which do not start with a superfluous zero. -/
def dropInteger? : List Char → Option (List Char)
  | '0' :: later => some later
  | text => dropDigits? text

def dropFraction? : List Char → Option (List Char)
  | '.' :: later => dropDigits? later
  | text => some text

def dropSign : List Char → List Char
  | '+' :: later | '-' :: later => later
  | text => text

def dropExponent? : List Char → Option (List Char)
  | 'e' :: later | 'E' :: later => dropDigits? (dropSign later)
  | text => some text

def dropNumber? (text : List Char) : Option (List Char) :=
  (dropInteger? text).bind fun rest => (dropFraction? rest).bind dropExponent?

/-! ### Lexemes -/

/-- Reads the lexeme that starts with `char`; the result is the lexeme and the rest. -/
def lexeme? (char : Char) (later : List Char) : Option (Lexeme × List Char) :=
  match char, later with
  | '[', _ => some (.openArray, later)
  | ']', _ => some (.closeArray, later)
  | '{', _ => some (.openObject, later)
  | '}', _ => some (.closeObject, later)
  | ',', _ => some (.comma, later)
  | ':', _ => some (.colon, later)
  | 'n', 'u' :: 'l' :: 'l' :: rest => some (.null, rest)
  | 't', 'r' :: 'u' :: 'e' :: rest => some (.bool true, rest)
  | 'f', 'a' :: 'l' :: 's' :: 'e' :: rest => some (.bool false, rest)
  | '"', _ =>
    (stringUnits? later).map fun (units, rest) =>
      (.string ((content? units).map String.ofList), rest)
  | '-', _ => (dropNumber? later).map (.number, ·)
  | _, _ => (dropNumber? (char :: later)).map (.number, ·)

theorem stringUnits?_shorter {text rest : List Char} {units : List StringUnit}
    (read : stringUnits? text = some (units, rest)) : rest.length < text.length := by
  -- every case but the end of the string goes on with a part of its text
  fun_induction stringUnits? text generalizing units with
  | case1 => simp at read
  | case2 later =>
    cases read
    exact Nat.lt_succ_self _
  | case3 a b c d later ih =>
    simp only [Option.bind_eq_bind, Option.bind_eq_some_iff] at read
    obtain ⟨_, _, ⟨_, _⟩, inner, same⟩ := read
    cases same
    have shorter := ih inner
    simp only [List.length_cons] at shorter ⊢
    omega
  | case4 escape later _ ih =>
    simp only [Option.bind_eq_bind, Option.bind_eq_some_iff] at read
    obtain ⟨_, _, ⟨_, _⟩, inner, same⟩ := read
    cases same
    have shorter := ih inner
    simp only [List.length_cons] at shorter ⊢
    omega
  | case5 => simp at read
  | case6 char later _ _ _ _ ih =>
    simp only [Option.bind_eq_bind, Option.bind_eq_some_iff] at read
    obtain ⟨⟨_, _⟩, inner, same⟩ := read
    cases same
    have shorter := ih inner
    simp only [List.length_cons] at shorter ⊢
    omega

theorem dropDigits?_shorter {text rest : List Char} (read : dropDigits? text = some rest) :
    rest.length < text.length := by
  cases text with
  | nil => simp [dropDigits?] at read
  | cons char later =>
    simp only [dropDigits?] at read
    split at read
    · cases read
      exact Nat.lt_succ_of_le (List.dropWhile_sublist _).length_le
    · cases read

theorem dropInteger?_shorter {text rest : List Char} (read : dropInteger? text = some rest) :
    rest.length < text.length := by
  unfold dropInteger? at read
  split at read
  · cases read
    exact Nat.lt_succ_self _
  · exact dropDigits?_shorter read

theorem dropFraction?_shorter {text rest : List Char} (read : dropFraction? text = some rest) :
    rest.length ≤ text.length := by
  unfold dropFraction? at read
  split at read
  · exact Nat.le_succ_of_le (Nat.le_of_lt (dropDigits?_shorter read))
  · cases read
    exact Nat.le_refl _

theorem dropSign_shorter (text : List Char) : (dropSign text).length ≤ text.length := by
  unfold dropSign
  split <;> simp

theorem dropExponent?_shorter {text rest : List Char} (read : dropExponent? text = some rest) :
    rest.length ≤ text.length := by
  unfold dropExponent? at read
  split at read
  · exact Nat.le_succ_of_le
      (Nat.le_of_lt (Nat.lt_of_lt_of_le (dropDigits?_shorter read) (dropSign_shorter _)))
  · exact Nat.le_succ_of_le
      (Nat.le_of_lt (Nat.lt_of_lt_of_le (dropDigits?_shorter read) (dropSign_shorter _)))
  · cases read
    exact Nat.le_refl _

theorem dropNumber?_shorter {text rest : List Char} (read : dropNumber? text = some rest) :
    rest.length < text.length := by
  simp only [dropNumber?, Option.bind_eq_some_iff] at read
  obtain ⟨first, integer, second, fraction, exponent⟩ := read
  have shorter := dropInteger?_shorter integer
  have fraction_shorter := dropFraction?_shorter fraction
  have exponent_shorter := dropExponent?_shorter exponent
  omega

theorem lexeme?_shorter {char : Char} {later rest : List Char} {lexeme : Lexeme}
    (read : lexeme? char later = some (lexeme, rest)) : rest.length < (char :: later).length := by
  unfold lexeme? at read
  split at read
  case h_10 =>
    simp only [Option.map_eq_some_iff] at read
    obtain ⟨⟨units, tail⟩, inner, same⟩ := read
    cases same
    exact Nat.lt_succ_of_lt (stringUnits?_shorter inner)
  case h_11 =>
    simp only [Option.map_eq_some_iff] at read
    obtain ⟨tail, inner, same⟩ := read
    cases same
    exact Nat.lt_succ_of_lt (dropNumber?_shorter inner)
  case h_12 =>
    simp only [Option.map_eq_some_iff] at read
    obtain ⟨tail, inner, same⟩ := read
    cases same
    exact dropNumber?_shorter inner
  all_goals
    cases read
    simp only [List.length_cons]
    omega

/-- The lexemes of a JSON text, if it consists of lexemes. -/
def lexemes? : List Char → Option (List Lexeme)
  | [] => some []
  | char :: later =>
    if isBlank char then lexemes? later
    else
      match _read : lexeme? char later with
      | none => none
      | some (lexeme, rest) => (lexemes? rest).map (lexeme :: ·)
termination_by text => text.length
decreasing_by
  · exact Nat.lt_succ_self _
  · exact lexeme?_shorter _read

theorem lexemes?_cons {char : Char} {later rest : List Char} {lexeme : Lexeme}
    (visible : isBlank char = false) (read : lexeme? char later = some (lexeme, rest)) :
    lexemes? (char :: later) = (lexemes? rest).map (lexeme :: ·) := by
  rw [lexemes?, visible, if_neg Bool.false_ne_true]
  split
  next fails =>
    rw [read] at fails
    cases fails
  next found =>
    rw [read] at found
    cases found
    rfl

end Calculator.Json
