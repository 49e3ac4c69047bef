import Calculator.Error
import Calculator.Policy
import Calculator.Text.Blank
import Calculator.Text.Cursor
import Calculator.Token.Basic

/-!
# Scanning

A scanner reads a source text from left to right, one token at a time. Blanks separate tokens and
are otherwise skipped; a run of digits is one literal. Every minus sign is read as binary.

An unknown character stays unread, so asking again gives the same error; a literal that is too
large is read, whatever becomes of it.

## Main statements

* `next_rest_lt`: a step that reads a token or a literal leaves a shorter text, so that reading a
  whole text ends.
-/
namespace Calculator

def Token.ofSign? : Char → Option Token
  | '(' => some .leftParen
  | ')' => some .rightParen
  | '+' => some .plus
  | '-' => some .binaryMinus
  | '*' => some .times
  | '/' => some .divide
  | _ => none

inductive Reading where
  | finished
  | found (token : Token) (start : Position)
  -- a literal above the largest value, which stands for the largest value
  | saturated (literal : List Char) (start : Position)
  | failed (error : ScanError)
  deriving DecidableEq, Repr

namespace Reading

/-- The reading of a literal that denotes a value, or none that is small enough. -/
def ofValue? (policy : OverflowPolicy) (literal : List Char) (start : Position) :
    Option Value → Reading
  | some value => .found (.number value) start
  | none =>
    match policy with
    | .reject => .failed (.literalOverflow literal start)
    | .saturate => .saturated literal start

def ofLiteral (policy : OverflowPolicy) (literal : List Char) (start : Position) : Reading :=
  ofValue? policy literal start (Value.ofInt? (Decimal.value literal))

def result : Reading → Except ScanError (Option Token)
  | .finished => .ok none
  | .found token _ => .ok (some token)
  | .saturated _ _ => .ok (some (.number Value.largest))
  | .failed error => .error error

def consumes : Reading → Bool
  | .found _ _ | .saturated _ _ | .failed (.literalOverflow _ _) => true
  | .finished | .failed (.unknownCharacter _ _) => false

/-- The tokens of a sequence of readings, up to its end or to the first error. -/
def collect : List Reading → Except ScanError (List Token)
  | [] => .ok []
  | reading :: later =>
    match reading.result with
    | .error error => .error error
    | .ok none => .ok []
    | .ok (some token) => (collect later).map (token :: ·)

end Reading

structure Scanner where
  cursor : Cursor
  overflow : OverflowPolicy
  deriving DecidableEq, Repr

namespace Scanner

def ofSource (source : String) (overflow : OverflowPolicy := .reject) : Scanner :=
  ⟨.ofSource source, overflow⟩

/-- Reads on from `cursor`, whose next character is `char` and no blank. -/
def readAt (overflow : OverflowPolicy) (cursor : Cursor) (char : Char) : Reading × Cursor :=
  match Token.ofSign? char with
  | some token => (.found token cursor.position, cursor.advance.2)
  | none =>
    if char.isDigit then
      let step := cursor.takeWhile Char.isDigit
      (.ofLiteral overflow step.1 cursor.position, step.2)
    else
      (.failed (.unknownCharacter char cursor.position), cursor)

/-- Skips blanks and reads one token. -/
def next (scanner : Scanner) : Reading × Scanner :=
  let cursor := scanner.cursor.skipWhile isBlank
  match cursor.peek with
  | none => (.finished, { scanner with cursor })
  | some char =>
    let step := readAt scanner.overflow cursor char
    (step.1, { scanner with cursor := step.2 })

/-- A reading that consumes something leaves less of the text. The scan of the whole text ends for
this reason. -/
theorem readAt_rest_lt {overflow : OverflowPolicy} {cursor : Cursor} {char : Char}
    (unread : cursor.peek = some char)
    (consumes : (readAt overflow cursor char).1.consumes = true) :
    (readAt overflow cursor char).2.rest.length < cursor.rest.length := by
  obtain ⟨rest, position⟩ := cursor
  cases rest with
  | nil => simp [Cursor.peek] at unread
  | cons first rest =>
    obtain rfl : first = char := by simpa [Cursor.peek] using unread
    unfold readAt at consumes ⊢
    split
    · simp [Cursor.advance]
    · next none =>
      simp only [none] at consumes
      split
      · next digit =>
        have shorter := (List.dropWhile_sublist (p := Char.isDigit) (l := rest)).length_le
        simp only [Cursor.takeWhile, Cursor.past, List.dropWhile_cons, digit, if_true,
          List.length_cons]
        omega
      · next other => simp [other, Reading.consumes] at consumes

theorem next_rest_lt (scanner : Scanner) (consumes : scanner.next.1.consumes = true) :
    scanner.next.2.cursor.rest.length < scanner.cursor.rest.length := by
  have skipped := (List.dropWhile_sublist (p := isBlank) (l := scanner.cursor.rest)).length_le
  simp only [next] at consumes ⊢
  split
  · next finished => simp [finished, Reading.consumes] at consumes
  · next char unread =>
    simp only [unread] at consumes
    have shorter := readAt_rest_lt unread consumes
    simp only [Cursor.skipWhile_rest] at shorter ⊢
    omega

/-- All readings of the text that is left, up to its end or to the first error. -/
def readings (scanner : Scanner) : List Reading :=
  match _step : scanner.next with
  | (.found token start, later) => .found token start :: later.readings
  | (.saturated literal start, later) => .saturated literal start :: later.readings
  | (reading, _) => [reading]
termination_by scanner.cursor.rest.length
decreasing_by
  -- only readings that use up some of the text are followed by another
  all_goals
    have shorter := next_rest_lt scanner (by rw [_step]; rfl)
    rw [_step] at shorter
    exact shorter

/-- The tokens of the text that is left, or the first error. -/
def scanAll (scanner : Scanner) : Except ScanError (List Token) :=
  Reading.collect scanner.readings

end Scanner

def scan (source : String) (overflow : OverflowPolicy := .reject) :
    Except ScanError (List Token) :=
  (Scanner.ofSource source overflow).scanAll

end Calculator
