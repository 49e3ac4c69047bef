import Calculator.Json.Lexer

/-!
# Reading JSON

The lexemes of a text are put together to a tree. What has been opened and not closed yet waits on
a stack, so that values may be nested to any depth.
-/
namespace Calculator.Json

/-- A JSON value. Numbers are not told apart, and a string without a text has an escaped UTF-16
unit that belongs to no character. -/
inductive Tree where
  | null
  | bool (value : Bool)
  | number
  | string (content : Option String)
  | array (items : List Tree)
  -- the members in the order of the text; names may repeat
  | object (members : List (Option String × Tree))
  deriving Inhabited, Repr

/-- What waits for the value that is being read. -/
inductive Frame where
  -- an array with the items read so far, the last one first
  | array (items : List Tree)
  -- an object with the members read so far, the last one first, and the name of the next
  | object (members : List (Option String × Tree)) (name : Option String)

inductive Expected where
  | value
  -- an item, or the end of an array without items
  | item
  -- a name; `orEnd` says that the object may end instead
  | name (members : List (Option String × Tree)) (orEnd : Bool)
  | colon
  -- a comma or the end of the innermost array or object
  | separator
  -- nothing: the value of the text is complete
  | nothing (value : Tree)

/-- The state of reading: what must come next, and what waits, the innermost first. -/
structure Reader where
  expected : Expected
  frames : List Frame

namespace Reader

def start : Reader := ⟨.value, []⟩

def complete (value : Tree) : List Frame → Reader
  | [] => ⟨.nothing value, []⟩
  | .array items :: below => ⟨.separator, .array (value :: items) :: below⟩
  | .object members name :: below => ⟨.separator, .object ((name, value) :: members) none :: below⟩

def takeValue (frames : List Frame) : Lexeme → Option Reader
  | .null => some (complete .null frames)
  | .bool value => some (complete (.bool value) frames)
  | .number => some (complete .number frames)
  | .string content => some (complete (.string content) frames)
  | .openArray => some ⟨.item, .array [] :: frames⟩
  | .openObject => some ⟨.name [] true, frames⟩
  | .closeArray | .closeObject | .comma | .colon => none

def take (reader : Reader) (lexeme : Lexeme) : Option Reader :=
  match reader.expected, reader.frames, lexeme with
  | .value, frames, lexeme => takeValue frames lexeme
  | .item, .array [] :: below, .closeArray => some (complete (.array []) below)
  | .item, frames, lexeme => takeValue frames lexeme
  | .name members _, frames, .string name => some ⟨.colon, .object members name :: frames⟩
  | .name members true, frames, .closeObject => some (complete (.object members.reverse) frames)
  | .name _ _, _, _ => none
  | .colon, frames, .colon => some ⟨.value, frames⟩
  | .colon, _, _ => none
  | .separator, .array items :: below, .comma => some ⟨.value, .array items :: below⟩
  | .separator, .array items :: below, .closeArray =>
    some (complete (.array items.reverse) below)
  | .separator, .object members _ :: below, .comma => some ⟨.name members false, below⟩
  | .separator, .object members _ :: below, .closeObject =>
    some (complete (.object members.reverse) below)
  | .separator, _, _ => none
  | .nothing _, _, _ => none

def result? (reader : Reader) : Option Tree :=
  match reader.expected with
  | .nothing value => some value
  | _ => none

end Reader

/-- The value of a JSON text, if it is one. -/
def read? (text : String) : Option Tree :=
  (lexemes? text.toList).bind fun lexemes => (lexemes.foldlM Reader.take .start).bind Reader.result?

end Calculator.Json
