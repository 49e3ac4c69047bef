import Calculator.Text.Blank

/-!
# Echoing a line

A session repeats each input line with its blanks made visible: tab, carriage return and line feed
appear as escapes, and a space as a dot.

## Main statements

* `not_blank_of_mem_visibleChars`: no blank is left in the visible form of a text.
-/
namespace Calculator.Echo

def visibleChar (dot : List Char) (char : Char) : List Char :=
  if char = '\n' then ['\\', 'n']
  else if char = '\t' then ['\\', 't']
  else if char = '\r' then ['\\', 'r']
  else if char = ' ' then dot
  else [char]

def visibleChars (dot text : List Char) : List Char := text.flatMap (visibleChar dot)

/-- The visible form of a text, in which a dot or another text stands for a space. -/
def visible (text : String) (dot : String := ".") : String :=
  String.ofList (visibleChars dot.toList text.toList)

theorem not_blank_of_mem_visibleChar {dot : List Char} (clean : ∀ char ∈ dot, isBlank char = false)
    (char : Char) : ∀ shown ∈ visibleChar dot char, isBlank shown = false := by
  unfold visibleChar
  split
  · simp [isBlank]
  split
  · simp [isBlank]
  split
  · simp [isBlank]
  split
  · exact clean
  next noFeed noTab noReturn noSpace =>
    intro shown member
    rw [List.mem_singleton.mp member]
    simp [isBlank, noFeed, noTab, noReturn, noSpace]

theorem not_blank_of_mem_visibleChars {dot : List Char}
    (clean : ∀ char ∈ dot, isBlank char = false) {text : List Char} :
    ∀ shown ∈ visibleChars dot text, isBlank shown = false := by
  intro shown member
  obtain ⟨char, -, among⟩ := List.mem_flatMap.mp member
  exact not_blank_of_mem_visibleChar clean char shown among

def quote (text : String) : String := "\"" ++ text ++ "\""

end Calculator.Echo
