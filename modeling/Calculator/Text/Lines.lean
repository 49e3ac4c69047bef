/-!
# Lines of a text

A line feed ends a line, and a carriage return right before it belongs to the line end. Text after
the last line feed is a line as well, but the empty text is none. Texts are split alike whether they
are made of characters or of bytes.

## Main statements

* `pieces_ne_nil`: a text has one piece more than it has line feeds, so at least one.
* `pieces_append_feed`: the pieces before and after a line feed are found independently.
* `pieces_flatMap`: lines that hold no line feed are found again when each is ended by one.
-/
namespace Calculator.Lines

/-- The parts of a text between its line feeds. -/
def pieces {α : Type} [DecidableEq α] (feed : α) : List α → List (List α)
  | [] => [[]]
  | unit :: later =>
    if unit = feed then
      [] :: pieces feed later
    else
      match pieces feed later with
      | [] => [[unit]]
      | first :: others => (unit :: first) :: others

def dropReturn (line : List Char) : List Char :=
  if line.getLast? = some '\r' then line.dropLast else line

/-- The lines that the pieces of a text make: all but the last were ended by a line feed. -/
def ofPieces : List (List Char) → List (List Char)
  | [] => []
  | [last] => if last = [] then [] else [last]
  | line :: others => dropReturn line :: ofPieces others

def ofText (text : List Char) : List (List Char) := ofPieces (pieces '\n' text)

theorem pieces_ne_nil {α : Type} [DecidableEq α] (feed : α) (text : List α) :
    pieces feed text ≠ [] := by
  cases text with
  | nil => simp [pieces]
  | cons unit later =>
    unfold pieces
    split
    · simp
    · split <;> simp

theorem not_mem_intercalate {α : Type} {feed : α} {separator : List α} {parts : List (List α)}
    (absent : feed ∉ separator) (absentParts : ∀ part ∈ parts, feed ∉ part) :
    feed ∉ List.intercalate separator parts := by
  induction parts with
  | nil => exact List.not_mem_nil
  | cons part later ih =>
    obtain ⟨first, others⟩ := List.forall_mem_cons.mp absentParts
    cases later with
    | nil => simpa using first
    | cons next rest =>
      rw [List.intercalate_cons_cons, List.mem_append, List.mem_append, not_or, not_or]
      exact ⟨⟨first, absent⟩, ih others⟩

/-- A text is cut at each feed, so that what is on both sides is cut apart. -/
theorem pieces_append_feed {α : Type} [DecidableEq α] (feed : α) (first second : List α) :
    pieces feed (first ++ feed :: second) = pieces feed first ++ pieces feed second := by
  induction first with
  | nil => simp [pieces]
  | cons unit later ih =>
    by_cases same : unit = feed
    · simp [pieces, same, ih]
    · cases parts : pieces feed later with
      | nil => exact absurd parts (pieces_ne_nil feed later)
      | cons line others => simp [pieces, same, ih, parts]

theorem pieces_of_not_mem {α : Type} [DecidableEq α] {feed : α} {text : List α}
    (absent : feed ∉ text) : pieces feed text = [text] := by
  induction text with
  | nil => rfl
  | cons unit later ih =>
    rw [List.mem_cons, not_or] at absent
    rw [pieces, if_neg (Ne.symm absent.1), ih absent.2]

theorem length_pieces {α : Type} [DecidableEq α] (feed : α) (text : List α) :
    (pieces feed text).length = text.count feed + 1 := by
  induction text with
  | nil => rfl
  | cons unit later ih =>
    by_cases same : unit = feed
    · simp [pieces, same, ih]
    · cases parts : pieces feed later with
      | nil => exact absurd parts (pieces_ne_nil feed later)
      | cons line others => simp_all [pieces]

theorem not_mem_of_mem_pieces {α : Type} [DecidableEq α] {feed : α} {text line : List α}
    (member : line ∈ pieces feed text) : feed ∉ line := by
  induction text generalizing line with
  | nil =>
    rw [List.mem_singleton.mp member]
    exact List.not_mem_nil
  | cons unit later ih =>
    unfold pieces at member
    split at member
    · rcases List.mem_cons.mp member with rfl | inner
      · exact List.not_mem_nil
      · exact ih inner
    next other =>
      split at member
      next parts => exact absurd parts (pieces_ne_nil feed later)
      next first others parts =>
        rw [parts] at ih
        rcases List.mem_cons.mp member with rfl | inner
        · simp [Ne.symm other, ih List.mem_cons_self]
        · exact ih (List.mem_cons_of_mem _ inner)

/-- Lines that are each ended by a feed are found again, with an empty piece after the last. -/
theorem pieces_flatMap {α : Type} [DecidableEq α] {feed : α} {lines : List (List α)}
    (absent : ∀ line ∈ lines, feed ∉ line) :
    pieces feed (lines.flatMap (· ++ [feed])) = lines ++ [[]] := by
  induction lines with
  | nil => rfl
  | cons line lines ih =>
    obtain ⟨first, others⟩ := List.forall_mem_cons.mp absent
    rw [List.flatMap_cons, List.append_assoc, List.singleton_append, pieces_append_feed,
      pieces_of_not_mem first, ih others]
    rfl

/-! ### The lines of a text -/

theorem ofPieces_append (first : List (List Char)) {second : List (List Char)}
    (present : second ≠ []) :
    ofPieces (first ++ second) = first.map dropReturn ++ ofPieces second := by
  induction first with
  | nil => rfl
  | cons line first ih =>
    obtain ⟨next, others, shape⟩ := List.exists_cons_of_ne_nil
      (List.append_ne_nil_of_right_ne_nil first present)
    rw [shape] at ih
    rw [List.cons_append, shape, ofPieces, ih]
    · rfl
    · exact List.cons_ne_nil _ _

/-- The lines on both sides of a line feed are found apart. -/
theorem ofText_append_feed (first second : List Char) :
    ofText (first ++ '\n' :: second) = (pieces '\n' first).map dropReturn ++ ofText second := by
  rw [ofText, pieces_append_feed, ofPieces_append _ (pieces_ne_nil _ _)]
  rfl

theorem dropReturn_prefix (line : List Char) : dropReturn line <+: line := by
  unfold dropReturn
  split
  · exact List.dropLast_prefix line
  · exact List.prefix_refl line

theorem exists_piece_of_mem {line : List Char} {parts : List (List Char)}
    (member : line ∈ ofPieces parts) : ∃ piece ∈ parts, line <+: piece := by
  induction parts with
  | nil => cases member
  | cons piece parts ih =>
    cases parts with
    | nil =>
      unfold ofPieces at member
      split at member
      · cases member
      · exact ⟨piece, List.mem_cons_self, List.mem_singleton.mp member ▸ List.prefix_refl _⟩
    | cons next others =>
      rcases List.mem_cons.mp member with rfl | later
      · exact ⟨piece, List.mem_cons_self, dropReturn_prefix piece⟩
      · obtain ⟨found, among, isStart⟩ := ih later
        exact ⟨found, List.mem_cons_of_mem _ among, isStart⟩

theorem not_mem_of_mem_ofText {text line : List Char} (member : line ∈ ofText text) :
    '\n' ∉ line := by
  obtain ⟨piece, among, isStart⟩ := exists_piece_of_mem member
  exact fun feed => not_mem_of_mem_pieces among (isStart.subset feed)

end Calculator.Lines
