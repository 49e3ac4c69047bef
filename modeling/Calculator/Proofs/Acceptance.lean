import Calculator.Proofs.Scanning

/-!
# What the scanner accepts and refuses

A text is scanned to some tokens exactly if it lays them out, and it is refused exactly if it has an
offence. Each piece that a text may begin with decides the beginning of all its layouts, so a layout
is taken apart as the scanner reads it.

Blanks tell nothing but where a literal ends: taken out anywhere else, they leave the tokens as they
are.

## Main statements

* `scanAll_ok_iff`: from any position, the scanner accepts the layouts of its tokens.
* `layout_gap_iff`: blanks that do not part two literals may be put in or left out.
* `FirstOffence.unique`: a text has at most one first offence, and it leads to one error.
* `scan_ok_iff_layout`, `scan_error_iff_offence`: what is accepted, and the error of what is not.
-/
namespace Calculator

open Token (IsLiteral AllBlank Layout Spells)

variable {policy : OverflowPolicy}

/-! ### The scanner reads a layout -/

theorem spells_of_sign (policy : OverflowPolicy) {char : Char} {token : Token}
    (sign : Token.ofSign? char = some token) :
    Spells policy [char] token ∧ token.isNumber = false := by
  rcases sign_cases sign with ⟨rfl, rfl⟩ | ⟨rfl, rfl⟩ | ⟨op, rfl, rfl⟩
  · exact ⟨.leftParen, rfl⟩
  · exact ⟨.rightParen, rfl⟩
  · exact ⟨.operator op, rfl⟩

/-- A literal spells a number, unless it is too large and such literals are rejected. -/
theorem spells_or_tooLarge (policy : OverflowPolicy) {literal : List Char}
    (isLiteral : IsLiteral literal) :
    (∃ value, Spells policy literal (.number value)) ∨
      policy = .reject ∧ Value.largest.toInt < Decimal.value literal := by
  by_cases large : Value.largest.toInt < Decimal.value literal
  · cases policy with
    | reject => exact .inr ⟨rfl, large⟩
    | saturate => exact .inl ⟨_, .saturated isLiteral rfl large⟩
  · obtain ⟨value, denotes⟩ := Value.exists_toInt_of_le (Int.not_lt.mp large)
    exact .inl ⟨value, .number isLiteral denotes⟩

theorem startsWithDigit_literal {literal : List Char} (isLiteral : IsLiteral literal)
    (rest : List Char) : startsWithDigit (literal ++ rest) = true := by
  obtain ⟨first, digits, rfl⟩ := List.exists_cons_of_ne_nil isLiteral.1
  exact isLiteral.2 first List.mem_cons_self

/-- Of a layout that begins with a number, but not with a digit, the first character is a blank. -/
theorem blank_of_startsWithNumber {text : List Char} {tokens : List Token}
    (layout : Layout policy text tokens) (number : Token.startsWithNumber tokens = true)
    (ends : startsWithDigit text = false) : text.head?.any isBlank = true := by
  cases layout with
  | blanks => cases number
  | @token blanks spelled rest token later allBlank spells _ _ =>
    cases blanks with
    | cons char blanks => exact allBlank char List.mem_cons_self
    | nil =>
      cases spells with
      | leftParen | rightParen | operator => cases number
      | number isLiteral | saturated isLiteral =>
        -- without a blank, the number would begin with a digit right here
        exact absurd ends (by simp [startsWithDigit_literal isLiteral])

/-- What is scanned is a layout of its tokens, by induction on the pieces of the text. -/
theorem Scanner.layout_of_scanAll {text : List Char} {position : Position} {tokens : List Token}
    (scanned : scanAll ⟨⟨text, position⟩, policy⟩ = .ok tokens) : Layout policy text tokens := by
  induction text using text_induction generalizing position tokens with
  | nil =>
    rw [scanAll_nil] at scanned
    cases scanned
    exact .blanks allBlank_nil
  | blank char rest blank ih =>
    rw [scanAll_blank blank] at scanned
    exact layout_blank blank (ih scanned)
  | sign char rest token sign ih =>
    rw [scanAll_sign sign] at scanned
    obtain ⟨later, found, rfl⟩ := map_eq_ok scanned
    obtain ⟨spells, other⟩ := spells_of_sign policy sign
    exact layout_spells spells (ih found) (by simp [other])
  | literal literal rest isLiteral ends ih =>
    rcases spells_or_tooLarge policy isLiteral with ⟨value, spells⟩ | ⟨rfl, large⟩
    · rw [scanAll_spells spells fun _ => ends] at scanned
      obtain ⟨later, found, rfl⟩ := map_eq_ok scanned
      have layout := ih found
      -- all digits belong to the literal, so only a blank can part it from a number
      exact layout_spells spells layout fun _ number => blank_of_startsWithNumber layout number ends
    · rw [scanAll_tooLarge isLiteral ends large] at scanned
      cases scanned
  | unknown char rest illegal =>
    rw [scanAll_unknown illegal] at scanned
    cases scanned

/-- The texts that are scanned to a sequence are its layouts, from any position. -/
theorem Scanner.scanAll_ok_iff {text : List Char} {tokens : List Token} (position : Position) :
    scanAll ⟨⟨text, position⟩, policy⟩ = .ok tokens ↔ Layout policy text tokens :=
  ⟨layout_of_scanAll, fun layout => scanAll_of_layout layout position⟩

/-! ### Taking a layout apart -/

/-- Blanks at the beginning make no difference to what a text lays out. -/
theorem layout_blanks_iff {blanks rest : List Char} {tokens : List Token}
    (allBlank : AllBlank blanks) :
    Layout policy (blanks ++ rest) tokens ↔ Layout policy rest tokens := by
  rw [← Scanner.scanAll_ok_iff .start, Scanner.scanAll_blanks allBlank, Scanner.scanAll_ok_iff]

/-- A text that begins with the spelling of a token lays out this token first. -/
theorem layout_spells_iff {text rest : List Char} {token : Token} {tokens : List Token}
    (spells : Spells policy text token)
    (ends : token.isNumber = true → startsWithDigit rest = false) :
    Layout policy (text ++ rest) tokens ↔
      ∃ later, tokens = token :: later ∧ Layout policy rest later := by
  rw [← Scanner.scanAll_ok_iff .start, Scanner.scanAll_spells spells ends]
  constructor
  · intro scanned
    obtain ⟨later, found, rfl⟩ := map_eq_ok scanned
    exact ⟨later, rfl, Scanner.layout_of_scanAll found⟩
  · rintro ⟨later, rfl, layout⟩
    rw [Scanner.scanAll_of_layout layout]
    rfl

theorem not_layout_tooLarge {literal rest : List Char} {tokens : List Token}
    (isLiteral : IsLiteral literal) (ends : startsWithDigit rest = false)
    (large : Value.largest.toInt < Decimal.value literal) :
    ¬ Layout .reject (literal ++ rest) tokens := by
  rw [← Scanner.scanAll_ok_iff .start, Scanner.scanAll_tooLarge isLiteral ends large]
  exact nofun

theorem not_layout_unknown {char : Char} {rest : List Char} {tokens : List Token}
    (illegal : ¬ Legal char) : ¬ Layout policy (char :: rest) tokens := by
  rw [← Scanner.scanAll_ok_iff .start, Scanner.scanAll_unknown illegal]
  exact nofun

theorem splits_prepend {before rest : List Char} (front : List Char)
    (splits : SplitsLiteral before rest) : SplitsLiteral (front ++ before) rest := by
  obtain ⟨last, first⟩ := splits
  refine ⟨?_, first⟩
  cases found : before.getLast? with
  | none => simp [found] at last
  | some char => simpa [List.getLast?_append, found] using last

/-- No digit follows a literal that ends `before`, whether the blanks that come next are left out or
not. -/
theorem not_startsWithDigit_append {literal before after : List Char} (blanks : List Char)
    (allBlank : AllBlank blanks) (isLiteral : IsLiteral literal)
    (ends : startsWithDigit before = false) (whole : ¬ SplitsLiteral (literal ++ before) after) :
    startsWithDigit (before ++ (blanks ++ after)) = false := by
  cases before with
  | cons char before => exact ends
  | nil =>
    cases blanks with
    | cons char blanks => exact not_digit_of_blank (allBlank char List.mem_cons_self)
    | nil => rwa [List.append_nil, splitsLiteral_iff isLiteral, Bool.not_eq_true] at whole

/-- Blanks may be put in or taken out wherever no literal is split. The induction walks to the gap
along the pieces of the text. -/
theorem layout_gap_iff {before blanks after : List Char} {tokens : List Token}
    (allBlank : AllBlank blanks) (whole : ¬ SplitsLiteral before after) :
    Layout policy (before ++ (blanks ++ after)) tokens ↔
      Layout policy (before ++ after) tokens := by
  -- both texts begin with the pieces of `before`, up to the gap
  induction before using text_induction generalizing tokens with
  | nil => exact layout_blanks_iff allBlank
  | blank char rest blank ih =>
    have single : AllBlank [char] := by simpa [AllBlank] using blank
    have parts : ∀ text, Layout policy (char :: text) tokens ↔ Layout policy text tokens :=
      fun _ => layout_blanks_iff single
    rw [List.cons_append, List.cons_append, parts, parts]
    exact ih fun splits => whole (splits_prepend [char] splits)
  | sign char rest token sign ih =>
    obtain ⟨spells, other⟩ := spells_of_sign policy sign
    have parts : ∀ text, Layout policy (char :: text) tokens ↔
        ∃ later, tokens = token :: later ∧ Layout policy text later := by
      intro text
      exact layout_spells_iff spells (by simp [other])
    rw [List.cons_append, List.cons_append, parts, parts]
    simp only [ih fun splits => whole (splits_prepend [char] splits)]
  | literal literal rest isLiteral ends ih =>
    have apart := not_startsWithDigit_append blanks allBlank isLiteral ends whole
    have joined := not_startsWithDigit_append [] allBlank_nil isLiteral ends whole
    rw [List.nil_append] at joined
    rw [List.append_assoc, List.append_assoc]
    rcases spells_or_tooLarge policy isLiteral with ⟨value, spells⟩ | ⟨rfl, large⟩
    · rw [layout_spells_iff spells fun _ => apart, layout_spells_iff spells fun _ => joined]
      simp only [ih fun splits => whole (splits_prepend literal splits)]
    · exact iff_of_false (not_layout_tooLarge isLiteral apart large)
        (not_layout_tooLarge isLiteral joined large)
  | unknown char rest illegal =>
    exact iff_of_false (not_layout_unknown illegal) (not_layout_unknown illegal)

theorem Token.Spells.scannable {text : List Char} {token : Token}
    (spells : Spells policy text token) : token.Scannable := by
  cases spells with
  | leftParen | rightParen => decide
  | operator op => cases op <;> decide
  | number _ denotes =>
    refine ⟨by rintro ⟨⟩, ?_⟩
    rintro value ⟨⟩
    rw [← denotes]
    exact Int.natCast_nonneg _
  | saturated => decide

theorem Token.Layout.scannable {text : List Char} {tokens : List Token}
    (layout : Layout policy text tokens) : ∀ token ∈ tokens, token.Scannable := by
  induction layout with
  | blanks => exact fun _ member => by cases member
  | token _ spells _ _ ih =>
    intro token member
    rcases List.mem_cons.mp member with rfl | later
    · exact spells.scannable
    · exact ih token later

/-- A text is scanned to some tokens if and only if it lays them out. So no unary minus and no
negative number comes out, and blanks make a difference only between two digits. -/
theorem scan_ok_iff_layout (source : String) (policy : OverflowPolicy) (tokens : List Token) :
    (scan source policy = .ok tokens ↔ Layout policy source.toList tokens) ∧
    (scan source policy = .ok tokens → ∀ token ∈ tokens,
      token ≠ .unaryMinus ∧ ∀ value, token = .number value → 0 ≤ value.toInt) ∧
    (∀ before blanks after, source = String.ofList (before ++ blanks ++ after) → AllBlank blanks →
      ¬ SplitsLiteral before after →
      (scan source policy = .ok tokens ↔
        scan (String.ofList (before ++ after)) policy = .ok tokens)) := by
  have accepts : ∀ text : String, scan text policy = .ok tokens ↔
      Layout policy text.toList tokens := fun _ => Scanner.scanAll_ok_iff .start
  refine ⟨accepts source, fun scanned => ((accepts source).mp scanned).scannable, ?_⟩
  rintro before blanks after rfl allBlank whole
  rw [accepts, accepts, String.toList_ofList, String.toList_ofList, List.append_assoc]
  exact layout_gap_iff allBlank whole

theorem scan_across_blanks :
    ¬ SplitsLiteral ['1'] ['+', '0', '7'] ∧
      scan "1 \n+07" .reject = .ok [.number 1, .plus, .number 7] := by
  have whole : ¬ SplitsLiteral ['1'] ['+', '0', '7'] := fun splits => Bool.false_ne_true splits.2
  have layout : Layout .reject "1+07".toList [.number 1, .plus, .number 7] := by
    have one : Spells .reject ['1'] (.number 1) := .number (by decide) (by decide)
    have seven : Spells .reject ['0', '7'] (.number 7) := .number (by decide) (by decide)
    exact layout_spells one (layout_spells (.operator .plus) (layout_spells seven
      (.blanks allBlank_nil) (by decide)) (by decide)) (by decide)
  refine ⟨whole, ?_⟩
  have same := (scan_ok_iff_layout "1 \n+07" .reject [.number 1, .plus, .number 7]).2.2 ['1']
    [' ', '\n'] ['+', '0', '7'] rfl (by decide) whole
  exact same.mpr ((scan_ok_iff_layout "1+07" .reject _).1.mpr layout)

/-! ### The error of a text -/

/-- A literal begins with a digit, so no illegal character stands in its place. -/
theorem legal_of_literal {before literal rest others : List Char} {char : Char}
    (isLiteral : IsLiteral literal)
    (same : before ++ char :: others = before ++ literal ++ rest) : Legal char := by
  obtain ⟨digit, digits, rfl⟩ := List.exists_cons_of_ne_nil isLiteral.1
  rw [List.append_assoc] at same
  cases List.append_cancel_left same
  exact .inl (isLiteral.2 _ List.mem_cons_self)

theorem Offence.unique {text place : List Char} {first second : ScanError}
    (one : Offence policy text place first) (other : Offence policy text place second) :
    first = second := by
  cases one with
  | unknown split illegal =>
    cases other with
    | unknown same _ =>
      rw [split] at same
      cases List.append_cancel_left same
      rfl
    | tooLarge _ same isLiteral =>
      exact absurd (legal_of_literal isLiteral (split.symm.trans same)) illegal
  | tooLarge _ split isLiteral _ ends _ =>
    cases other with
    | unknown same illegal =>
      exact absurd (legal_of_literal isLiteral (same.symm.trans split)) illegal
    | tooLarge _ same isOther _ stops _ =>
      -- both literals are taken with all their digits
      rw [splitsLiteral_iff isLiteral, Bool.not_eq_true] at ends
      rw [splitsLiteral_iff isOther, Bool.not_eq_true] at stops
      rw [split, List.append_assoc, List.append_assoc] at same
      have taken := takeWhile_literal isLiteral ends
      rw [List.append_cancel_left same, takeWhile_literal isOther stops] at taken
      rw [taken]

theorem Offence.isPrefix {text place : List Char} {error : ScanError}
    (offence : Offence policy text place error) : place <+: text := by
  cases offence with
  | unknown split => exact ⟨_, split.symm⟩
  | tooLarge _ split => exact ⟨_, by rw [split, List.append_assoc]⟩

/-- A text has at most one first offence: two of them begin at the same place. -/
theorem FirstOffence.unique {text : List Char} {first second : ScanError}
    (one : FirstOffence policy text first) (other : FirstOffence policy text second) :
    first = second := by
  obtain ⟨here, offence, isFirst⟩ := one
  obtain ⟨there, otherOffence, otherFirst⟩ := other
  have bound := isFirst there second otherOffence
  have otherBound := otherFirst here first offence
  have shorter := List.prefix_of_prefix_length_le offence.isPrefix otherOffence.isPrefix bound
  obtain rfl := shorter.eq_of_length_le otherBound
  exact offence.unique otherOffence

/-- Scanning fails if and only if the text has an offence, and the error is that of the offence that
begins first, at the position that the text before it leads to. -/
theorem scan_error_iff_offence (source : String) (policy : OverflowPolicy) :
    ((∃ error, scan source policy = .error error) ↔
      ∃ place error, Offence policy source.toList place error) ∧
    ∀ error, scan source policy = .error error ↔ FirstOffence policy source.toList error := by
  -- one offence is enough: a text that scans has none
  have decides : ∀ place error, Offence policy source.toList place error →
      ∃ error, scan source policy = .error error := by
    intro place error offence
    cases scanned : scan source policy with
    | error found => exact ⟨found, rfl⟩
    | ok tokens => exact absurd offence (no_offence_of_ok scanned place error)
  refine ⟨⟨?_, ?_⟩, fun error => ⟨firstOffence_of_error, ?_⟩⟩
  · rintro ⟨error, failed⟩
    obtain ⟨place, offence, -⟩ := firstOffence_of_error failed
    exact ⟨place, error, offence⟩
  · rintro ⟨place, error, offence⟩
    exact decides place error offence
  · intro first
    obtain ⟨place, offence, -⟩ := id first
    obtain ⟨found, failed⟩ := decides place error offence
    rw [failed, (firstOffence_of_error failed).unique first]

end Calculator
