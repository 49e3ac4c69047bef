import Calculator.Proofs.Scanning

/-!
# Scanning call by call

A scanner may be asked for one token after another, and also for more after it has answered with an
error. Every call that does not answer for good uses up a part of the text, so there are not many of
them. From the first answer for good on, calls change neither the answer nor the place: blanks are
skipped before it, and an unknown character is left where it is.

Where literals saturate, a call goes to the same place as where they do not, since a literal that is
too large is read to its end in both cases.

## Main statements

* `next_of_final`: an answer for good is given again, and the scanner stays where it is.
* `scanAll_afterCalls`: tokens that were asked for one by one are the first of the whole scan.
* `next_saturating`: one call where literals saturate, beside one where they do not.
* `stepwise_calls`: what holds of all calls on a source.
-/
namespace Calculator

/-- The answers for good: the end of the text, and an unknown character. -/
inductive Final : Except ScanError (Option Token) → Prop where
  | finished : Final (.ok none)
  | unknown (char : Char) (position : Position) :
    Final (.error (.unknownCharacter char position))

/-- What is answered where literals saturate, instead of an answer where they do not. -/
def saturating : Except ScanError (Option Token) → Except ScanError (Option Token)
  | .error (.literalOverflow _ _) => .ok (some (.number Value.largest))
  | outcome => outcome

/-- The answers for good are those that leave the text as it is. -/
theorem Reading.final_iff (reading : Reading) :
    Final reading.result ↔ reading.consumes = false := by
  constructor
  · intro final
    cases reading with
    | finished => rfl
    | found | saturated => cases final
    | failed error =>
      cases error with
      | unknownCharacter => rfl
      | literalOverflow => cases final
  · intro stays
    cases reading with
    | finished => exact .finished
    | found | saturated => cases stays
    | failed error =>
      cases error with
      | unknownCharacter char position => exact .unknown char position
      | literalOverflow => cases stays

theorem Reading.consumes_ofLiteral (policy : OverflowPolicy) (literal : List Char)
    (start : Position) : (ofLiteral policy literal start).consumes = true := by
  rw [ofLiteral]
  cases Value.ofInt? (Decimal.value literal) with
  | some value => rfl
  | none => cases policy <;> rfl

/-- The policy makes a difference only to a literal that is too large. -/
theorem Reading.result_saturating (literal : List Char) (start : Position) :
    (ofLiteral .saturate literal start).result =
      saturating (ofLiteral .reject literal start).result := by
  rw [ofLiteral, ofLiteral]
  cases Value.ofInt? (Decimal.value literal) <;> rfl

namespace Scanner

/-- The scanner after some calls, whatever they answered. -/
def afterCalls (scanner : Scanner) : Nat → Scanner
  | 0 => scanner
  | count + 1 => (scanner.afterCalls count).next.2

/-- The answer of the call with this index, counted from zero. -/
def outcome (scanner : Scanner) (index : Nat) : Except ScanError (Option Token) :=
  (scanner.afterCalls index).next.1.result

/-- How the calls of a scanner hang together, with each other and with the scan of the whole text. -/
structure Stepwise (scanner : Scanner) : Prop where
  -- a token and a literal that is too large use up some of the text
  consumes : ∀ index, ¬ Final (scanner.outcome index) →
    (scanner.afterCalls (index + 1)).cursor.rest.length <
      (scanner.afterCalls index).cursor.rest.length
  -- an answer for good comes within one call more than there are characters
  ends : ∃ index ≤ scanner.cursor.rest.length, Final (scanner.outcome index)
  -- it is repeated, and the scanner stays where it is
  stays : ∀ index, Final (scanner.outcome index) → ∀ later, index ≤ later →
    scanner.outcome later = scanner.outcome index ∧
      scanner.afterCalls (later + 1) = scanner.afterCalls (index + 1)
  -- the text is scanned to the tokens that were answered, and to those of what is left
  whole : ∀ tokens : List Token,
    (∀ index token, tokens[index]? = some token → scanner.outcome index = .ok (some token)) →
      scanner.scanAll = (scanner.afterCalls tokens.length).scanAll.map (tokens ++ ·)

theorem afterCalls_next (scanner : Scanner) (count : Nat) :
    scanner.next.2.afterCalls count = scanner.afterCalls (count + 1) := by
  induction count with
  | zero => rfl
  | succ count ih => rw [afterCalls, ih, afterCalls.eq_2 scanner (count + 1)]

theorem outcome_next (scanner : Scanner) (index : Nat) :
    scanner.next.2.outcome index = scanner.outcome (index + 1) := by
  rw [outcome, afterCalls_next, outcome]

/-! ### One call -/

theorem next_of_peek_none {scanner : Scanner}
    (ended : (scanner.cursor.skipWhile isBlank).peek = none) :
    scanner.next = (.finished, ⟨scanner.cursor.skipWhile isBlank, scanner.overflow⟩) := by
  simp only [next, ended]

theorem next_of_peek_some {scanner : Scanner} {char : Char}
    (unread : (scanner.cursor.skipWhile isBlank).peek = some char) :
    scanner.next =
      ((readAt scanner.overflow (scanner.cursor.skipWhile isBlank) char).1,
        ⟨(readAt scanner.overflow (scanner.cursor.skipWhile isBlank) char).2,
          scanner.overflow⟩) := by
  simp only [next, unread]

/-! ### Answers for good -/

theorem readAt_of_final {overflow : OverflowPolicy} {cursor : Cursor} {char : Char}
    (final : Final (readAt overflow cursor char).1.result) :
    (readAt overflow cursor char).2 = cursor := by
  unfold readAt at final ⊢
  split
  next token sign =>
    simp only [sign] at final
    cases final
  next none =>
    split
    next digit =>
      simp only [none, if_pos digit, Reading.final_iff, Reading.consumes_ofLiteral] at final
      cases final
    · rfl

/-- After an answer for good the next call answers the same: all blanks are skipped, and nothing was
read. -/
theorem next_of_final {scanner : Scanner} (final : Final scanner.next.1.result) :
    scanner.next.2.next = scanner.next := by
  -- blanks are skipped, and nothing else is read
  have stays : scanner.next.2 = ⟨scanner.cursor.skipWhile isBlank, scanner.overflow⟩ := by
    cases unread : (scanner.cursor.skipWhile isBlank).peek with
    | none => rw [next_of_peek_none unread]
    | some char =>
      rw [next_of_peek_some unread] at final ⊢
      rw [readAt_of_final final]
  rw [stays]
  simp only [next, Cursor.skipWhile_skipWhile]

/-- Once a call has answered for good, all later ones answer the same. -/
theorem next_afterCalls {scanner : Scanner} {index : Nat} (final : Final (scanner.outcome index))
    (further : Nat) :
    (scanner.afterCalls (index + further)).next = (scanner.afterCalls index).next := by
  induction further with
  | zero => rfl
  | succ further ih => rw [← Nat.add_assoc, afterCalls, ih, next_of_final final]

theorem consumes_of_not_final {scanner : Scanner} (other : ¬ Final scanner.next.1.result) :
    scanner.next.1.consumes = true := by
  rwa [Reading.final_iff, Bool.not_eq_false] at other

/-- Some call answers for good, at the latest when each has used up one character. -/
theorem exists_final (scanner : Scanner) :
    ∃ index ≤ scanner.cursor.rest.length, Final (scanner.outcome index) := by
  by_cases final : Final (scanner.outcome 0)
  · exact ⟨0, Nat.zero_le _, final⟩
  · have shorter := next_rest_lt scanner (consumes_of_not_final final)
    obtain ⟨index, bound, found⟩ := exists_final scanner.next.2
    rw [outcome_next] at found
    exact ⟨index + 1, by omega, found⟩
termination_by scanner.cursor.rest.length

/-! ### Calls and the whole scan -/

theorem scanAll_of_result {scanner : Scanner} {token : Token}
    (found : scanner.next.1.result = .ok (some token)) :
    scanner.scanAll = scanner.next.2.scanAll.map (token :: ·) := by
  rw [scanAll_next]
  generalize scanner.next = step at found ⊢
  obtain ⟨reading, later⟩ := step
  cases reading with
  | finished | failed => cases found
  | found | saturated =>
    cases found
    rfl

/-- The scan of the whole text begins with the tokens that the calls have answered. -/
theorem scanAll_afterCalls {scanner : Scanner} {tokens : List Token}
    (answered : ∀ index token, tokens[index]? = some token →
      scanner.outcome index = .ok (some token)) :
    scanner.scanAll = (scanner.afterCalls tokens.length).scanAll.map (tokens ++ ·) := by
  induction tokens generalizing scanner with
  | nil =>
    change scanner.scanAll = scanner.scanAll.map id
    cases scanner.scanAll <;> rfl
  | cons token tokens ih =>
    -- the calls after the first one answer the rest of the tokens
    have later : ∀ index token, tokens[index]? = some token →
        scanner.next.2.outcome index = .ok (some token) := by
      intro index other found
      rw [outcome_next]
      exact answered (index + 1) other found
    have first : scanner.next.1.result = .ok (some token) := answered 0 token rfl
    rw [scanAll_of_result first, ih later, afterCalls_next, List.length_cons]
    cases scanAll (scanner.afterCalls (tokens.length + 1)) <;> rfl

/-- The calls of any scanner hang together, not only of one at the beginning of its text. -/
theorem stepwise (scanner : Scanner) : Stepwise scanner where
  consumes index other := next_rest_lt _ (consumes_of_not_final other)
  ends := scanner.exists_final
  stays index final later after := by
    obtain ⟨further, rfl⟩ := Nat.exists_eq_add_of_le after
    have same := next_afterCalls final further
    exact ⟨congrArg (·.1.result) same, congrArg Prod.snd same⟩
  whole _ := scanAll_afterCalls

/-! ### Calls where literals saturate -/

theorem readAt_saturating (cursor : Cursor) (char : Char) :
    (readAt .saturate cursor char).1.result = saturating (readAt .reject cursor char).1.result ∧
      (readAt .saturate cursor char).2 = (readAt .reject cursor char).2 := by
  unfold readAt
  split
  · exact ⟨rfl, rfl⟩
  · split
    · dsimp only
      exact ⟨Reading.result_saturating _ _, rfl⟩
    · exact ⟨rfl, rfl⟩

/-- Under both policies one call reads the same characters, and answers the same but for a literal
that is too large. -/
theorem next_saturating (cursor : Cursor) :
    (next ⟨cursor, .saturate⟩).1.result = saturating (next ⟨cursor, .reject⟩).1.result ∧
      ∃ later, (next ⟨cursor, .saturate⟩).2 = ⟨later, .saturate⟩ ∧
        (next ⟨cursor, .reject⟩).2 = ⟨later, .reject⟩ := by
  cases unread : (cursor.skipWhile isBlank).peek with
  | none =>
    rw [next_of_peek_none unread, next_of_peek_none unread]
    exact ⟨rfl, _, rfl, rfl⟩
  | some char =>
    obtain ⟨result, place⟩ := readAt_saturating (cursor.skipWhile isBlank) char
    rw [next_of_peek_some unread, next_of_peek_some unread]
    rw [place]
    exact ⟨result, _, rfl, rfl⟩

/-- Under both policies the scanner is at the same place after any number of calls. -/
theorem afterCalls_saturating (cursor : Cursor) (count : Nat) :
    ∃ later, afterCalls ⟨cursor, .saturate⟩ count = ⟨later, .saturate⟩ ∧
      afterCalls ⟨cursor, .reject⟩ count = ⟨later, .reject⟩ := by
  induction count with
  | zero => exact ⟨cursor, rfl, rfl⟩
  | succ count ih =>
    obtain ⟨here, saturates, rejects⟩ := ih
    rw [afterCalls, afterCalls, saturates, rejects]
    exact (next_saturating here).2

/-- However often a scanner is called on a source, each token and each literal that is too large
uses up some of the text, so the end or an unknown character is answered within one call more than
there are characters; from then on the answer is the same and the scanner stays where it is. The
tokens that are answered first are the first of the scan of the whole source, which goes on, or fails,
as the scan of what is left. Where literals saturate, the calls go to the same places and their
answers differ only for literals that are too large. -/
theorem stepwise_calls (source : String) (policy : OverflowPolicy) :
    Stepwise (ofSource source policy) ∧
    ∀ count,
      ((ofSource source .saturate).afterCalls count).cursor =
          ((ofSource source .reject).afterCalls count).cursor ∧
        (ofSource source .saturate).outcome count =
          saturating ((ofSource source .reject).outcome count) := by
  refine ⟨stepwise _, fun count => ?_⟩
  obtain ⟨later, saturates, rejects⟩ := afterCalls_saturating (.ofSource source) count
  rw [outcome, outcome, ofSource, ofSource, saturates, rejects]
  exact ⟨rfl, (next_saturating later).1⟩

end Scanner
end Calculator
