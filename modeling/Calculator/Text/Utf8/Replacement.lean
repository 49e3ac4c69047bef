import Calculator.Text.Utf8.Lemmas

/-!
# Replacement characters

Decoding gives a character that is no replacement only for bytes that encode it: continuation bytes
in the ranges that their lead byte allows make a character of just that length. So what decoding
gives before its first replacement character is encoded in the bytes as they are, and bytes that
are the encoding of no text leave a replacement character in theirs.

## Main statements

* `encodeChar_of_completes`: a lead byte and the bytes that complete it encode their character.
* `eq_encode_append_of_decode`: what is decoded without a replacement stands in the bytes.
* `IllEncoded.replacement_mem`: the text of ill-encoded bytes has a replacement character.
-/
namespace Calculator.Utf8

/-- The bytes are the encoding of no text. -/
def IllEncoded (bytes : List UInt8) : Prop := ∀ text, encode text ≠ bytes

/-- The bytes that complete a character, and its code point. -/
inductive Completes : Partial → List UInt8 → Nat → Prop where
  | last {code : Nat} {low high byte : UInt8} : low ≤ byte → byte ≤ high →
    Completes ⟨code, 1, low, high⟩ [byte] (code * 64 + (byte.toNat - 0x80))
  | next {code owed total : Nat} {low high byte : UInt8} {later : List UInt8} :
    low ≤ byte → byte ≤ high →
    Completes ⟨code * 64 + (byte.toNat - 0x80), owed + 1, 0x80, 0xBF⟩ later total →
      Completes ⟨code, owed + 2, low, high⟩ (byte :: later) total

/-! ### The encoding of a code point -/

/-- The encoding of a code point by its number, with the four lengths as they are written there. -/
theorem encodeChar_ofNat {code : Nat} (valid : code.isValidChar) :
    String.utf8EncodeChar (Char.ofNat code) =
      if code ≤ 0x7F then [UInt8.ofNat code]
      else if code ≤ 0x7FF then
        [UInt8.ofNat (code / 64 % 32 + 192), UInt8.ofNat (code % 64 + 128)]
      else if code ≤ 0xFFFF then
        [UInt8.ofNat (code / 4096 % 16 + 224), UInt8.ofNat (code / 64 % 64 + 128),
          UInt8.ofNat (code % 64 + 128)]
      else
        [UInt8.ofNat (code / 262144 % 8 + 240), UInt8.ofNat (code / 4096 % 64 + 128),
          UInt8.ofNat (code / 64 % 64 + 128), UInt8.ofNat (code % 64 + 128)] := by
  have same : (Char.ofNat code).val.toNat = code := by
    rw [Char.ofNat, dif_pos valid]
    rfl
  unfold String.utf8EncodeChar
  rw [same]

theorem ofNat_eq {n : Nat} (byte : UInt8) (same : n = byte.toNat) : UInt8.ofNat n = byte := by
  rw [same, UInt8.ofNat_toNat]

/-- A lead byte and a continuation byte encode the character that they make. -/
theorem encodeChar_two {first second : UInt8} (lead : 0xC2 ≤ first.toNat ∧ first.toNat ≤ 0xDF)
    (last : 0x80 ≤ second.toNat ∧ second.toNat ≤ 0xBF) :
    String.utf8EncodeChar (Char.ofNat ((first.toNat - 0xC0) * 64 + (second.toNat - 0x80))) =
      [first, second] := by
  rw [encodeChar_ofNat (.inl (by omega)), if_neg (by omega), if_pos (by omega),
    ofNat_eq first (by omega), ofNat_eq second (by omega)]

/-- Three bytes encode the character that they make, if two would not do for it and it is no
surrogate. -/
theorem encodeChar_three {first second third : UInt8}
    (lead : 0xE0 ≤ first.toNat ∧ first.toNat ≤ 0xEF)
    (next : 0x80 ≤ second.toNat ∧ second.toNat ≤ 0xBF)
    (last : 0x80 ≤ third.toNat ∧ third.toNat ≤ 0xBF)
    (notShort : first.toNat = 0xE0 → 0xA0 ≤ second.toNat)
    (noSurrogate : first.toNat = 0xED → second.toNat ≤ 0x9F) :
    String.utf8EncodeChar (Char.ofNat (((first.toNat - 0xE0) * 64 + (second.toNat - 0x80)) * 64 +
      (third.toNat - 0x80))) = [first, second, third] := by
  have valid : Nat.isValidChar (((first.toNat - 0xE0) * 64 + (second.toNat - 0x80)) * 64 +
      (third.toNat - 0x80)) := by
    simp only [Nat.isValidChar]
    omega
  rw [encodeChar_ofNat valid, if_neg (by omega), if_neg (by omega), if_pos (by omega),
    ofNat_eq first (by omega), ofNat_eq second (by omega), ofNat_eq third (by omega)]

/-- Four bytes encode the character that they make, if three would not do for it and it lies within
the code points. -/
theorem encodeChar_four {first second third fourth : UInt8}
    (lead : 0xF0 ≤ first.toNat ∧ first.toNat ≤ 0xF4)
    (next : 0x80 ≤ second.toNat ∧ second.toNat ≤ 0xBF)
    (further : 0x80 ≤ third.toNat ∧ third.toNat ≤ 0xBF)
    (last : 0x80 ≤ fourth.toNat ∧ fourth.toNat ≤ 0xBF)
    (notShort : first.toNat = 0xF0 → 0x90 ≤ second.toNat)
    (inRange : first.toNat = 0xF4 → second.toNat ≤ 0x8F) :
    String.utf8EncodeChar (Char.ofNat ((((first.toNat - 0xF0) * 64 + (second.toNat - 0x80)) * 64 +
      (third.toNat - 0x80)) * 64 + (fourth.toNat - 0x80))) = [first, second, third, fourth] := by
  have valid : Nat.isValidChar ((((first.toNat - 0xF0) * 64 + (second.toNat - 0x80)) * 64 +
      (third.toNat - 0x80)) * 64 + (fourth.toNat - 0x80)) := by
    simp only [Nat.isValidChar]
    omega
  rw [encodeChar_ofNat valid, if_neg (by omega), if_neg (by omega), if_neg (by omega),
    ofNat_eq first (by omega), ofNat_eq second (by omega), ofNat_eq third (by omega),
    ofNat_eq fourth (by omega)]

/-! ### Characters of several bytes -/

/-- A lead byte allows for the next byte only what goes on to a character of its length. -/
inductive Leads (byte : UInt8) : Partial → Prop where
  | two : 0xC2 ≤ byte.toNat ∧ byte.toNat ≤ 0xDF → Leads byte ⟨byte.toNat - 0xC0, 1, 0x80, 0xBF⟩
  | three {low high : UInt8} : 0xE0 ≤ byte.toNat ∧ byte.toNat ≤ 0xEF →
    0x80 ≤ low.toNat ∧ high.toNat ≤ 0xBF → (byte.toNat = 0xE0 → 0xA0 ≤ low.toNat) →
    (byte.toNat = 0xED → high.toNat ≤ 0x9F) → Leads byte ⟨byte.toNat - 0xE0, 2, low, high⟩
  | four {low high : UInt8} : 0xF0 ≤ byte.toNat ∧ byte.toNat ≤ 0xF4 →
    0x80 ≤ low.toNat ∧ high.toNat ≤ 0xBF → (byte.toNat = 0xF0 → 0x90 ≤ low.toNat) →
    (byte.toNat = 0xF4 → high.toNat ≤ 0x8F) → Leads byte ⟨byte.toNat - 0xF0, 3, low, high⟩

/-- What the decoder keeps of a lead byte are its bits, and the range of the next byte. -/
theorem leads_of_lead? {byte : UInt8} {incomplete : Partial}
    (found : lead? byte = some incomplete) : Leads byte incomplete := by
  have ranges := lead?_ofNat byte.toNat_lt
  rw [UInt8.ofNat_toNat, found] at ranges
  -- one case for each row of the table, in its order
  split at ranges
  next range =>
    rw [Option.some.inj ranges]
    exact .two range
  split at ranges
  next short =>
    have leads : Leads byte ⟨byte.toNat - 0xE0, 2, 0xA0, 0xBF⟩ :=
      .three (by omega) (by decide) (fun _ => by decide) (by omega)
    rw [short] at leads
    rwa [Option.some.inj ranges]
  split at ranges
  next surrogate =>
    have leads : Leads byte ⟨byte.toNat - 0xE0, 2, 0x80, 0x9F⟩ :=
      .three (by omega) (by decide) (by omega) (fun _ => by decide)
    rw [surrogate] at leads
    rwa [Option.some.inj ranges]
  split at ranges
  next range =>
    rw [Option.some.inj ranges]
    exact .three (by omega) (by decide) (by omega) (by omega)
  split at ranges
  next short =>
    have leads : Leads byte ⟨byte.toNat - 0xF0, 3, 0x90, 0xBF⟩ :=
      .four (by omega) (by decide) (fun _ => by decide) (by omega)
    rw [short] at leads
    rwa [Option.some.inj ranges]
  split at ranges
  next range =>
    rw [Option.some.inj ranges]
    exact .four (by omega) (by decide) (by omega) (by omega)
  split at ranges
  next last =>
    have leads : Leads byte ⟨byte.toNat - 0xF0, 3, 0x80, 0x8F⟩ :=
      .four (by omega) (by decide) (by omega) (fun _ => by decide)
    rw [last] at leads
    rwa [Option.some.inj ranges]
  · cases ranges

theorem Leads.owed {byte : UInt8} {incomplete : Partial} (leads : Leads byte incomplete) :
    ∃ owed, incomplete.owed = owed + 1 := by
  cases leads with
  | two | three | four => exact ⟨_, rfl⟩

theorem Completes.of_last {code total : Nat} {low high : UInt8} {bytes : List UInt8}
    (completes : Completes ⟨code, 1, low, high⟩ bytes total) :
    ∃ byte : UInt8, (low.toNat ≤ byte.toNat ∧ byte.toNat ≤ high.toNat) ∧ bytes = [byte] ∧
      total = code * 64 + (byte.toNat - 0x80) := by
  cases completes with
  | last above below => exact ⟨_, ⟨above, below⟩, rfl, rfl⟩

/-- The first of several bytes that complete a character adds six bits to it. -/
theorem Completes.of_next {code owed total : Nat} {low high : UInt8} {bytes : List UInt8}
    (completes : Completes ⟨code, owed + 2, low, high⟩ bytes total) :
    ∃ (byte : UInt8) (later : List UInt8), (low.toNat ≤ byte.toNat ∧ byte.toNat ≤ high.toNat) ∧
      bytes = byte :: later ∧
      Completes ⟨code * 64 + (byte.toNat - 0x80), owed + 1, 0x80, 0xBF⟩ later total := by
  cases completes with
  | next above below rest => exact ⟨_, _, ⟨above, below⟩, rfl, rest⟩

/-- The bytes of which a character is made are its encoding. -/
theorem encodeChar_of_completes {byte : UInt8} {incomplete : Partial} {bytes : List UInt8}
    {total : Nat} (leads : Leads byte incomplete) (completes : Completes incomplete bytes total) :
    String.utf8EncodeChar (Char.ofNat total) = byte :: bytes := by
  cases leads with
  | two range =>
    obtain ⟨second, last, rfl, whole⟩ := completes.of_last
    rw [whole]
    exact encodeChar_two range last
  | three range bounds notShort noSurrogate =>
    obtain ⟨second, _, next, rfl, rest⟩ := completes.of_next
    obtain ⟨third, last, rfl, whole⟩ := rest.of_last
    rw [whole]
    exact encodeChar_three range (by omega) last (by omega) (by omega)
  | four range bounds notShort inRange =>
    obtain ⟨second, _, next, rfl, rest⟩ := completes.of_next
    obtain ⟨third, _, further, rfl, others⟩ := rest.of_next
    obtain ⟨fourth, last, rfl, whole⟩ := others.of_last
    rw [whole]
    exact encodeChar_four range (by omega) further last (by omega) (by omega)

/-! ### What is decoded without a replacement -/

/-- A character that has begun is given up, or completed by the bytes that follow. -/
theorem decodeAfter_cases (code owed : Nat) (low high : UInt8) (bytes : List UInt8) :
    (∃ rest, decodeAfter (some ⟨code, owed + 1, low, high⟩) bytes = replacement :: rest) ∨
    ∃ front later total, bytes = front ++ later ∧
      Completes ⟨code, owed + 1, low, high⟩ front total ∧
      decodeAfter (some ⟨code, owed + 1, low, high⟩) bytes = Char.ofNat total :: decode later := by
  induction bytes generalizing code owed low high with
  | nil => exact .inl ⟨[], rfl⟩
  | cons byte bytes ih =>
    -- a byte out of range ends the character with a replacement, whatever comes later
    by_cases fits : low ≤ byte ∧ byte ≤ high
    · cases owed with
      | zero =>
        have ends : decodeAfter (some ⟨code, 0 + 1, low, high⟩) (byte :: bytes) =
            Char.ofNat (code * 64 + (byte.toNat - 0x80)) :: decode bytes := by
          simp [decodeAfter, step, fits, decode]
        exact .inr ⟨[byte], bytes, _, rfl, .last fits.1 fits.2, ends⟩
      | succ owed =>
        have goesOn : decodeAfter (some ⟨code, owed + 2, low, high⟩) (byte :: bytes) =
            decodeAfter (some ⟨code * 64 + (byte.toNat - 0x80), owed + 1, 0x80, 0xBF⟩) bytes := by
          simp [decodeAfter, step, fits]
        rw [goesOn]
        refine (ih (code * 64 + (byte.toNat - 0x80)) owed 0x80 0xBF).imp_right ?_
        rintro ⟨front, later, total, rfl, completes, decodes⟩
        exact ⟨byte :: front, later, total, rfl, .next fits.1 fits.2 completes, decodes⟩
    · exact .inl ⟨_, by simp only [decodeAfter, step, if_neg fits]; rfl⟩

/-- The first character of some bytes is a replacement, or they begin with its encoding. -/
theorem decode_cons_cases (byte : UInt8) (bytes : List UInt8) :
    (∃ rest, decode (byte :: bytes) = replacement :: rest) ∨
    ∃ char later, byte :: bytes = String.utf8EncodeChar char ++ later ∧
      decode (byte :: bytes) = char :: decode later := by
  rw [decode, decodeAfter, step, begin]
  split
  next ascii =>
    have small : byte.toNat < 0x80 := ascii
    refine .inr ⟨Char.ofNat byte.toNat, bytes, ?_, rfl⟩
    rw [encodeChar_ofNat (.inl (by omega)), if_pos (by omega), UInt8.ofNat_toNat]
    rfl
  split
  -- a lead byte: the character is completed by the bytes after it, or replaced
  next incomplete found =>
    have leads := leads_of_lead? found
    obtain ⟨owed, follows⟩ := leads.owed
    obtain ⟨code, _, low, high⟩ := incomplete
    subst follows
    refine (decodeAfter_cases code owed low high bytes).imp_right ?_
    rintro ⟨front, later, total, rfl, completes, decodes⟩
    exact ⟨_, later, by rw [encodeChar_of_completes leads completes]; rfl, decodes⟩
  · exact .inl ⟨_, rfl⟩

theorem decode_eq_nil {bytes : List UInt8} (nothing : decode bytes = []) : bytes = [] := by
  cases bytes with
  | nil => rfl
  | cons byte bytes =>
    rcases decode_cons_cases byte bytes with ⟨rest, decodes⟩ | ⟨char, later, -, decodes⟩
    · rw [decodes] at nothing
      cases nothing
    · rw [decodes] at nothing
      cases nothing

/-- If something other than a replacement is decoded first, then the bytes begin with its encoding.
-/
theorem eq_encodeChar_append_of_decode {bytes : List UInt8} {char : Char} {rest : List Char}
    (decodes : decode bytes = char :: rest) (kept : char ≠ replacement) :
    ∃ later, bytes = String.utf8EncodeChar char ++ later ∧ decode later = rest := by
  cases bytes with
  | nil => cases decodes
  | cons byte bytes =>
    rcases decode_cons_cases byte bytes with ⟨others, replaced⟩ | ⟨first, later, split, goesOn⟩
    · rw [replaced] at decodes
      exact absurd (List.cons.inj decodes).1.symm kept
    · rw [goesOn] at decodes
      obtain ⟨rfl, rfl⟩ := List.cons.inj decodes
      exact ⟨later, split, rfl⟩

/-- A text that is decoded without a replacement stands in the bytes as its encoding. -/
theorem eq_encode_append_of_decode {bytes : List UInt8} {front rest : List Char}
    (decodes : decode bytes = front ++ rest) (kept : replacement ∉ front) :
    ∃ later, bytes = encode front ++ later ∧ decode later = rest := by
  induction front generalizing bytes with
  | nil => exact ⟨bytes, rfl, decodes⟩
  | cons char front ih =>
    rw [List.mem_cons, not_or] at kept
    obtain ⟨between, rfl, goesOn⟩ := eq_encodeChar_append_of_decode decodes (Ne.symm kept.1)
    obtain ⟨later, rfl, ends⟩ := ih goesOn kept.2
    exact ⟨later, (List.append_assoc _ _ _).symm, ends⟩

/-- An encoded text is decoded to itself, whatever bytes follow it. -/
theorem decode_encode_append (front : List Char) (later : List UInt8) :
    decode (encode front ++ later) = front ++ decode later := by
  induction front with
  | nil => rfl
  | cons char front ih =>
    rw [encode, List.flatMap_cons, List.append_assoc, decode, decodeAfter_encodeChar]
    exact congrArg (char :: ·) ih

/-! ### Ill-encoded bytes -/

theorem illEncoded_iff {bytes : List UInt8} : IllEncoded bytes ↔ decode? bytes = none := by
  rw [Option.eq_none_iff_forall_ne_some]
  exact forall_congr' fun text => not_congr decode?_eq_some_iff.symm

instance (bytes : List UInt8) : Decidable (IllEncoded bytes) := decidable_of_iff _ illEncoded_iff.symm

theorem encode_append (first second : List Char) :
    encode (first ++ second) = encode first ++ encode second :=
  List.flatMap_append

/-- Where an encoded text begins ill-encoded bytes, those after it are ill-encoded. -/
theorem IllEncoded.of_append {front : List Char} {later : List UInt8}
    (illEncoded : IllEncoded (encode front ++ later)) : IllEncoded later := by
  rintro text rfl
  exact illEncoded (front ++ text) (encode_append front text)

/-- Ill-encoded bytes are decoded with a replacement, since without one they would encode what is
decoded. -/
theorem IllEncoded.replacement_mem {bytes : List UInt8} (illEncoded : IllEncoded bytes) :
    replacement ∈ decode bytes := by
  apply Decidable.byContradiction
  intro absent
  obtain ⟨later, split, ends⟩ := eq_encode_append_of_decode (List.append_nil _).symm absent
  rw [decode_eq_nil ends, List.append_nil] at split
  exact illEncoded _ split.symm

/-- Up to the first bytes that make no character, ill-encoded bytes encode a text. -/
theorem IllEncoded.exists_first {bytes : List UInt8} (illEncoded : IllEncoded bytes) :
    ∃ front later rest, bytes = encode front ++ later ∧ replacement ∉ front ∧
      decode later = replacement :: rest := by
  obtain ⟨front, rest, split, absent⟩ := List.eq_append_cons_of_mem illEncoded.replacement_mem
  obtain ⟨later, rfl, goesOn⟩ := eq_encode_append_of_decode split absent
  exact ⟨front, later, rest, rfl, absent, goesOn⟩

end Calculator.Utf8
