import Calculator.Text.Utf8

/-!
# Laws of UTF-8

A lead byte and its continuation bytes give back the character they encode, whatever follows them. So
decoding undoes encoding, and strict decoding accepts exactly the encodings of texts.

## Main statements

* `decode_encode`: decoding the encoding of a text gives the text.
* `decode?_eq_some_iff`: strict decoding accepts exactly the encodings of texts.
-/
namespace Calculator.Utf8

/-! ### Single bytes -/

theorem lead?_ofNat {n : Nat} (small : n < 256) : lead? (UInt8.ofNat n) =
    if 0xC2 ≤ n ∧ n ≤ 0xDF then some ⟨n - 0xC0, 1, 0x80, 0xBF⟩
    else if n = 0xE0 then some ⟨0, 2, 0xA0, 0xBF⟩
    else if n = 0xED then some ⟨0xD, 2, 0x80, 0x9F⟩
    else if 0xE1 ≤ n ∧ n ≤ 0xEF then some ⟨n - 0xE0, 2, 0x80, 0xBF⟩
    else if n = 0xF0 then some ⟨0, 3, 0x90, 0xBF⟩
    else if 0xF1 ≤ n ∧ n ≤ 0xF3 then some ⟨n - 0xF0, 3, 0x80, 0xBF⟩
    else if n = 0xF4 then some ⟨4, 3, 0x80, 0x8F⟩
    else none := by
  have value : (UInt8.ofNat n).toNat = n := UInt8.toNat_ofNat_of_lt' small
  simp only [lead?, UInt8.le_iff_toNat_le, ← UInt8.toNat_inj, value, UInt8.reduceToNat]

theorem begin_ofNat {n : Nat} (ascii : n < 0x80) :
    begin (UInt8.ofNat n) = ([Char.ofNat n], none) := by
  have value : (UInt8.ofNat n).toNat = n := UInt8.toNat_ofNat_of_lt' (Nat.lt_trans ascii (by decide))
  simp only [begin, UInt8.lt_iff_toNat_lt, value, UInt8.reduceToNat, ascii, if_true]

/-! ### Bytes of one character -/

/-- A continuation byte in the range that is allowed adds six bits, and more are awaited. -/
theorem decodeAfter_continuation {code owed n : Nat} {low high : UInt8}
    (above : low.toNat ≤ n) (below : n ≤ high.toNat) (later : List UInt8) :
    decodeAfter (some ⟨code, owed + 2, low, high⟩) (UInt8.ofNat n :: later) =
      decodeAfter (some ⟨code * 64 + (n - 0x80), owed + 1, 0x80, 0xBF⟩) later := by
  have value : (UInt8.ofNat n).toNat = n :=
    UInt8.toNat_ofNat_of_lt' (Nat.lt_of_le_of_lt below high.toNat_lt)
  simp [decodeAfter, step, UInt8.le_iff_toNat_le, value, above, below]

/-- The last continuation byte completes the character. -/
theorem decodeAfter_last (total : Nat) {code n : Nat} {low high : UInt8}
    (above : low.toNat ≤ n) (below : n ≤ high.toNat) (whole : code * 64 + (n - 0x80) = total)
    (later : List UInt8) :
    decodeAfter (some ⟨code, 1, low, high⟩) (UInt8.ofNat n :: later) =
      Char.ofNat total :: decodeAfter none later := by
  subst whole
  have value : (UInt8.ofNat n).toNat = n :=
    UInt8.toNat_ofNat_of_lt' (Nat.lt_of_le_of_lt below high.toNat_lt)
  simp [decodeAfter, step, UInt8.le_iff_toNat_le, value, above, below]

theorem decodeAfter_lead {n : Nat} {incomplete : Partial} (big : 0x80 ≤ n) (small : n < 256)
    (found : lead? (UInt8.ofNat n) = some incomplete) (later : List UInt8) :
    decodeAfter none (UInt8.ofNat n :: later) = decodeAfter (some incomplete) later := by
  have value : (UInt8.ofNat n).toNat = n := UInt8.toNat_ofNat_of_lt' small
  have notAscii : ¬ n < 0x80 := by omega
  simp [decodeAfter, step, begin, UInt8.lt_iff_toNat_lt, value, notAscii, found]

/-- The lead byte of three bytes narrows the range of the second: short codes and surrogates have no
such encoding. -/
theorem lead?_three (code : Nat) (low : 0x800 ≤ code) (high : code < 0x10000)
    (valid : code < 0xD800 ∨ 0xDFFF < code) :
    ∃ least greatest, lead? (UInt8.ofNat (code / 4096 % 16 + 224)) =
        some ⟨code / 4096, 2, least, greatest⟩ ∧
      least.toNat ≤ code / 64 % 64 + 128 ∧ code / 64 % 64 + 128 ≤ greatest.toNat := by
  rw [lead?_ofNat (by omega)]
  by_cases first : code / 4096 = 0
  · exact ⟨0xA0, 0xBF, by simp [first], by simp; omega, by simp; omega⟩
  by_cases surrogate : code / 4096 = 0xD
  · exact ⟨0x80, 0x9F, by simp [surrogate], by simp, by simp; omega⟩
  · refine ⟨0x80, 0xBF, ?_, by simp, by simp; omega⟩
    rw [if_neg (by omega), if_neg (by omega), if_neg (by omega), if_pos (by omega)]
    simp
    omega

/-- The lead byte of four bytes narrows the range of the second: short codes and codes above the last
one have no such encoding. -/
theorem lead?_four (code : Nat) (low : 0x10000 ≤ code) (high : code < 0x110000) :
    ∃ least greatest, lead? (UInt8.ofNat (code / 262144 % 8 + 240)) =
        some ⟨code / 262144, 3, least, greatest⟩ ∧
      least.toNat ≤ code / 4096 % 64 + 128 ∧ code / 4096 % 64 + 128 ≤ greatest.toNat := by
  rw [lead?_ofNat (by omega)]
  by_cases first : code / 262144 = 0
  · exact ⟨0x90, 0xBF, by simp [first], by simp; omega, by simp; omega⟩
  by_cases last : code / 262144 = 4
  · exact ⟨0x80, 0x8F, by simp [last], by simp, by simp; omega⟩
  · refine ⟨0x80, 0xBF, ?_, by simp, by simp; omega⟩
    rw [if_neg (by omega), if_neg (by omega), if_neg (by omega), if_neg (by omega),
      if_neg (by omega), if_pos (by omega)]
    simp
    omega

/-- The encoding of a character is decoded to it, for each of the four lengths. -/
theorem decodeAfter_encodeChar (char : Char) (later : List UInt8) :
    decodeAfter none (String.utf8EncodeChar char ++ later) = char :: decodeAfter none later := by
  have valid : char.val.toNat.isValidChar := char.valid
  have same : Char.ofNat char.val.toNat = char := Char.ofNat_toNat char
  unfold String.utf8EncodeChar
  dsimp only
  generalize char.val.toNat = code at valid same
  simp only [Nat.isValidChar] at valid
  subst same
  -- one case for each length that the encoding can have
  split
  · have ascii : code < 0x80 := by omega
    simp [decodeAfter, step, begin_ofNat ascii]
  split
  · have found := lead?_ofNat (n := code / 64 % 32 + 192) (by omega)
    rw [if_pos (by omega)] at found
    simp only [List.cons_append, List.nil_append]
    rw [decodeAfter_lead (by omega) (by omega) found,
      decodeAfter_last code (by simp) (by simp; omega) (by omega)]
  split
  · obtain ⟨least, greatest, found, above, below⟩ :=
      lead?_three code (by omega) (by omega) (by omega)
    simp only [List.cons_append, List.nil_append]
    rw [decodeAfter_lead (by omega) (by omega) found, decodeAfter_continuation above below,
      decodeAfter_last code (by simp) (by simp; omega) (by omega)]
  · obtain ⟨least, greatest, found, above, below⟩ := lead?_four code (by omega) (by omega)
    simp only [List.cons_append, List.nil_append]
    rw [decodeAfter_lead (by omega) (by omega) found, decodeAfter_continuation above below,
      decodeAfter_continuation (by simp) (by simp; omega),
      decodeAfter_last code (by simp) (by simp; omega) (by omega)]

/-! ### Texts -/

theorem decode_encode (text : List Char) : decode (encode text) = text := by
  induction text with
  | nil => rfl
  | cons char text ih =>
    have step := decodeAfter_encodeChar char (encode text)
    simp only [decode, encode, List.flatMap_cons] at ih step ⊢
    rw [step, ih]

/-- The strict decoder accepts exactly the encodings of texts. -/
theorem decode?_eq_some_iff {bytes : List UInt8} {text : List Char} :
    decode? bytes = some text ↔ encode text = bytes := by
  constructor
  · exact encode_of_decode?
  · rintro rfl
    simp [decode?, decode_encode]

end Calculator.Utf8
