/-!
# Decoding UTF-8

Bytes are decoded one at a time. A character of several bytes starts with a lead byte, which says
how many continuation bytes follow and narrows the range of the first of them. Where the bytes do
not go on as the lead byte says, the bytes of the incomplete character become one replacement
character, and decoding goes on with the byte that does not fit.

## Main statements

* `encode_of_decode?`: what strict decoding accepts is the encoding of its result.
-/
namespace Calculator.Utf8

def replacement : Char := '\uFFFD'

/-- A character whose last bytes are still to come. -/
structure Partial where
  -- the bits of the code point read so far
  code : Nat
  -- the number of bytes to come
  owed : Nat
  -- the range of the next byte
  low : UInt8
  high : UInt8
  deriving DecidableEq, Repr

def lead? (byte : UInt8) : Option Partial :=
  if 0xC2 ≤ byte ∧ byte ≤ 0xDF then some ⟨byte.toNat - 0xC0, 1, 0x80, 0xBF⟩
  -- after the least lead byte of a length, low continuations would encode shorter characters
  else if byte = 0xE0 then some ⟨0, 2, 0xA0, 0xBF⟩
  -- above 0x9F the surrogates would follow
  else if byte = 0xED then some ⟨0xD, 2, 0x80, 0x9F⟩
  else if 0xE1 ≤ byte ∧ byte ≤ 0xEF then some ⟨byte.toNat - 0xE0, 2, 0x80, 0xBF⟩
  else if byte = 0xF0 then some ⟨0, 3, 0x90, 0xBF⟩
  else if 0xF1 ≤ byte ∧ byte ≤ 0xF3 then some ⟨byte.toNat - 0xF0, 3, 0x80, 0xBF⟩
  -- above 0x8F no character is left
  else if byte = 0xF4 then some ⟨4, 3, 0x80, 0x8F⟩
  else none

/-- A byte between characters: what it gives at once, and the character it starts. -/
def begin (byte : UInt8) : List Char × Option Partial :=
  if byte < 0x80 then ([Char.ofNat byte.toNat], none)
  else
    match lead? byte with
    | some incomplete => ([], some incomplete)
    | none => ([replacement], none)

/-- One byte: the characters it completes or gives up, and the character it leaves incomplete. -/
def step (incomplete : Option Partial) (byte : UInt8) : List Char × Option Partial :=
  match incomplete with
  | none => begin byte
  | some ⟨code, owed, low, high⟩ =>
    if low ≤ byte ∧ byte ≤ high then
      let code := code * 64 + (byte.toNat - 0x80)
      if owed ≤ 1 then ([Char.ofNat code], none) else ([], some ⟨code, owed - 1, 0x80, 0xBF⟩)
    else
      let (out, next) := begin byte
      (replacement :: out, next)

def decodeAfter (incomplete : Option Partial) : List UInt8 → List Char
  | [] => if incomplete.isSome then [replacement] else []
  | byte :: later => (step incomplete byte).1 ++ decodeAfter (step incomplete byte).2 later

/-- The text of a sequence of bytes, with a replacement character for each part that cannot be
decoded. -/
def decode (bytes : List UInt8) : List Char := decodeAfter none bytes

def encode (text : List Char) : List UInt8 := text.flatMap String.utf8EncodeChar

/-- The text of a sequence of bytes, if the bytes are the encoding of one. -/
def decode? (bytes : List UInt8) : Option (List Char) :=
  if encode (decode bytes) = bytes then some (decode bytes) else none

theorem encode_of_decode? {bytes : List UInt8} {text : List Char}
    (decoded : decode? bytes = some text) : encode text = bytes := by
  unfold decode? at decoded
  split at decoded
  · next same =>
    cases decoded
    exact same
  · cases decoded

end Calculator.Utf8
