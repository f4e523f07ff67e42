import Tuic.Codec.Reader

/-! # Strings as valid UTF-8 byte sequences

A string is its UTF-8 bytes: `asBytes` gives them and `fromUtf8` takes exactly the byte sequences
that are valid UTF-8 back (`fromUtf8_eq_ok`). For the others it returns a `Utf8Error`, which says up
to where the bytes are valid and how long the offending sequence is; `utf8Error` finds it by the
usual left-to-right scan. -/

namespace ByteCodec

/-- The UTF-8 bytes of a string. -/
def asBytes (s : String) : Bytes := s.toByteArray.data.toList

/-- Where and how a byte sequence stops being UTF-8. -/
structure Utf8Error where
  /-- The length of the longest valid prefix. -/
  validUpTo : Nat
  /-- The length of the offending sequence, or `none` when the input ended inside a character. -/
  errorLen : Option Nat
  deriving DecidableEq, Repr

/-- The text of a UTF-8 error. -/
def Utf8Error.message (e : Utf8Error) : String :=
  match e.errorLen with
  | some n => s!"invalid utf-8 sequence of {n} bytes from index {e.validUpTo}"
  | none => s!"incomplete utf-8 byte sequence from index {e.validUpTo}"

/-- A continuation byte, `10xxxxxx`. -/
def isContinuation (x : UInt8) : Bool := 0x80 ≤ x && x ≤ 0xbf

/-- The second bytes that may follow the first byte of a three-byte character: no overlong form and
no surrogate. -/
def isSecondOfThree (x y : UInt8) : Bool :=
  if x = 0xe0 then 0xa0 ≤ y && y ≤ 0xbf
  else if x = 0xed then 0x80 ≤ y && y ≤ 0x9f
  else isContinuation y

/-- The second bytes that may follow the first byte of a four-byte character: no overlong form and
nothing past U+10FFFF. -/
def isSecondOfFour (x y : UInt8) : Bool :=
  if x = 0xf0 then 0x90 ≤ y && y ≤ 0xbf
  else if x = 0xf4 then 0x80 ≤ y && y ≤ 0x8f
  else isContinuation y

/-- The first UTF-8 error of a byte sequence that starts at index `i`. Past the end of a valid
sequence it reports an empty incomplete character; `fromUtf8` never asks there. -/
def utf8Error (i : Nat) : Bytes → Utf8Error
  | [] => ⟨i, none⟩
  | x :: b =>
    if x < 0x80 then utf8Error (i + 1) b
    -- `0xc0` and `0xc1` would start an overlong form
    else if 0xc2 ≤ x && x ≤ 0xdf then
      match b with
      | [] => ⟨i, none⟩
      | y :: b => if isContinuation y then utf8Error (i + 2) b else ⟨i, some 1⟩
    else if 0xe0 ≤ x && x ≤ 0xef then
      match b with
      | [] => ⟨i, none⟩
      | y :: b =>
        if !isSecondOfThree x y then ⟨i, some 1⟩
        else match b with
          | [] => ⟨i, none⟩
          | z :: b => if isContinuation z then utf8Error (i + 3) b else ⟨i, some 2⟩
    else if 0xf0 ≤ x && x ≤ 0xf4 then
      match b with
      | [] => ⟨i, none⟩
      | y :: b =>
        if !isSecondOfFour x y then ⟨i, some 1⟩
        else match b with
          | [] => ⟨i, none⟩
          | z :: b =>
            if !isContinuation z then ⟨i, some 2⟩
            else match b with
              | [] => ⟨i, none⟩
              | w :: b => if isContinuation w then utf8Error (i + 4) b else ⟨i, some 3⟩
    -- a continuation byte, or a byte that starts no character
    else ⟨i, some 1⟩

/-- The string with the given UTF-8 bytes, or the reason why there is none. -/
def fromUtf8 (b : Bytes) : Except Utf8Error String :=
  if h : b.toByteArray.IsValidUTF8 then .ok (String.fromUTF8 b.toByteArray h)
  else .error (utf8Error 0 b)

/-- **The bytes a string is read from are its own**: `fromUtf8` accepts exactly the UTF-8 bytes of a
string, and returns that string. -/
theorem fromUtf8_eq_ok {b : Bytes} {s : String} : fromUtf8 b = .ok s ↔ b = asBytes s := by
  unfold fromUtf8
  constructor
  · intro h
    split at h
    · cases h
      exact List.toList_data_toByteArray.symm
    · cases h
  · rintro rfl
    -- a string is determined by its bytes, so it is enough to get the byte array back
    have hback : (asBytes s).toByteArray = s.toByteArray := by
      apply ByteArray.ext
      rw [List.data_toByteArray, asBytes, Array.toArray_toList]
    have hvalid : (asBytes s).toByteArray.IsValidUTF8 := hback ▸ s.isValidUTF8
    rw [dif_pos hvalid]
    exact congrArg _ (String.toByteArray_inj.mp hback)

/-- Byte sequences that are not valid UTF-8 are refused with their first error. -/
theorem fromUtf8_of_not_valid {b : Bytes} (h : ¬ b.toByteArray.IsValidUTF8) :
    fromUtf8 b = .error (utf8Error 0 b) := dif_neg h

/-- **Accepted means valid**: `fromUtf8` returns a string exactly on valid UTF-8. -/
theorem exists_fromUtf8_eq_ok {b : Bytes} :
    (∃ s, fromUtf8 b = .ok s) ↔ b.toByteArray.IsValidUTF8 := by
  constructor
  · rintro ⟨s, hs⟩
    by_contra hb
    rw [fromUtf8_of_not_valid hb] at hs
    cases hs
  · intro h
    exact ⟨_, dif_pos h⟩

end ByteCodec
