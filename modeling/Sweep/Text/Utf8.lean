/-!
# Decoding UTF-8 a byte at a time

The decoder is a machine with few kinds of state: it is ready for the first byte of a character, or
it is inside a character and knows how many bytes are missing, the bits seen so far and the range
in which the next byte has to lie.  The range carries the rules against overlong forms, surrogates
and code points beyond the last plane, so a sequence is refused at the first byte that cannot
continue it.  A refused part gives one replacement character, and the byte that refused it is read
again as a first byte: one replacement for each maximal invalid part.  The first two bytes of a
surrogate are two invalid parts, but they are held back until another byte follows or the stream
ends.

The machine reads bytes one by one, so it does not matter how a stream is cut into chunks
(`decode_append`).
-/

namespace Sweep.Text

/-- A sequence of bytes. -/
abbrev Bytes := List UInt8

/-- The character that stands for an invalid part. -/
def replacement : Char := '\uFFFD'

/-- The state of the decoder between two bytes. -/
inductive Utf8 where
  /-- The next byte starts a character. -/
  | ready
  /-- Inside a character: missing bytes, bits so far, and the range of the next byte. -/
  | inside (missing bits low high : Nat)
  /-- Behind the first two bytes of a surrogate. -/
  | surrogate
  deriving DecidableEq, Repr, Inhabited

namespace Utf8

/-- The largest second byte of a character whose first byte is also that of surrogates. -/
def belowSurrogates : Nat := 0x9F

/-- The first byte of a character. -/
def start (b : Nat) : List Char × Utf8 :=
  if b < 0x80 then ([Char.ofNat b], ready)
  else if b < 0xC2 then ([replacement], ready)
  else if b < 0xE0 then ([], inside 1 (b - 0xC0) 0x80 0xBF)
  else if b = 0xE0 then ([], inside 2 (b - 0xE0) 0xA0 0xBF)
  else if b = 0xED then ([], inside 2 (b - 0xE0) 0x80 belowSurrogates)
  else if b < 0xF0 then ([], inside 2 (b - 0xE0) 0x80 0xBF)
  else if b = 0xF0 then ([], inside 3 (b - 0xF0) 0x90 0xBF)
  else if b < 0xF4 then ([], inside 3 (b - 0xF0) 0x80 0xBF)
  else if b = 0xF4 then ([], inside 3 (b - 0xF0) 0x80 0x8F)
  else ([replacement], ready)

/-- One byte: the characters that are now complete, and the next state. -/
def step (s : Utf8) (byte : UInt8) : List Char × Utf8 :=
  let b := byte.toNat
  match s with
  | ready => start b
  | inside missing bits low high =>
    if low ≤ b ∧ b ≤ high then
      let bits := bits * 64 + (b - 0x80)
      if missing ≤ 1 then ([Char.ofNat bits], ready) else ([], inside (missing - 1) bits 0x80 0xBF)
    else if high = belowSurrogates ∧ high < b ∧ b ≤ 0xBF then ([], surrogate)
    else
      let r := start b
      (replacement :: r.1, r.2)
  | surrogate =>
    let r := start b
    (replacement :: replacement :: r.1, r.2)

/-- All bytes of a chunk. -/
def decode (s : Utf8) : Bytes → List Char × Utf8
  | [] => ([], s)
  | b :: bs =>
    let r := step s b
    let t := decode r.2 bs
    (r.1 ++ t.1, t.2)

/-- The end of the stream: an unfinished character is replaced. -/
def flush : Utf8 → List Char
  | ready => []
  | inside .. => [replacement]
  | surrogate => [replacement, replacement]

theorem decode_append (s : Utf8) (xs ys : Bytes) :
    decode s (xs ++ ys) =
      ((decode s xs).1 ++ (decode (decode s xs).2 ys).1, (decode (decode s xs).2 ys).2) := by
  induction xs generalizing s with
  | nil => rfl
  | cons x xs ih => simp [decode, ih]

end Utf8

/-- The bytes of a string. -/
def utf8 (s : String) : Bytes := s.toUTF8.toList

/-- The string that bytes encode, if they are valid. -/
def ofUtf8? (bs : Bytes) : Option String := String.fromUTF8? (ByteArray.mk bs.toArray)

end Sweep.Text
