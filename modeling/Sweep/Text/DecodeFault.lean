import Sweep.Text.Utf8

/-!
# Bytes that are no text

Reading bytes strictly stops at the first part that is not valid.  The report names that part: where
it begins, how long it is, its first byte and what is wrong with it.  The part is an invalid first
byte, the valid beginning of a character in front of a byte that does not go on with it, or the
beginning of a character at the end of the bytes.

A file that is read as a whole is reported on with positions from its beginning.  A file that is read
in pieces is reported on with positions in the piece, where a character that began in the piece before
belongs to the later one.
-/

namespace Sweep.Text

/-- What is wrong with a part of bytes. -/
inductive DecodeCause where
  | start
  | continuation
  | unfinished
  deriving DecidableEq, Repr

def DecodeCause.message : DecodeCause → String
  | start => "invalid start byte"
  | continuation => "invalid continuation byte"
  | unfinished => "unexpected end of data"

/-- The first part of bytes that is not valid. -/
structure DecodeFault where
  position : Nat
  length : Nat
  byte : UInt8
  cause : DecodeCause
  deriving DecidableEq, Repr

/-- The wording of a report. -/
def DecodeFault.message (f : DecodeFault) : String :=
  let part :=
    if f.length = 1 then
      "byte 0x" ++ String.ofList (hexByte f.byte) ++ " in position " ++ toString f.position
    else
      "bytes in position " ++ toString f.position ++ "-" ++ toString (f.position + f.length - 1)
  "'utf-8' codec can't decode " ++ part ++ ": " ++ f.cause.message
where
  /-- Two hexadecimal digits. -/
  hexByte (b : UInt8) : List Char :=
    let ds := Nat.toDigits 16 b.toNat
    List.replicate (2 - ds.length) '0' ++ ds

namespace DecodeFault

/-- Read bytes strictly from the byte number `here` on; the character under way begins at `start`
with the byte `first`.  Gives the number of the first byte that is not part of a complete
character. -/
def scan (state : Utf8) (start here : Nat) (first : UInt8) : Bytes → Except DecodeFault Nat
  | [] => .ok start
  | b :: rest =>
    match state with
    | .inside missing _ low high =>
      if low ≤ b.toNat ∧ b.toNat ≤ high then
        if missing ≤ 1 then scan .ready (here + 1) (here + 1) 0 rest
        else scan (.inside (missing - 1) 0 0x80 0xBF) start (here + 1) first rest
      else .error ⟨start, here - start, first, .continuation⟩
    | _ =>
      match Utf8.start b.toNat with
      | ([], state) => scan state here (here + 1) b rest
      | _ =>
        if b.toNat < 0x80 then scan .ready (here + 1) (here + 1) 0 rest
        else .error ⟨here, 1, b, .start⟩

/-- The number of bytes of complete characters. -/
def complete (bs : Bytes) : Except DecodeFault Nat := scan .ready 0 0 0 bs

/-- The beginning of a character at the end of bytes, which nothing follows. -/
def unfinished (position : Nat) : Bytes → Except DecodeFault Unit
  | [] => .ok ()
  | b :: rest => .error ⟨position, rest.length + 1, b, .unfinished⟩

/-- Bytes that are read as a whole. -/
def inWhole (bs : Bytes) : Except DecodeFault Unit := do
  let n ← complete bs
  unfinished n (bs.drop n)

/-- Bytes that are read in pieces of some size; `pending` is the beginning of a character that waits
for the next piece.  The budget is the number of bytes. -/
def inPieces (size : Nat) : (budget : Nat) → (pending : Bytes) → Bytes → Except DecodeFault Unit
  | 0, pending, _ => unfinished 0 pending
  | _, pending, [] => unfinished 0 pending
  | budget + 1, pending, bs => do
    let piece := pending ++ bs.take size
    inPieces size budget (piece.drop (← complete piece)) (bs.drop size)

end DecodeFault

/-- How many bytes of a file are read at once. -/
def filePiece : Nat := 8192

/-- The text of a file that is read as a whole. -/
def ofWhole (bs : Bytes) : Except DecodeFault String :=
  match ofUtf8? bs with
  | some s => .ok s
  | none => do
    DecodeFault.inWhole bs
    return String.ofList (Utf8.ready.decode bs).1

/-- The text of a file that is read in pieces. -/
def ofPieces (bs : Bytes) : Except DecodeFault String :=
  match ofUtf8? bs with
  | some s => .ok s
  | none => do
    DecodeFault.inPieces filePiece bs.length [] bs
    return String.ofList (Utf8.ready.decode bs).1

example : (DecodeFault.inWhole [0x41, 0xff]).toOption = none := by decide
example : DecodeFault.inWhole [0x41, 0xc3] = .error ⟨1, 1, 0xc3, .unfinished⟩ := by rfl
example : DecodeFault.inPieces 8192 2 [] [0x41, 0xc3] = .error ⟨0, 1, 0xc3, .unfinished⟩ := by rfl

end Sweep.Text
