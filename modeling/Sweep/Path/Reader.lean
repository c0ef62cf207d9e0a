import Sweep.Bed.Flaw
import Sweep.Text.Blank
import Sweep.Text.Digit
import Sweep.Text.Integer
import Sweep.Text.Letter

/-!
# Reading paths

The grammar of a path, after white space is cut from both ends of the text:

    Path ::= Name [ '[' (Digit+ | Path) ']' ] [ '.' Path ]

A name starts with a letter or an underscore and goes on with letters, underscores, digits and
hyphens.  Names are interned in the order in which they are met, also when the text turns out to be
no path further on.  The reader keeps the column for its messages.
-/

namespace Sweep

/-- The character may start a name. -/
def startsName (c : Char) : Bool := Text.isLetter c || c = '_'

/-- The character may stand inside a name. -/
def continuesName (c : Char) : Bool := startsName c || Text.isDigit c || c = '-'

/-- What is left of a text, and the column of its first character. -/
structure Cursor where
  column : Nat
  rest : List Char

namespace Cursor

/-- Step over a number of characters. -/
def skip (c : Cursor) (n : Nat) : Cursor := ⟨c.column + n, c.rest.drop n⟩

/-- The name at the front of a text; empty if there is none. -/
def nameChars : List Char → List Char
  | [] => []
  | c :: cs => if startsName c then c :: cs.takeWhile continuesName else []

end Cursor

namespace Path

open Reading

/-- Read the closing bracket of a selection. -/
def readBracket (location text : String) (c : Cursor) : Reading Cursor :=
  match c.rest with
  | ']' :: _ => return c.skip 1
  | _ => stop location (.expectedBracket text c.column)

/-- The position that digits write. -/
def readPosition (digits : List Char) : Reading Nat :=
  match Text.decimalNumber? digits with
  | some n => if digits.length ≤ Text.digitLimit then return n else throw .indexDigits
  | none => throw .indexDigits

/-- Read a path from the front of a text.  Every call that spends budget has consumed the
characters of a name, so a budget of one more than the length suffices. -/
def readAt (location text : String) : (budget : Nat) → Cursor → Reading (Path × Cursor)
  | 0, c => stop location (.expectedName text c.column)
  | budget + 1, c => do
    match Cursor.nameChars c.rest with
    | [] => stop location (.expectedName text c.column)
    | name =>
      let var ← intern (String.ofList name)
      let c := c.skip name.length
      let (pick, c) ← match c.rest with
        | '[' :: rest => do
          match rest.takeWhile Text.isDigit with
          | [] =>
            let (key, c) ← readAt location text budget (c.skip 1)
            pure (Pick.by key, ← readBracket location text c)
          | digits =>
            let n ← readPosition digits
            pure (Pick.at n, ← readBracket location text (c.skip (1 + digits.length)))
        | _ => pure (Pick.whole, c)
      match c.rest with
      | '.' :: _ =>
        let (field, c) ← readAt location text budget (c.skip 1)
        return (.dot var pick field, c)
      | _ => return (.last var pick, c)

/-- Read a text as a path. -/
def read (location : String) (text : List Char) : Reading Path := do
  let chars := Text.strip text
  let shown := String.ofList chars
  let (path, c) ← readAt location shown (chars.length + 1) ⟨0, chars⟩
  match c.rest with
  | [] => return path
  | ch :: _ => stop location (.unexpected ch shown c.column)

/-- Read a string as a path. -/
def ofString (location text : String) : Reading Path := read location text.toList

end Path

end Sweep
