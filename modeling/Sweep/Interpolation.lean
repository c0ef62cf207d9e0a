import Sweep.Path.Reader

/-!
# Interpolated text

A text may hold paths in `${…}`; a doubled dollar sign stands for one.  Such a text is first cut
into pieces (`pieces`), and then the paths in it are read from left to right, so that the first
mistake is the one that is reported.  Literal parts are never empty and never adjacent.
-/

namespace Sweep

/-- A part of an interpolated text. -/
inductive Part where
  | literal (text : String)
  | hole (path : Path)
  deriving Repr, DecidableEq

/-- Literal text interleaved with paths. -/
abbrev Interpolation := List Part

/-- A piece of a text before its paths are read. -/
inductive Piece where
  | literal (chars : List Char)
  | hole (chars : List Char)
  /-- An opening that is never closed. -/
  | unclosed
  deriving Repr, DecidableEq

namespace Piece

/-- A literal piece, unless it is empty.  The characters come newest first. -/
def literalOf (newestFirst : List Char) (rest : List Piece) : List Piece :=
  if newestFirst = [] then rest else .literal newestFirst.reverse :: rest

mutual

/-- Cut a text into pieces; `lit` is the literal text so far, newest first. -/
def outside (lit : List Char) : List Char → List Piece
  | [] => literalOf lit []
  | '$' :: '$' :: rest => outside ('$' :: lit) rest
  | '$' :: '\x7b' :: rest => inside lit [] rest
  | c :: rest => outside (c :: lit) rest

/-- Inside an opened path; `path` is its text so far, newest first. -/
def inside (lit path : List Char) : List Char → List Piece
  | [] => [.unclosed]
  | c :: rest =>
    if c = '\x7d' then literalOf lit (.hole path.reverse :: outside [] rest)
    else inside lit (c :: path) rest

end

end Piece

/-- Cut a text into pieces. -/
def pieces (chars : List Char) : List Piece := Piece.outside [] chars

namespace Interpolation

/-- Read the paths of the pieces from left to right. -/
def readPieces (location : String) (text : String) : List Piece → Reading Interpolation
  | [] => return []
  | .literal chars :: rest => do
    return .literal (String.ofList chars) :: (← readPieces location text rest)
  | .hole chars :: rest => do
    let path ← Path.read location chars
    return .hole path :: (← readPieces location text rest)
  | .unclosed :: _ => Reading.stop location (.unterminated text)

/-- Read a text with its interpolations. -/
def read (location text : String) : Reading Interpolation :=
  readPieces location text (pieces text.toList)

/-- Double every dollar sign. -/
def escape : List Char → List Char
  | [] => []
  | c :: rest => if c = '$' then '$' :: '$' :: escape rest else c :: escape rest

/-- The text of a part. -/
def describePart (names : NameTable) : Part → String
  | .literal text => String.ofList (escape text.toList)
  | .hole path => "$\x7b" ++ path.describe names ++ "\x7d"

/-- The text of an interpolation, between double quotes. -/
def describe (names : NameTable) (parts : Interpolation) : String :=
  "\"" ++ String.join (parts.map (describePart names)) ++ "\""

end Interpolation

end Sweep
