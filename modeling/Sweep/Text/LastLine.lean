import Sweep.Text.Utf8

/-!
# The last line of a stream

A tracker reads a stream of bytes in chunks and knows, after every chunk, the line that is worth
showing: the last piece of text that is not empty, when the decoded text is cut at every carriage
return and line feed.  A line break alone does not clear the line; the next character does.  An
unfinished character at the end of a chunk waits for the next chunk.

The same line can be told from the whole text at once: `lastPiece` cuts it at the line breaks and
takes the last piece that is not empty.
-/

namespace Sweep.Text

/-- The tracker: the decoder, the current line newest character first, and whether that line has
been ended by a line break. -/
structure LineTracker where
  decoder : Utf8 := .ready
  newestFirst : List Char := []
  ended : Bool := false
  deriving Repr, Inhabited

namespace LineTracker

/-- Only carriage return and line feed end a line. -/
def isBreak (c : Char) : Bool := c = '\r' || c = '\n'

/-- One decoded character. -/
def push (t : LineTracker) (c : Char) : LineTracker :=
  if isBreak c then { t with ended := true }
  else if t.ended then { t with newestFirst := [c], ended := false }
  else { t with newestFirst := c :: t.newestFirst }

/-- The line to show. -/
def line (t : LineTracker) : String := String.ofList t.newestFirst.reverse

/-- One chunk of bytes. -/
def feed (t : LineTracker) (bytes : Bytes) : LineTracker :=
  let r := t.decoder.decode bytes
  r.1.foldl push { t with decoder := r.2 }

/-- The end of the stream. -/
def close (t : LineTracker) : LineTracker :=
  t.decoder.flush.foldl push { t with decoder := .ready }

end LineTracker

/-- Cut a text at every line break. -/
def cutAtBreaks : List Char → List (List Char)
  | [] => [[]]
  | c :: cs =>
    if LineTracker.isBreak c then [] :: cutAtBreaks cs
    else
      match cutAtBreaks cs with
      | [] => [[c]]
      | piece :: rest => (c :: piece) :: rest

/-- The last piece between line breaks that is not empty; empty if there is none. -/
def lastPiece (cs : List Char) : List Char :=
  ((cutAtBreaks cs).filter (· ≠ [])).getLast?.getD []

example : lastPiece ['a', '\r', '\n', 'b', 'c', '\n'] = ['b', 'c'] := by decide
example : lastPiece ['\n'] = [] := by decide

end Sweep.Text
