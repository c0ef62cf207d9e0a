import Sweep.Console.CellWidth
import Sweep.Text.Blank

/-!
# Laying out text on a console

A text is laid out in lines of limited width.  Control characters that would move the cursor or ring
the bell are left out, tabs become blanks up to the next multiple of eight cells, and a line that is
too wide is broken in front of a word.  A word that is too wide for a whole line begins a line of its
own and is broken after the last character that fits.

Blanks at the end of a line do not count when the line is broken; those that would stand beyond the
last column are cut off.
-/

namespace Sweep.Console

/-- Control characters that are left out: bell, backspace, vertical tab, form feed, return. -/
def isDropped (c : Char) : Bool := [7, 8, 11, 12, 13].contains c.toNat

/-- Cut a text at line feeds. -/
def cutLines : List Char → List (List Char)
  | [] => [[]]
  | c :: cs =>
    match cutLines cs with
    | [] => [[c]]
    | line :: rest => if c = '\n' then [] :: line :: rest else (c :: line) :: rest

/-- The cells between two stops of the tabulator. -/
def tabSize : Nat := 8

/-- Put blanks in place of tabs; `column` is that of the next character. -/
def expandTabs (column : Nat) : List Char → List Char
  | [] => []
  | '\t' :: rest =>
    let next := (column / tabSize + 1) * tabSize
    List.replicate (next - column) ' ' ++ expandTabs next rest
  | c :: rest => c :: expandTabs (column + cells c) rest

/-- A word with the blanks around it: those in front of the first word belong to it, all others to
the word before them. -/
def wordLength (cs : List Char) : Nat :=
  let front := cs.takeWhile Text.isBlank
  let rest := cs.dropWhile Text.isBlank
  let word := rest.takeWhile fun c => !Text.isBlank c
  let behind := (rest.dropWhile fun c => !Text.isBlank c).takeWhile Text.isBlank
  if word = [] then 0 else front.length + word.length + behind.length

/-- Cut a text into words; a text of blanks has none.  The budget is the number of characters. -/
def words : (budget : Nat) → List Char → List (List Char)
  | 0, _ => []
  | budget + 1, cs =>
    match wordLength cs with
    | 0 => []
    | n => cs.take n :: words budget (cs.drop n)

/-- A text without the blanks at its end. -/
def withoutBlanks (cs : List Char) : List Char := (cs.reverse.dropWhile Text.isBlank).reverse

/-- Break a text after the last character that fits; `used` cells are taken, and `current` are the
characters of the line under way, newest first. -/
def chop (columns used : Nat) (current : List Char) : List Char → List (List Char)
  | [] => [current.reverse]
  | c :: rest =>
    if columns < used + cells c then current.reverse :: chop columns (cells c) [c] rest
    else chop columns (used + cells c) (c :: current) rest

/-- Break a line in front of words that do not fit.  `current` is the line under way. -/
def breakWords (columns : Nat) (current : List Char) : List (List Char) → List (List Char)
  | [] => [current]
  | word :: rest =>
    let wordWidth := width (withoutBlanks word)
    if width current + wordWidth ≤ columns then breakWords columns (current ++ word) rest
    else
      let before := if current = [] then [] else [current]
      if columns < wordWidth then
        let parts := chop columns 0 [] word
        before ++ parts.dropLast ++ breakWords columns (parts.getLast?.getD []) rest
      else before ++ breakWords columns word rest

/-- Cut blanks off the end of a line that has too many characters. -/
def cropBlanks (columns : Nat) (cs : List Char) : List Char :=
  let blanks := cs.length - (withoutBlanks cs).length
  cs.take (cs.length - min blanks (cs.length - columns))

/-- The first characters that fill some cells; half of a wide character becomes a blank. -/
def takeCells (columns : Nat) : List Char → List Char
  | [] => []
  | c :: rest =>
    if cells c ≤ columns then c :: takeCells (columns - cells c) rest
    else if columns = 0 then [] else [' ']

/-- A line that is not wider than the console. -/
def fitLine (columns : Nat) (cs : List Char) : List Char :=
  let cs := cropBlanks columns cs
  if columns < width cs then takeCells columns cs else cs

/-- Lay out one line. -/
def layLine (columns : Nat) (cs : List Char) : List (List Char) :=
  let cs := expandTabs 0 cs
  let rest := (words cs.length cs).flatten
  -- a line of blanks has no words and stays as it is
  let lines := if rest = [] then [cs] else breakWords columns [] (words cs.length cs)
  lines.map (fitLine columns)

/-- The lines of a text on a console. -/
def layOut (columns : Nat) (cs : List Char) : List (List Char) :=
  (cutLines (cs.filter fun c => !isDropped c)).flatMap (layLine columns)

end Sweep.Console
