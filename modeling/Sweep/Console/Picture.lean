import Sweep.Console.PictureTable
import Sweep.Text.Blank

/-!
# Pictures by name

The console shows a picture where its short name stands between two colons.  A dash and the word
`emoji` or `text` behind the name choose how the picture is drawn.  A name reaches from a colon to
the next one and holds no blanks; one that is not known stays as it is, colons included, and the
second colon does not begin another name.  Letters of a name may be large or small.
-/

namespace Sweep.Console

/-- Cut a text at a character. -/
def cutAt (sep : Char) : List Char → List (List Char)
  | [] => [[]]
  | c :: cs =>
    match cutAt sep cs with
    | [] => [[c]]
    | part :: rest => if c = sep then [] :: part :: rest else (c :: part) :: rest

/-- The number that hexadecimal digits in capitals show. -/
def hexNumber (ds : List Char) : Nat :=
  ds.foldl (fun n c => 16 * n + (if c.isDigit then c.toNat - 48 else c.toNat - 55)) 0

/-- An entry of the table: a name and its picture. -/
def readEntry (cs : List Char) : List Char × List Char :=
  (cs.takeWhile (· ≠ '='),
    (cutAt '+' (cs.dropWhile (· ≠ '=')).tail).map fun ds => Char.ofNat (hexNumber ds))

/-- The names with their pictures. -/
def pictures : List (List Char × List Char) :=
  pictureTable.flatMap fun line => (cutAt ' ' line.toList).map readEntry

/-- The small form of a letter, for the letters that occur in names. -/
def smallLetter (c : Char) : Char :=
  let n := c.toNat
  if c.isUpper then c.toLower
  else if (0xC0 ≤ n ∧ n ≤ 0xDE) ∧ n ≠ 0xD7 then Char.ofNat (n + 32)
  else if n = 0x212A then 'k'
  else if n = 0x212B then Char.ofNat 0xE5
  else c

/-- The picture with a name. -/
def picture? (name : List Char) : Option (List Char) :=
  let name := name.map smallLetter
  (pictures.find? (·.1 == name)).map (·.2)

/-- The endings of names that choose how a picture is drawn, and the characters that say so. -/
def variants : List (List Char × Char) :=
  [("-emoji".toList, '\uFE0F'), ("-text".toList, '\uFE0E')]

/-- The name without its ending, and what the ending says. -/
def splitVariant (name : List Char) : List Char × List Char :=
  match variants.find? fun v => v.1.isSuffixOf name with
  | some (ending, mark) => (name.take (name.length - ending.length), [mark])
  | none => (name, [])

/-- What stands for a name between colons. -/
def shownName (name : List Char) : List Char :=
  let (plain, mark) := splitVariant name
  match picture? plain with
  | some picture => picture ++ mark
  | none => ':' :: name ++ [':']

/-- The name behind a colon and what follows the second colon, if there is one. -/
def name? (cs : List Char) : Option (List Char × List Char) :=
  let name := cs.takeWhile fun c => c ≠ ':' ∧ !Text.isBlank c
  match cs.drop name.length with
  | ':' :: rest => some (name, rest)
  | _ => none

/-- Put pictures in place of their names; the budget is the number of characters. -/
def showPicturesWithin : (budget : Nat) → List Char → List Char
  | 0, cs => cs
  | _, [] => []
  | budget + 1, ':' :: rest =>
    match name? rest with
    | some (name, rest) => shownName name ++ showPicturesWithin budget rest
    | none => ':' :: showPicturesWithin budget rest
  | budget + 1, c :: rest => c :: showPicturesWithin budget rest

/-- Put pictures in place of their names. -/
def showPictures (cs : List Char) : List Char := showPicturesWithin cs.length cs

end Sweep.Console
