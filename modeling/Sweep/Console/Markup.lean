import Sweep.Console.Layout
import Sweep.Console.Picture

/-!
# What the console shows

Three kinds of text reach the console.

* A plain text is shown with pictures for their short names, laid out in lines.
* A verdict begins with a mark for success or failure and is written in a markup where a word in
  brackets may be a tag.  The message of a verdict is protected: its brackets are no tags.  The
  protection leaves traces.  A backslash in front of a bracket that could not be a tag is lost, one at
  the end of the message is doubled, and no short name of a picture reaches over a protected bracket.
* A line that is echoed is neither laid out nor has it pictures; only sequences that would control a
  terminal are left out.
-/

namespace Sweep.Console

/-- The columns of the console. -/
def columns : Nat := 4000

/-- Lines, each with its end. -/
def joinLines (lines : List (List Char)) : String :=
  String.join (lines.map fun line => String.ofList line ++ "\n")

/-- A plain text on the console. -/
def plain (text : String) : String := joinLines (layOut columns (showPictures text.toList))

/-! ### Verdicts -/

/-- The first character of a tag. -/
def beginsTag (c : Char) : Bool := ('a' ≤ c ∧ c ≤ 'z') || c = '#' || c = '/' || c = '@'

/-- A bracketed word that could be a tag, and what follows it. -/
def tag? : List Char → Option (List Char × List Char)
  | '[' :: c :: rest =>
    if beginsTag c then
      let inner := rest.takeWhile fun d => d ≠ '[' ∧ d ≠ ']'
      match rest.drop inner.length with
      | ']' :: rest => some ('[' :: c :: inner ++ [']'], rest)
      | _ => none
    else none
  | _ => none

/-- Text between tags, where a backslash in front of a bracket is lost. -/
def unprotect : List Char → List Char
  | '\\' :: '[' :: rest => '[' :: unprotect rest
  | c :: rest => c :: unprotect rest
  | [] => []

/-- The parts of a protected message: text, backslashes in front of a tag, and tags, in turn.
`newestFirst` is the text under way; the budget is the number of characters. -/
def parts (newestFirst : List Char) : (budget : Nat) → List Char → List (List Char)
  | 0, _ => [unprotect newestFirst.reverse]
  | _, [] => [unprotect newestFirst.reverse]
  | budget + 1, c :: rest =>
    let slashes := (c :: rest).takeWhile (· = '\\')
    match tag? ((c :: rest).drop slashes.length) with
    | some (tag, rest) => unprotect newestFirst.reverse :: slashes :: tag :: parts [] budget rest
    | none => parts (c :: newestFirst) budget rest

/-- A single backslash at the end is doubled. -/
def doubleLast (cs : List Char) : List Char :=
  match cs.reverse with
  | '\\' :: '\\' :: _ => cs
  | '\\' :: _ => cs ++ ['\\']
  | _ => cs

/-- The text of a protected message. -/
def protectedText (message : String) : List Char :=
  let cs := doubleLast message.toList
  (parts [] cs.length cs).flatMap showPictures

/-- A verdict on the console. -/
def verdict (mark : String) (message : String) : String :=
  joinLines (layOut columns (mark.toList ++ ' ' :: protectedText message))

/-! ### Echoed lines -/

/-- The parameters of a control sequence. -/
def isParameter (c : Char) : Bool := c = ';' || c = '?' || c.isDigit

/-- What follows a control sequence behind its first two characters, if it is one. -/
def behindControl? (cs : List Char) : Option (List Char) :=
  match cs.dropWhile isParameter with
  | c :: rest => if c.isAlpha then some rest else none
  | [] => none

/-- A text without control sequences; the budget is the number of characters. -/
def withoutControls : (budget : Nat) → List Char → List Char
  | 0, cs => cs
  | _, [] => []
  | budget + 1, '\x1b' :: '[' :: rest =>
    match behindControl? rest with
    | some rest => withoutControls budget rest
    | none => '\x1b' :: withoutControls budget ('[' :: rest)
  | budget + 1, c :: rest => c :: withoutControls budget rest

/-- An echoed line on the console. -/
def echo (line : String) : String :=
  String.ofList (withoutControls line.length line.toList) ++ "\n"

end Sweep.Console
