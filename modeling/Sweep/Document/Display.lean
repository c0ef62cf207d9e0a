import Sweep.Document.Basic
import Sweep.Number.Shortest
import Sweep.Text.DigitLimit
import Sweep.Text.Quoted

/-!
# The text of a document

Documents are written in two ways.  `display` is the text of a value where a name, a path or a
message needs one: a text stands for itself, anything else is shown with brackets, and texts inside
are quoted.  There is no such text, and `written?` gives none, if an integer in the value has too many
digits.  `ascii` writes JSON with ASCII characters only, on one line or indented.
-/

namespace Sweep

namespace Key

/-- The text of a key with a text quoted. -/
def quoted : Key → String
  | null => "None"
  | bool b => if b then "True" else "False"
  | int n => toString n
  | float x => x.text
  | text s => Text.display s

/-- The text of a key; a text is its own text. -/
def display : Key → String
  | text s => s
  | k => k.quoted

/-- An integer has few enough digits to be written. -/
def isWritable : Key → Bool
  | int n => Text.isWritable n
  | _ => true

/-- The text of a key, if it can be written. -/
def written? (k : Key) : Option String := if k.isWritable then some k.display else none

theorem written?_eq_some {k : Key} {s : String} : k.written? = some s ↔ k.isWritable = true ∧ k.display = s :=
  Option.ite_none_right_eq_some.trans (and_congr_right fun _ => Option.some_inj)

end Key

namespace Document

mutual

/-- The text of a document with texts quoted. -/
def quoted : Document → String
  | null => Key.null.quoted
  | bool b => (Key.bool b).quoted
  | int n => (Key.int n).quoted
  | float x => (Key.float x).quoted
  | text s => (Key.text s).quoted
  | list items => "[" ++ ", ".intercalate (quotedItems items) ++ "]"
  | mapping entries => "\x7b" ++ ", ".intercalate (quotedEntries entries) ++ "\x7d"

def quotedItems : List Document → List String
  | [] => []
  | d :: rest => quoted d :: quotedItems rest

def quotedEntries : List (Key × Document) → List String
  | [] => []
  | (k, v) :: rest => (k.quoted ++ ": " ++ quoted v) :: quotedEntries rest

end

/-- The text of a document; a text is its own text. -/
def display : Document → String
  | text s => s
  | d => d.quoted

mutual

/-- All integers in a document have few enough digits to be written. -/
def isWritable : Document → Bool
  | int n => Text.isWritable n
  | list items => areWritable items
  | mapping entries => entriesWritable entries
  | _ => true

def areWritable : List Document → Bool
  | [] => true
  | d :: rest => isWritable d && areWritable rest

def entriesWritable : List (Key × Document) → Bool
  | [] => true
  | (k, v) :: rest => k.isWritable && isWritable v && entriesWritable rest

end

/-- The text of a document, if it can be written. -/
def written? (d : Document) : Option String := if d.isWritable then some d.display else none

theorem written?_eq_some {d : Document} {s : String} :
    d.written? = some s ↔ d.isWritable = true ∧ d.display = s :=
  Option.ite_none_right_eq_some.trans (and_congr_right fun _ => Option.some_inj)

/-- How nested data is laid out: on one line, or with an indentation of so many blanks. -/
inductive Layout where
  | line
  | indented (width : Nat)

/-- What separates two items at a depth. -/
def Layout.separator : Layout → Nat → String
  | line, _ => ", "
  | indented w, depth => ",\n" ++ String.ofList (List.replicate (w * depth) ' ')

/-- What stands after an opening and before a closing bracket. -/
def Layout.margin : Layout → Nat → String
  | line, _ => ""
  | indented w, depth => "\n" ++ String.ofList (List.replicate (w * depth) ' ')

/-- A floating point number in JSON, with words for those that are not finite. -/
def jsonNumber : Binary64 → String
  | .infinite negative => if negative then "-Infinity" else "Infinity"
  | .undefined => "NaN"
  | x => x.text

/-- The key of an entry in JSON, where every key is a text. -/
def asciiKey : Key → String
  | .null => "null"
  | .bool b => if b then "true" else "false"
  | .int n => toString n
  | .float x => jsonNumber x
  | .text s => s

mutual

/-- A document as JSON in ASCII. -/
def asciiAt (layout : Layout) (depth : Nat) : Document → String
  | null => "null"
  | bool b => if b then "true" else "false"
  | int n => toString n
  | float x => jsonNumber x
  | text s => Text.ascii s
  | list [] => "[]"
  | list items =>
    "[" ++ layout.margin (depth + 1) ++
      (layout.separator (depth + 1)).intercalate (asciiItems layout (depth + 1) items) ++
      layout.margin depth ++ "]"
  | mapping [] => "\x7b\x7d"
  | mapping entries =>
    "\x7b" ++ layout.margin (depth + 1) ++
      (layout.separator (depth + 1)).intercalate (asciiEntries layout (depth + 1) entries) ++
      layout.margin depth ++ "\x7d"

def asciiItems (layout : Layout) (depth : Nat) : List Document → List String
  | [] => []
  | d :: rest => asciiAt layout depth d :: asciiItems layout depth rest

def asciiEntries (layout : Layout) (depth : Nat) : List (Key × Document) → List String
  | [] => []
  | (k, v) :: rest =>
    (Text.ascii (asciiKey k) ++ ": " ++ asciiAt layout depth v) :: asciiEntries layout depth rest

end

/-- A document as JSON in ASCII, from the left margin. -/
def ascii (layout : Layout) (d : Document) : String := asciiAt layout 0 d

end Document

end Sweep
