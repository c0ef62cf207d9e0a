import Sweep.Assoc
import Sweep.Number.Quantity

/-!
# Documents

A document is decoded data: null, a truth value, an integer, a floating point number, a text, a
list or a mapping.  Beds and settings arrive as documents.  The entries of a mapping keep the order
in which their keys were first written, because that order decides which names are met first and
which keyword of a statement counts.

The keys of a mapping need not be texts: `1` and `'1'` are two keys, although they look alike once
they are names.
-/

namespace Sweep

/-- A key of a mapping. -/
inductive Key where
  | null
  | bool (b : Bool)
  | int (n : Int)
  | float (x : Binary64)
  | text (s : String)
  deriving DecidableEq, Inhabited, Repr

instance : Coe String Key := ⟨Key.text⟩

namespace Key

/-- The text that a key is, if it is one. -/
def text? : Key → Option String
  | text s => some s
  | _ => none

/-- The key is one of some texts. -/
def isAmong (names : List String) (k : Key) : Bool := k.text?.any names.contains

end Key

/-- Decoded data. -/
inductive Document where
  | null
  | bool (b : Bool)
  | int (n : Int)
  | float (x : Binary64)
  | text (s : String)
  | list (items : List Document)
  | mapping (entries : List (Key × Document))
  deriving Inhabited, Repr

namespace Document

/-- The name of the kind of data, as messages give it. -/
def kind : Document → String
  | null => "NoneType"
  | bool _ => "bool"
  | int _ => "int"
  | float _ => "float"
  | text _ => "str"
  | list _ => "list"
  | mapping _ => "dict"

/-- Data counts as true unless it is null, false, zero or empty. -/
def isTruthy : Document → Bool
  | null => false
  | bool b => b
  | int n => n != 0
  | float x => x.isNonzero
  | text s => !s.isEmpty
  | list items => !items.isEmpty
  | mapping entries => !entries.isEmpty

def isNull : Document → Bool
  | null => true
  | _ => false

/-- The number that data stands for: truth counts as one or zero. -/
def quantity? : Document → Option Quantity
  | bool b => some (.whole (if b then 1 else 0))
  | int n => some (.whole n)
  | float x => some (.real x)
  | _ => none

/-- The entry of a text, if it is a key. -/
def entryAt? (entries : List (Key × Document)) (key : String) : Option Document :=
  Assoc.get? (Key.text key) entries

/-- The entry of a text, null when it is no key. -/
def entry (entries : List (Key × Document)) (key : String) : Document :=
  (entryAt? entries key).getD null

/-- A mapping from texts. -/
def ofFields (fields : List (String × Document)) : Document :=
  mapping (fields.map fun (name, d) => (.text name, d))

/-- The keys that are texts. -/
def textKeys (entries : List (Key × Document)) : List String := entries.filterMap (·.1.text?)

/-- Data that is not a list stands for the list that holds it. -/
def asList : Document → List Document
  | list items => items
  | d => [d]

end Document

/-- The data that a key is. -/
def Key.document : Key → Document
  | null => .null
  | bool b => .bool b
  | int n => .int n
  | float x => .float x
  | text s => .text s

end Sweep
