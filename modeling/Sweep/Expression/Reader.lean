import Sweep.Document.Display
import Sweep.Expression

/-!
# Reading expressions

The value of a binding is written as a document:

    scalar                    a struct with that base; true and false as texts, null as no text
    [a, b]                    a list
    {range: [start, end]}     a counter
    {ref: path}               a copy of the value at a path
    {base: s, field: value}   a struct with fields

Fields are interned where they are met, before the values under them.
-/

namespace Sweep

/-- The text of a scalar, if it can be written. -/
def Document.scalarText? : Document → Option String
  | .bool b => some (if b then "true" else "false")
  | .null => some ""
  | d => d.written?

namespace Bound

/-- A bound is an integer or an interpolated text. -/
def read (location : String) : Document → Reading Bound
  | .bool _ => Reading.stop location .boundIsTruth
  | .int n => return .fixed n
  | .text s => return .computed (← Interpolation.read location s)
  | d => Reading.stop location (.boundKind d.kind)

/-- The two bounds of a range. -/
def readPair (location : String) : Document → Reading (Bound × Bound)
  | .list [a, b] => do return (← read location a, ← read location b)
  | _ => Reading.stop location .boundCount

end Bound

namespace Expr

/-- Read the text of a scalar. -/
def readScalar (location : String) (d : Document) : Reading Interpolation := do
  Interpolation.read location (← Reading.written d.scalarText?)

/-- Read a path from data. -/
def readPath (location : String) (d : Document) : Reading Path := do
  Path.ofString location (← Reading.written d.written?)

mutual

/-- Read a value. -/
def read (location : String) : Document → Reading Expr
  | .list items => do return .list (← readItems location 0 items)
  | .mapping entries =>
    match Document.entryAt? entries "range", Document.entryAt? entries "ref",
      Document.entryAt? entries "base" with
    | some bounds, _, _ => do
      if entries.length ≠ 1 then Reading.stop location .rangeAlone
      let (a, b) ← Bound.readPair location bounds
      return .range a b
    | none, some path, _ => do
      if entries.length ≠ 1 then Reading.stop location .refAlone
      return .copy (← readPath location path)
    | none, none, some base => do
      let text ← readScalar (location ++ ".base") base
      return .struct text (← readFields location entries)
    | none, none, none => Reading.stop location .valueForm
  | d => do return .struct (← readScalar location d) []

def readItems (location : String) (i : Nat) : List Document → Reading (List Expr)
  | [] => return []
  | d :: rest => do
    let e ← read (location ++ "[" ++ toString i ++ "]") d
    return e :: (← readItems location (i + 1) rest)

/-- The fields of a struct: every entry but the base. -/
def readFields (location : String) : List (Key × Document) → Reading (List (NameId × Expr))
  | [] => return []
  | (key, d) :: rest =>
    if key = .text "base" then readFields location rest
    else do
      let name ← Reading.written key.written?
      let x ← Reading.intern name
      let e ← read (location ++ "." ++ name) d
      return (x, e) :: (← readFields location rest)

end

end Expr

end Sweep
