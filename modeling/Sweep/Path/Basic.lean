import Sweep.NameTable

/-!
# Paths

A path names a variable, may select one element of the list it holds, and may go on to a field:

    hosts            a variable
    hosts[0]         one element of it, by position
    hosts[pick]      one element of it, by the value at another path
    server.ports[1]  a field, here with a selection of its own

The type keeps the shape of the grammar: a step is a name with a selection, and a path is one step
or a step followed by a path.
-/

namespace Sweep

mutual

/-- A path through variables and fields. -/
inductive Path where
  /-- A name with a selection, and nothing after it. -/
  | last (var : NameId) (pick : Pick)
  /-- A name with a selection, then a field. -/
  | dot (var : NameId) (pick : Pick) (field : Path)

/-- Which part of a list is meant. -/
inductive Pick where
  /-- The whole value. -/
  | whole
  /-- The element at a position. -/
  | at (position : Nat)
  /-- The element that the value at a path selects. -/
  | by (key : Path)

end

deriving instance Repr, DecidableEq for Path, Pick
instance : Inhabited Path := ⟨.last 0 .whole⟩

namespace Path

/-- The name of the first step. -/
def var : Path → NameId
  | last x _ => x
  | dot x _ _ => x

/-- The selection of the first step. -/
def pick : Path → Pick
  | last _ p => p
  | dot _ p _ => p

/-- The path is a bare name. -/
def isBare : Path → Bool
  | last _ .whole => true
  | _ => false

end Path

mutual

/-- The text of a path. -/
def Path.describe (names : NameTable) : Path → String
  | .last x p => names.display x ++ p.describe names
  | .dot x p f => names.display x ++ p.describe names ++ "." ++ f.describe names

/-- The text of a selection, in brackets. -/
def Pick.describe (names : NameTable) : Pick → String
  | .whole => ""
  | .at n => "[" ++ toString n ++ "]"
  | .by key => "[" ++ key.describe names ++ "]"

end

mutual

/-- The positions that a path selects. -/
def Path.positions : Path → List Int
  | .last _ p => p.positions
  | .dot _ p f => p.positions ++ f.positions

/-- The positions in a selection. -/
def Pick.positions : Pick → List Int
  | .whole => []
  | .at n => [n]
  | .by key => key.positions

end

end Sweep
