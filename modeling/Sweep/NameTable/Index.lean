import Sweep.Assoc
import Sweep.NameTable

/-!
# Names that are kept twice

A table of names finds the number of a name by a search through its list.  An index keeps the names
twice instead: in a map, which has the number of every name, and in a list, which has the name of
every number.  Each call of `intern` has to write to both of them or to none, so that they stay in
step.
-/

namespace Sweep

/-- The names interned so far, with a map from each name to its number beside their list. -/
structure NameIndex where
  ids : List (String × NameId) := []
  names : List String := []
  deriving Repr, Inhabited, DecidableEq

namespace NameIndex

/-- The number of a name.  On first use it is the next free number, which goes into the map while
the name goes to the end of the list. -/
def intern (x : NameIndex) (name : String) : NameId × NameIndex :=
  match Assoc.get? name x.ids with
  | some id => (id, x)
  | none => (x.names.length, ⟨Assoc.set name x.names.length x.ids, x.names ++ [name]⟩)

/-- Intern names one after the other. -/
def internAll (x : NameIndex) (calls : List String) : NameIndex :=
  calls.foldl (fun y name => (y.intern name).2) x

end NameIndex

end Sweep
