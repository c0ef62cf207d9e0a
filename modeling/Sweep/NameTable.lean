/-!
# Interned names

Every variable and field name of a bed is interned once: it gets the next free number, keeps it for
the life of the bed, and no number is used twice.  The table is the list of the names in the order
of their first use, so the number of a name is its position (`nameOf?_of_idOf?`, `nameOf?_intern`),
and that does not change any more (`intern_extends`).
-/

namespace Sweep

/-- The number of an interned name. -/
abbrev NameId := Nat

/-- The names interned so far, in the order of first use. -/
structure NameTable where
  names : List String := []
  deriving Repr, Inhabited, DecidableEq

namespace NameTable

/-- No name is interned yet. -/
def empty : NameTable := {}

/-- How many names are interned. -/
def size (t : NameTable) : Nat := t.names.length

/-- The number of a name, if it is interned. -/
def idOf? (t : NameTable) (name : String) : Option NameId := t.names.idxOf? name

/-- The name with a number, if there is one. -/
def nameOf? (t : NameTable) (id : NameId) : Option String := t.names[id]?

def contains (t : NameTable) (name : String) : Bool := t.names.contains name

/-- The number of a name, which is added at the end on first use. -/
def intern (t : NameTable) (name : String) : NameId × NameTable :=
  match t.idOf? name with
  | some id => (id, t)
  | none => (t.size, ⟨t.names ++ [name]⟩)

/-- The name with a number as people read it; a number without a name shows as `#` and itself. -/
def display (t : NameTable) (id : NameId) : String :=
  (t.nameOf? id).getD ("#" ++ toString id)

/-- The text for any number whatever, also a negative one. -/
def displayInt (t : NameTable) : Int → String
  | .ofNat id => t.display id
  | id => "#" ++ toString id

/-- A later table keeps every number of an earlier one. -/
def Extends (later earlier : NameTable) : Prop := earlier.names <+: later.names

theorem Extends.refl (t : NameTable) : t.Extends t := List.prefix_refl _

theorem Extends.trans {a b c : NameTable} (h₁ : c.Extends b) (h₂ : b.Extends a) : c.Extends a :=
  List.IsPrefix.trans h₂ h₁

theorem intern_extends (t : NameTable) (name : String) : (t.intern name).2.Extends t := by
  unfold intern
  split
  · exact .refl t
  · exact List.prefix_append _ _

theorem nameOf?_of_idOf? {t : NameTable} {name : String} {id : NameId} (h : t.idOf? name = some id) :
    t.nameOf? id = some name := by
  simp only [idOf?, List.idxOf?, List.findIdx?_eq_some_iff_getElem] at h
  obtain ⟨hlt, heq, _⟩ := h
  simp [nameOf?, hlt, eq_of_beq heq]

theorem nameOf?_intern (t : NameTable) (name : String) :
    (t.intern name).2.nameOf? (t.intern name).1 = some name := by
  unfold intern
  split
  · next id h => exact nameOf?_of_idOf? h
  · simp [nameOf?, size]

end NameTable

end Sweep
