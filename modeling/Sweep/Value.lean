import Sweep.NameTable

/-!
# Run-time values

A value is one of four shapes: a counter over a half-open range of integers with a position, a
reference to a binding of some scope, a struct with a base text and named fields, or a list.  A
reference says where its target is bound and which element of it is meant; it never holds the
target itself.
-/

namespace Sweep

/-- A value that a variable can hold. -/
inductive Value where
  /-- The integers from `start` up to `stop`, at the position `offset` from the start. -/
  | counter (start stop offset : Int)
  /-- Element `offset` of what `target` is bound to in the scope with a number. -/
  | ref (scope : Int) (target : NameId) (offset : Int)
  /-- A text with named fields. -/
  | struct (base : String) (fields : List (NameId × Value))
  | list (items : List Value)
  deriving Repr, Inhabited

namespace Value

/-- A struct without fields. -/
def ofText (base : String) : Value := .struct base []

def isRef : Value → Bool
  | ref .. => true
  | _ => false

/-- How many integers a half-open range holds. -/
def span (start stop : Int) : Nat := (stop - start).toNat

/-- The number of iteration steps over a value that is not a reference. -/
def steps : Value → Nat
  | list items => items.length
  | counter start stop _ => span start stop
  | _ => 1

/-- Append to the list that is reached by positions from here; any other shape is left alone. -/
def appendAt (item : Value) : List Nat → Value → Value
  | [], .list items => .list (items ++ [item])
  | i :: rest, .list items => .list (items.modify i (appendAt item rest))
  | _, v => v

mutual

/-- No reference anywhere in the value. -/
def refFree : Value → Bool
  | counter .. => true
  | ref .. => false
  | struct _ fields => refFreeFields fields
  | list items => refFreeItems items

def refFreeItems : List Value → Bool
  | [] => true
  | v :: rest => refFree v && refFreeItems rest

def refFreeFields : List (NameId × Value) → Bool
  | [] => true
  | (_, v) :: rest => refFree v && refFreeFields rest

end

end Value

end Sweep
