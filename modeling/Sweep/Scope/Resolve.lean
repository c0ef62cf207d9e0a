import Sweep.Scope.Basic
import Sweep.Text.Integer

/-!
# Resolution of references and paths

A reference stands for an element of what its target resolves to.  Chains of references are
followed at most 64 deep, so resolution ends on every stack, cyclic ones included.  `locate` gives,
besides the value, the place where it is stored: pushing to a list through loop variables changes
the list where it is.

A path is resolved from left to right: the variable, its selection, then field after field.  A
selection by key takes the text at the key path; a text that is an integer is a position, any other
text names the first element whose base it is.

A failure whose wording names a number needs the text of the number, and so does the text of a counter: an
integer that has too many digits to be written is an error of its own.
-/

namespace Sweep

/-- The longest chain of references that is followed. -/
def chainLimit : Nat := 64

/-- Where a value is stored: a binding, and positions in the lists inside it. -/
structure Place where
  scope : Nat
  var : NameId
  positions : List Nat
  deriving DecidableEq, Repr

namespace Place

/-- The place of an element. -/
def element (p : Place) (i : Nat) : Place := { p with positions := p.positions ++ [i] }

end Place

namespace Value

/-- Element `offset` of a value that is no reference. -/
def select (offset : Int) : Value → Except ReadError Value
  | .list items =>
    match if 0 ≤ offset then items[offset.toNat]? else none with
    | some v => .ok v
    | none => .error (.telling [offset, items.length] (.listRange offset items.length))
  | .counter start stop _ =>
    if 0 ≤ offset ∧ offset < span start stop then .ok (.counter start stop offset)
    else .error (.telling [offset, span start stop] (.counterRange offset (span start stop)))
  | v => if offset = 0 then .ok v else .error (.telling [offset] (.singleValue offset))

/-- Where element `offset` of a value is stored, given where the value is. -/
def selectPlace (offset : Int) (v : Value) (p : Option Place) : Option Place :=
  match v with
  | .list _ => p.map (·.element offset.toNat)
  | .counter .. => none
  | _ => p

end Value

namespace Scopes

/-- Follow a chain of references within a budget. -/
def derefWithin (s : Scopes) : (budget : Nat) → Value → Except ReadError Value
  | budget + 1, .ref scope target offset => do
    let bound ← s.binding scope target
    let whole ← s.derefWithin budget bound
    let part ← whole.select offset
    s.derefWithin budget part
  | 0, .ref .. => .error (.access .tooDeep)
  | _, v => .ok v

/-- The value behind a chain of references. -/
def deref (s : Scopes) (v : Value) : Except ReadError Value := s.derefWithin chainLimit v

/-- The value behind a chain of references, with the place where it is stored. -/
def locateWithin (s : Scopes) :
    (budget : Nat) → Option Place → Value → Except ReadError (Option Place × Value)
  | budget + 1, _, .ref scope target offset => do
    let bound ← s.binding scope target
    let (place, whole) ← s.locateWithin budget (some ⟨scope.toNat, target, []⟩) bound
    let part ← whole.select offset
    s.locateWithin budget (whole.selectPlace offset place) part
  | 0, _, .ref .. => .error (.access .tooDeep)
  | _, place, v => .ok (place, v)

/-- The text of a value: the base of a struct or the number a counter is at. -/
def textOf (s : Scopes) (v : Value) : Except ReadError String := do
  match ← s.deref v with
  | .struct base _ => return base
  | .counter start _ offset => ReadError.textOf (start + offset)
  | _ => throw (.access .listText)

/-- The element at a position of a list. -/
def elementAt (s : Scopes) (items : List Value) (position : Int) : Except ReadError Value :=
  match if 0 ≤ position then items[position.toNat]? else none with
  | some v => s.deref v
  | none => throw (.telling [position, items.length] (.listRange position items.length))

/-- The first element that is a struct with the base asked for. -/
def elementNamed (s : Scopes) (key : String) : List Value → Except ReadError Value
  | [] => throw (.access (.noElement key))
  | v :: rest => do
    match ← s.deref v with
    | .struct base fields => if base = key then return .struct base fields else elementNamed s key rest
    | _ => elementNamed s key rest

/-- The element that a key selects. -/
def elementBy (s : Scopes) (items : List Value) (key : String) : Except ReadError Value :=
  match Text.integerOf? key with
  | some position => s.elementAt items position
  | none => s.elementNamed key items

/-- The innermost binding of a variable, behind its references. -/
def valueOf (s : Scopes) (x : NameId) : Except ReadError Value := do
  let (_, v) ← s.lookup x
  s.deref v

/-- The field of a struct, behind its references. -/
def fieldOf (s : Scopes) (field : NameId) : Value → Except ReadError Value
  | .struct _ fields =>
    match Assoc.get? field fields with
    | some v => s.deref v
    | none => throw (.access (.missingField field))
  | _ => throw (.access (.fieldOfOther field))

mutual

/-- Apply the selections and fields of a path to the value of its first name. -/
def project (s : Scopes) : Path → Value → Except ReadError Value
  | .last _ pick, v => s.choose pick v
  | .dot _ pick field, v => do
    let whole ← s.choose pick v
    let part ← s.fieldOf field.var whole
    s.project field part

/-- Apply a selection. -/
def choose (s : Scopes) : Pick → Value → Except ReadError Value
  | .whole, v => .ok v
  | .at n, .list items => s.elementAt items n
  | .by key, .list items => do
    let start ← s.valueOf key.var
    let text ← s.textOf (← s.project key start)
    s.elementBy items text
  | _, _ => throw (.access .notAList)

end

/-- The value at a path; never a reference. -/
def resolve (s : Scopes) (p : Path) : Except ReadError Value := do
  s.project p (← s.valueOf p.var)

/-- The struct at a path. -/
def resolveStruct (s : Scopes) (p : Path) :
    Except ReadError (String × List (NameId × Value)) := do
  match ← s.resolve p with
  | .struct base fields => return (base, fields)
  | _ => throw (.telling p.positions (.pathNotStruct p))

/-- The text at a path. -/
def resolveText (s : Scopes) (p : Path) : Except ReadError String := do
  s.textOf (← s.resolve p)

/-- Append to the list at a place. -/
def appendAt (s : Scopes) (p : Place) (v : Value) : Scopes :=
  s.modify p.scope fun scope =>
    match Assoc.get? p.var scope with
    | some stored => Assoc.set p.var (Value.appendAt v p.positions stored) scope
    | none => scope

/-- Append to the list that a variable resolves to, where that list is stored. -/
def pushTo (s : Scopes) (x : NameId) (v : Value) : Except ReadError Scopes := do
  let (n, bound) ← s.lookup x
  match ← s.locateWithin chainLimit (some ⟨n, x, []⟩) bound with
  | (some place, .list _) => return s.appendAt place v
  | (none, .list _) => return s
  | _ => throw (.access (.variableNotList x))

/-- The texts of a spread path: the bases of a list, the numbers of a counter, or one base. -/
def spread (s : Scopes) (p : Path) : Except ReadError (List String) := do
  match ← s.resolve p with
  | .counter start stop _ =>
    (List.range (Value.span start stop)).mapM fun (i : Nat) => ReadError.textOf (start + i)
  | .struct base _ => return [base]
  | .list items =>
    items.mapM fun item => do
      match ← s.deref item with
      | .struct base _ => return base
      | _ => throw (.telling p.positions (.spreadElement p))
  | .ref .. => return []

/-- Add the bindings of one scope to the visible texts: a list hides the name. -/
def addVisible (s : Scopes) (seen : List (NameId × String)) :
    Scope → Except ReadError (List (NameId × String))
  | [] => .ok seen
  | (x, v) :: rest => do
    match ← s.deref v with
    | .list _ => s.addVisible (Assoc.erase x seen) rest
    | w => s.addVisible (Assoc.set x (← s.textOf w) seen) rest

/-- The visible variables as texts; an inner binding wins, and lists are left out. -/
def visibleTexts (s : Scopes) : Except ReadError (List (NameId × String)) :=
  s.foldlM (fun seen scope => s.addVisible seen scope) []

end Scopes

end Sweep
