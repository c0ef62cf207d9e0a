import Sweep.Assoc
import Sweep.Scope.AccessError
import Sweep.Value

/-!
# Scopes

Variables live on a stack of scopes.  The stack is a list with the outermost scope first, so the
number of a scope is its position.  Reading looks from the innermost scope outward; binding without
a scope goes to the innermost one.
-/

namespace Sweep

/-- The bindings of one scope, in the order in which they were made. -/
abbrev Scope := List (NameId × Value)

/-- The stack of scopes, outermost first. -/
abbrev Scopes := List Scope

namespace Scopes

/-- An empty scope on top. -/
def push (s : Scopes) : Scopes := s ++ [[]]

/-- Without the innermost scope. -/
def pop (s : Scopes) : Scopes := s.dropLast

/-- Without the scopes beyond a depth. -/
def truncate (depth : Nat) (s : Scopes) : Scopes := s.take depth

/-- The innermost binding of a variable at or above a position of the stack: where, and what. -/
def findFrom (x : NameId) (start : Nat) : Scopes → Option (Nat × Value)
  | [] => none
  | scope :: inner =>
    match findFrom x (start + 1) inner with
    | some r => some r
    | none => (Assoc.get? x scope).map (start, ·)

/-- The innermost binding of a variable: the number of its scope, and the value. -/
def lookup (s : Scopes) (x : NameId) : Except ReadError (Nat × Value) :=
  match findFrom x 0 s with
  | some r => .ok r
  | none => .error (.access (.missingVariable x))

/-- The scope with a number; negative numbers have none. -/
def scopeAt? (s : Scopes) : Int → Option Scope
  | .ofNat n => s[n]?
  | .negSucc _ => none

/-- What a variable is bound to in one given scope. -/
def binding (s : Scopes) (scope : Int) (x : NameId) : Except ReadError Value :=
  match (s.scopeAt? scope).bind (Assoc.get? x) with
  | some v => .ok v
  | none => .error (.access (.missingVariable x))

/-- Write a binding of the scope with a number, which exists. -/
def write (s : Scopes) (n : Nat) (x : NameId) (v : Value) : Scopes := s.modify n (Assoc.set x v)

/-- Bind in the innermost scope; an empty stack gets a scope first. -/
def bind (s : Scopes) (x : NameId) (v : Value) : Scopes :=
  match s with
  | [] => [Assoc.set x v []]
  | _ => s.write (s.length - 1) x v

/-- The stack with empty scopes added until the scope with a number exists. -/
def grow (s : Scopes) (n : Nat) : Scopes := s ++ List.replicate (n + 1 - s.length) []

/-- Bind in the scope with a number, adding scopes as needed.  A negative number counts from the
innermost scope outward and has to hit an existing scope. -/
def bindAt? (s : Scopes) (scope : Int) (x : NameId) (v : Value) : Option Scopes :=
  match scope with
  | .ofNat n => some ((s.grow n).write n x v)
  | .negSucc k => if k < s.length then some (s.write (s.length - 1 - k) x v) else none

/-- Overwrite a binding that exists: the innermost one, or the one of a given scope. -/
def assign (s : Scopes) (x : NameId) (v : Value) : Option Int → Except ReadError Scopes
  | none => do
    let (n, _) ← s.lookup x
    return s.write n x v
  | some scope =>
    match scope, (s.scopeAt? scope).bind (Assoc.get? x) with
    | .ofNat n, some _ => .ok (s.write n x v)
    | _, _ => .error (.access (.missingVariable x))

/-- A reference to the innermost binding of a variable. -/
def refTo (s : Scopes) (x : NameId) (offset : Int) : Except ReadError Value := do
  let (n, _) ← s.lookup x
  return .ref n x offset

/-- Append to a list in the outermost scope, which is made if there is none. -/
def yield (s : Scopes) (x : NameId) (v : Value) : Scopes :=
  match s with
  | [] => [[(x, .list [v])]]
  | root :: inner =>
    match Assoc.get? x root with
    | some (.list items) => Assoc.set x (.list (items ++ [v])) root :: inner
    | _ => Assoc.set x (.list [v]) root :: inner

/-- A stack in short: its depth, and how many names are known. -/
def summary (s : Scopes) (names : NameTable) : String :=
  "ProgramState(depth=" ++ toString s.length ++ ", names=" ++ toString names.size ++ ")"

end Scopes

end Sweep
