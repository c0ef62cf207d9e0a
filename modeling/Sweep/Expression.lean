import Sweep.Interpolation
import Sweep.Scope.Resolve

/-!
# Expressions

An expression builds a fresh value from the visible variables: a struct with a base text and
fields, a list, a counter between two bounds, or a copy of the value at a path.  Evaluation only
reads the scopes.  Fields that are written twice keep the first place and the last value.
-/

namespace Sweep

/-- A bound of a range: a number, or a text that is read as one. -/
inductive Bound where
  | fixed (n : Int)
  | computed (text : Interpolation)
  deriving Repr, DecidableEq

/-- An expression for a value. -/
inductive Expr where
  | struct (base : Interpolation) (fields : List (NameId × Expr))
  | list (items : List Expr)
  | range (start stop : Bound)
  | copy (path : Path)
  deriving Repr, Inhabited

namespace Interpolation

/-- The text of a part. -/
def evalPart (s : Scopes) : Part → Except ReadError String
  | .literal text => .ok text
  | .hole path => s.resolveText path

/-- The text, with the paths replaced by what they resolve to. -/
def eval (s : Scopes) (parts : Interpolation) : Except ReadError String := do
  return String.join (← parts.mapM (evalPart s))

end Interpolation

namespace Bound

/-- The number of a bound; a computed text may have white space around it. -/
def eval (s : Scopes) : Bound → Except ReadError Int
  | fixed n => .ok n
  | computed parts => do
    let text ← parts.eval s
    match Text.integer? (Text.strip text.toList) with
    | some n => return n
    | none => throw (.access (.boundText text))

def describe (names : NameTable) : Bound → String
  | fixed n => toString n
  | computed parts => parts.describe names

end Bound

namespace Expr

mutual

/-- The value of an expression. -/
def eval (s : Scopes) : Expr → Except ReadError Value
  | struct base fields => do
    let text ← base.eval s
    return .struct text (Assoc.ofList (← evalFields s fields))
  | list items => do return .list (← evalItems s items)
  | range start stop => do return .counter (← start.eval s) (← stop.eval s) 0
  | copy path => s.resolve path

def evalItems (s : Scopes) : List Expr → Except ReadError (List Value)
  | [] => .ok []
  | e :: rest => do return (← eval s e) :: (← evalItems s rest)

def evalFields (s : Scopes) : List (NameId × Expr) → Except ReadError (List (NameId × Value))
  | [] => .ok []
  | (x, e) :: rest => do return (x, ← eval s e) :: (← evalFields s rest)

end

/-- A base with fields in braces; without fields the base alone. -/
def describeWith (base : String) (fields : List String) : String :=
  if fields.isEmpty then base else base ++ " \x7b" ++ ", ".intercalate fields ++ "\x7d"

mutual

/-- The text of an expression. -/
def describe (names : NameTable) : Expr → String
  | struct base fields => describeWith (base.describe names) (describeFields names fields)
  | list items => "[" ++ ", ".intercalate (describeItems names items) ++ "]"
  | range start stop => "range(" ++ start.describe names ++ ", " ++ stop.describe names ++ ")"
  | copy path => "ref " ++ path.describe names

def describeItems (names : NameTable) : List Expr → List String
  | [] => []
  | e :: rest => describe names e :: describeItems names rest

def describeFields (names : NameTable) : List (NameId × Expr) → List String
  | [] => []
  | (x, e) :: rest => (names.display x ++ ": " ++ describe names e) :: describeFields names rest

end

end Expr

end Sweep
