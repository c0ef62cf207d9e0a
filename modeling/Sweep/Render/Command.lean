import Sweep.Expression

/-!
# Commands that render files

A template program builds structs whose base and fields may be rendered files: rendering writes a
file and stands for its path.  The result is bound in the current scope, or appended to a list in
the outermost one.
-/

namespace Sweep

/-- Render a template under a name of the output directory; stands for the path of the file. -/
structure Build where
  template : Interpolation
  output : Interpolation
  deriving Repr

/-- The base of a built struct. -/
inductive BuiltBase where
  | text (t : Interpolation)
  | file (b : Build)
  deriving Repr

/-- A field of a built struct. -/
inductive BuiltField where
  | value (e : Expr)
  | file (b : Build)
  deriving Repr

/-- A struct whose base and fields may be rendered files. -/
structure BuiltExpr where
  base : BuiltBase
  fields : List (NameId × BuiltField) := []
  deriving Repr

/-- What a template command puts somewhere. -/
inductive Product where
  | built (b : BuiltExpr)
  | plain (e : Expr)
  deriving Repr

/-- A command of a template program. -/
inductive RenderCommand where
  /-- Bind in the current scope. -/
  | bind (output : NameId) (object : BuiltExpr)
  /-- Append to a list in the outermost scope. -/
  | yield (output : NameId) (object : Product)
  deriving Repr

namespace Build

def describe (names : NameTable) (b : Build) : String :=
  "build(" ++ b.template.describe names ++ ", " ++ b.output.describe names ++ ")"

end Build

namespace BuiltExpr

def describeBase (names : NameTable) : BuiltBase → String
  | .text t => t.describe names
  | .file b => b.describe names

def describeField (names : NameTable) : NameId × BuiltField → String
  | (x, .value e) => names.display x ++ ": " ++ e.describe names
  | (x, .file b) => names.display x ++ ": " ++ b.describe names

def describe (names : NameTable) (b : BuiltExpr) : String :=
  Expr.describeWith (describeBase names b.base) (b.fields.map (describeField names))

end BuiltExpr

def Product.describe (names : NameTable) : Product → String
  | built b => b.describe names
  | plain e => e.describe names

def RenderCommand.describe (names : NameTable) : RenderCommand → String
  | bind x b => "build " ++ names.display x ++ " = " ++ b.describe names
  | yield x p => "yield " ++ names.display x ++ " <- " ++ p.describe names

end Sweep
