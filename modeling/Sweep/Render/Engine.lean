import Sweep.Crash
import Sweep.World.Disk

/-!
# Template engines

Templates are found and filled in by a library.  It is asked for a template by name, which it looks for in
the directories of a search path, and then for the text of that template with the values of some names.
Nothing else is known about it: an engine is any function of its search path, of the calls that were made
before, and of what it is asked for.  The answer may be that there is no such template, that the template or
its values are not as they should be, or any other failure.
-/

namespace Sweep

/-- A call of an engine. -/
inductive EngineCall where
  /-- A template was asked for by its name. -/
  | find (disk : Disk) (name : String)
  /-- The text of a template was asked for, with the values of some names. -/
  | render (disk : Disk) (name : String) (values : List (String × String))
  deriving Repr

/-- Why an engine has no answer. -/
inductive EngineError where
  /-- There is no such template. -/
  | missing (cause : String)
  /-- The template is not understood, or its values do not fit. -/
  | faulty (cause : String)
  /-- Anything else. -/
  | foreign (e : Foreign)
  deriving DecidableEq, Repr

/-- What finds templates and fills them in. -/
structure Engine where
  /-- Whether there is a template. -/
  find : (includes : List Pathname) → (before : List EngineCall) → Disk → (name : String) →
    Except EngineError Unit
  /-- The text of a template. -/
  render : (includes : List Pathname) → (before : List EngineCall) → Disk → (name : String) →
    (values : List (String × String)) → Except EngineError String

/-- There are no templates. -/
instance : Inhabited Engine :=
  ⟨⟨fun _ _ _ name => .error (.missing name), fun _ _ _ name _ => .error (.missing name)⟩⟩

end Sweep
