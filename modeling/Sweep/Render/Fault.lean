/-!
# Failures of rendering

A template that is not found, not understood or not saved is a failure of that one file: it is
reported, and the program goes on.
-/

namespace Sweep

/-- The three ways in which a file fails to be rendered. -/
inductive RenderStage where
  | find
  | render
  | save
  deriving DecidableEq, Repr

/-- What is said about each of them. -/
def RenderStage.wording : RenderStage → String
  | find => "template not found"
  | render => "failed to render template"
  | save => "failed to save render"

/-- A file that was not rendered. -/
structure RenderFault where
  template : String
  /-- The file that was to be written. -/
  output : String
  stage : RenderStage
  /-- What the search path, the reader of templates or the system says. -/
  cause : String
  deriving DecidableEq, Repr

namespace RenderFault

def message (f : RenderFault) : String :=
  "Template `" ++ f.template ++ "` -> `" ++ f.output ++ "` " ++ f.stage.wording ++ ": " ++ f.cause

end RenderFault

end Sweep
