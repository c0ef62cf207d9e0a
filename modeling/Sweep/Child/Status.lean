/-!
# The state of a child

A child runs until it reaches one of four final states: it was killed, it finished, it failed with
an exit code (none when a signal ended it), or the system refused to poll or kill it.
-/

namespace Sweep

/-- The state of a child. -/
inductive Status where
  | running
  | killed
  | error (text : Option String)
  | failed (code : Option Int)
  | finished
  deriving DecidableEq, Repr, Inhabited

namespace Status

def isFinal : Status → Bool
  | running => false
  | _ => true

/-- What is said when something is not known. -/
def unknown : String := "None"

/-- The text of a state. -/
def text : Status → String
  | running => "Running"
  | killed => "Killed"
  | error t => "Error(" ++ t.getD unknown ++ ")"
  | failed c => "Failed(" ++ (c.map toString).getD unknown ++ ")"
  | finished => "Finished"

/-- The state of a child that has exited: codes below zero are signals. -/
def ofExit (code : Int) : Status :=
  if code = 0 then finished else failed (if 0 < code then some code else none)

end Status

end Sweep
