import Sweep.Child.Status
import Sweep.Text.Fit

/-!
# The status line of a child

Every child has a line with its label and the latest line of its output.  A flag in front of the
label says that a stream could not be written to its file.  Once a final state is set, it is the
message for good, and later messages are ignored; flags are still set.
-/

namespace Sweep

/-- One of the two output streams of a child. -/
inductive Channel where
  | stdout
  | stderr
  deriving DecidableEq, Repr

def Channel.name : Channel → String
  | stdout => "stdout"
  | stderr => "stderr"

/-- The line of one child. -/
structure StatusLine where
  label : String
  stdoutLost : Bool := false
  stderrLost : Bool := false
  message : String := ""
  final : Option Status := none
  deriving DecidableEq, Repr, Inhabited

namespace StatusLine

/-- Columns that are taken by the spinner. -/
def margin : Nat := 3

/-- The label with its flags. -/
def flagged (l : StatusLine) : String :=
  let flags := (if l.stdoutLost then ["!stdout"] else []) ++ (if l.stderrLost then ["!stderr"] else [])
  if flags.isEmpty then l.label else " ".intercalate flags ++ ": " ++ l.label

/-- Flag a stream that is shown on the line instead of going to its file. -/
def flag (l : StatusLine) : Channel → StatusLine
  | .stdout => { l with stdoutLost := true }
  | .stderr => { l with stderrLost := true }

/-- A new line of output. -/
def say (l : StatusLine) (message : String) : StatusLine :=
  if l.final.isSome then l else { l with message }

/-- A new state; only the first final one counts. -/
def settle (l : StatusLine) (s : Status) : StatusLine :=
  if s.isFinal && l.final.isNone then { l with final := some s, message := s.text } else l

/-- What a terminal of some width shows. -/
def shown (l : StatusLine) (width : Int) : String × String :=
  Text.fit l.flagged l.message (max width margin - margin)

end StatusLine

end Sweep
