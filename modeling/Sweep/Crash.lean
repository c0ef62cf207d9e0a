import Sweep.Wait

/-!
# Crashes

Failures that no program handles: they leave the run altogether.  Some of them come from libraries, which
may fail in ways that nobody here knows.
-/

namespace Sweep

/-- A failure of a library: its kind, and what the library says. -/
structure Foreign where
  kind : String
  text : String
  deriving DecidableEq, Repr, Inhabited

/-- Failures that no program handles. -/
inductive Crash where
  /-- A negative scope number beyond the outermost scope. -/
  | noSuchScope
  /-- A negative position beyond the first instruction. -/
  | noInstruction
  /-- A time or a count that is no number: the kinds of the two operands of a division. -/
  | notANumber (left right : String)
  /-- A wait that cannot be planned or begun. -/
  | plan (e : PlanError)
  /-- A number that cannot be calculated, or has too many digits to be written. -/
  | number (e : NumberError)
  /-- A file name with a NUL character. -/
  | nulInName
  /-- A failure of a library. -/
  | foreign (e : Foreign)
  /-- A file operation that the system refused. -/
  | refused (code : Int) (text : String)
  /-- A wait without limit that did not end within its budget. -/
  | endless
  deriving DecidableEq, Repr

/-- The wording of a crash. -/
def Crash.message : Crash → String
  | noSuchScope => "list assignment index out of range"
  | noInstruction => "list index out of range"
  | notANumber left right =>
    "unsupported operand type(s) for /: '" ++ left ++ "' and '" ++ right ++ "'"
  | plan e => e.message
  | number e => e.message
  | nulInName => "embedded null byte"
  | foreign e => e.text
  | refused code text => "[Errno " ++ toString code ++ "] " ++ text
  | endless => "waiting without end"

end Sweep
