import Sweep.Duration
import Sweep.Estimator

/-!
# Meters of loop variables

A meter shows how far a loop variable has come: position and total, the time that is left, the time that
was taken, and a message.  Whatever changes is told to an estimator, from which the two times come.
-/

namespace Sweep

/-- The meter of one loop variable. -/
structure Meter where
  name : String
  total : Int
  position : Int := 0
  message : String := ""
  /-- What was told about the loop. -/
  tally : Tally
  deriving Repr, DecidableEq

namespace Meter

/-- A new meter. -/
def new (name : String) (total : Int) (now : Nat) : Meter :=
  { name, total, tally := { name, total, started := now } }

/-- A new position. -/
def set (m : Meter) (position : Int) (now : Nat) : Meter :=
  { m with position, tally := m.tally.tell now (.position position) }

/-- A new total. -/
def setTotal (m : Meter) (total : Int) (now : Nat) : Meter :=
  { m with total, tally := m.tally.tell now (.total total) }

/-- A new message. -/
def say (m : Meter) (message : String) (now : Nat) : Meter :=
  { m with message, tally := m.tally.tell now (.message message) }

/-- All steps are made, and the time is stopped. -/
def finish (m : Meter) (now : Nat) : Meter :=
  { m with tally := (m.tally.tell now (.position m.total)).tell now .stopped }

/-- The meter on one line: name, position and total, time left, time taken, message. -/
def summary (e : Estimator) (m : Meter) (now : Nat) : Except Crash String := do
  let left ← (e.left m.tally now).mapError .foreign
  let taken ← (e.taken m.tally now).mapError .foreign
  let position ← (integerText m.position).mapError .number
  let total ← (integerText m.total).mapError .number
  let left ← (durationText left).mapError .number
  let taken ← (durationText taken).mapError .number
  return m.name ++ " " ++ position ++ "/" ++ total ++ " " ++ left ++ " : " ++ taken ++ " " ++ m.message

end Meter

end Sweep
