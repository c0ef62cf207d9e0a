import Sweep.Crash

/-!
# Estimators

How long a loop has taken, and how long it is going to take, is for a library to say.  It is told when a loop
begins and what becomes of it, and from what it was told it makes an estimate when it is asked.  Nothing
else is known about it: an estimator is any function of what it was told so far, and it may fail.
-/

namespace Sweep

/-- What an estimator is told about a loop. -/
inductive Notice where
  | position (n : Int)
  | total (n : Int)
  | message (text : String)
  /-- No more time is to be counted. -/
  | stopped
  deriving DecidableEq, Repr

/-- A loop as estimators know it: how it began, in microseconds, and what was told about it since. -/
structure Tally where
  name : String
  total : Int
  started : Nat
  notices : List (Nat × Notice) := []
  deriving DecidableEq, Repr

/-- Tell something at an instant. -/
def Tally.tell (t : Tally) (now : Nat) (n : Notice) : Tally :=
  { t with notices := t.notices ++ [(now, n)] }

/-- What makes estimates about loops, in seconds, at an instant. -/
structure Estimator where
  /-- The time that is left, if it can be told. -/
  left : Tally → Nat → Except Foreign (Option Quantity)
  /-- The time that was taken. -/
  taken : Tally → Nat → Except Foreign (Option Quantity)

/-- Nothing can be told. -/
instance : Inhabited Estimator := ⟨⟨fun _ _ => .ok none, fun _ _ => .ok none⟩⟩

end Sweep
