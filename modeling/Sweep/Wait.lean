import Sweep.Number.Quantity

/-!
# Bounded waits

A wait asks a question again and again until the answer is yes or its time is over.  Between two
questions it sleeps for an interval, but never past the deadline, and it asks once more at the
deadline itself.

What is waited for lives in some world with a clock (`Clocked`): sleeping moves the clock, and
asking may change the world.  A wait without deadline is driven by a budget of questions; using it
up is an answer of its own.
-/

namespace Sweep

/-- A world with a clock of whole microseconds that moves when somebody sleeps. -/
class Clocked (ω : Type) where
  now : ω → Nat
  sleep : Nat → ω → ω

/-- How to wait: a time in milliseconds, or no limit, and the milliseconds between questions. -/
structure WaitPlan where
  duration : Option Quantity
  interval : Quantity
  deriving DecidableEq, Repr

/-- Why a wait cannot be planned or begun. -/
inductive PlanError where
  | interval
  | pollCount
  /-- The interval or the deadline cannot be calculated. -/
  | number (e : NumberError)
  deriving DecidableEq, Repr

def PlanError.message : PlanError → String
  | interval => "sleep interval must be positive"
  | pollCount => "poll count must be positive"
  | number e => e.message

namespace WaitPlan

/-- The usual interval, in milliseconds. -/
def usualInterval : Quantity := .whole 100

/-- Wait for a time, asking at the usual interval. -/
def lasting (duration : Option Quantity) : WaitPlan := ⟨duration, usualInterval⟩

/-- Wait for a time, asking at some interval. -/
def every (duration : Option Quantity) (interval : Quantity) : Except PlanError WaitPlan :=
  if interval.isAtMostZero then .error .interval else .ok ⟨duration, interval⟩

/-- Spread a number of questions over a time; the interval rounds up to whole milliseconds. -/
def spread (duration polls : Quantity) : Except PlanError WaitPlan :=
  if polls.isAtMostZero then .error .pollCount
  else
    match (duration.divide polls).bind Binary64.ceiling with
    | .ok n => .ok ⟨some duration, .whole (max 1 n)⟩
    | .error e => .error (.number e)

/-- The time of a plan as text. -/
def timeText (p : WaitPlan) : String := (p.duration.map Quantity.text).getD "None"

/-- A time and an interval in short. -/
def summaryOf (time interval : String) : String :=
  "TimeoutLoop(duration_ms=" ++ time ++ ", sleep_ms=" ++ interval ++ ")"

/-- A plan in short. -/
def summary (p : WaitPlan) : String := summaryOf p.timeText p.interval.text

/-- A number of milliseconds is small enough to be counted in seconds. -/
def inSeconds (q : Quantity) : Except PlanError Binary64 :=
  q.seconds.mapError .number

/-- When a wait that begins now is over, in microseconds, if it ever is. -/
def deadline (p : WaitPlan) (now : Nat) : Except PlanError (Option Int) := do
  let _ ← inSeconds p.interval
  match p.duration with
  | none => return none
  | some q =>
    let _ ← inSeconds q
    return q.deadline now

/-- The time between two questions in microseconds, for a wait of some length or without end.  An
undefined interval cannot be slept; one without end can be where the wait has an end, which it is
longer than. -/
def pause (p : WaitPlan) (length : Option Int) : Except NumberError Nat :=
  match p.interval, length with
  | .real .undefined, _ => .error .undefined
  | .real (.infinite _), none => .error .infinite
  | .real (.infinite _), some n => .ok (n.toNat + 1)
  | q, _ => .ok q.microseconds.toNat

end WaitPlan

/-- How a wait ends. -/
inductive WaitResult where
  /-- The answer was yes. -/
  | done
  /-- The time was over. -/
  | timedOut
  /-- The budget of questions was used up. -/
  | unfinished
  /-- The deadline or a sleep cannot be calculated. -/
  | refused (e : PlanError)
  deriving DecidableEq, Repr

namespace Wait

variable {ω : Type} [Clocked ω]

/-- Ask until the answer is yes or the deadline has passed; times are in microseconds. -/
def untilDeadline (ask : ω → Bool × ω) (interval : Nat) (deadline : Option Int) :
    (budget : Nat) → ω → WaitResult × ω
  | 0, w => (.unfinished, w)
  | budget + 1, w =>
    match ask w with
    | (true, w) => (.done, w)
    | (false, w) =>
      match deadline with
      | none => untilDeadline ask interval none budget (Clocked.sleep interval w)
      | some d =>
        let remaining := d - Clocked.now w
        if remaining ≤ 0 then (.timedOut, w)
        else untilDeadline ask interval (some d) budget
          (Clocked.sleep (min interval remaining.toNat) w)

/-- Ask once, where the sleep before a second question is impossible. -/
def once (ask : ω → Bool × ω) (deadline : Option Int) (e : NumberError) (w : ω) : WaitResult × ω :=
  match ask w with
  | (true, w) => (.done, w)
  | (false, w) =>
    if deadline.any (· ≤ (Clocked.now w : Int)) then (.timedOut, w) else (.refused (.number e), w)

/-- How many questions fit into a time; an interval too short to move the clock leaves room for as
many as patience allows. -/
def questions (interval : Nat) (patience : Nat) : (length : Option Int) → Nat
  | none => patience
  | some n => if interval = 0 then patience else n.toNat / interval + 2

/-- Wait by a plan, from the present time of the world on.  `patience` bounds the number of
questions of a wait without limit. -/
def run (plan : WaitPlan) (patience : Nat) (ask : ω → Bool × ω) (w : ω) : WaitResult × ω :=
  match plan.deadline (Clocked.now w) with
  | .error e => (.refused e, w)
  | .ok deadline =>
    let length := deadline.map (· - (Clocked.now w : Int))
    match plan.pause length with
    | .error e => once ask deadline e w
    | .ok interval => untilDeadline ask interval deadline (questions interval patience length) w

end Wait

end Sweep
