import Sweep.Estimator

/-!
# Estimates from recent steps

The estimator of the program.  The time that is left is the number of steps left over the speed of the steps
in the last 30 seconds.  A loop is finished when its steps reach its total, and a new total starts the
estimate anew.  Times are seconds in floating point, from a clock of whole microseconds.
-/

namespace Sweep

/-- The time of a clock of microseconds in seconds. -/
def seconds (micros : Nat) : Binary64 := .ofFraction false micros 1000000

/-- Steps that were made at a time. -/
structure Sample where
  time : Binary64
  steps : Int
  deriving Repr, DecidableEq

/-- What is known about a loop. -/
structure Gauge where
  total : Int
  started : Binary64
  /-- The steps that were made. -/
  completed : Int := 0
  samples : List Sample := []
  finished : Bool := false
  stopped : Option Binary64 := none
  deriving Repr, DecidableEq

namespace Gauge

/-- How long a sample counts, in seconds. -/
def window : Binary64 := .ofInt 30

/-- How many samples are kept. -/
def sampleLimit : Nat := 1000

/-- Take note of a change: steps made since `before` become a sample, old samples are dropped, and
the loop is finished when the steps reach the total. -/
def note (g : Gauge) (before : Int) (now : Nat) : Gauge :=
  let time := seconds now
  let oldest := (time.sub window).toRat
  let recent := g.samples.dropWhile fun s => s.time.toRat < oldest
  let grown := if before < g.completed then recent ++ [⟨time, g.completed - before⟩] else recent
  { g with
    samples := grown.drop (grown.length - sampleLimit)
    finished := g.finished || g.total ≤ g.completed }

/-- What becomes of it when something is told; if a new total differs, the estimate starts anew. -/
def hear (g : Gauge) (now : Nat) : Notice → Gauge
  | .position n => { g with completed := n }.note g.completed now
  | .total n =>
    let g := if n = g.total then g else { g with total := n, samples := [], finished := false }
    g.note g.completed now
  | .message _ => g.note g.completed now
  | .stopped => { g with stopped := some (seconds now) }

/-- What is known after all that was told. -/
def ofTally (t : Tally) : Gauge :=
  t.notices.foldl (fun g (now, n) => g.hear now n) { total := t.total, started := seconds t.started }

/-- The time since the loop began, up to where it was stopped. -/
def elapsed (g : Gauge) (now : Nat) : Binary64 := (g.stopped.getD (seconds now)).sub g.started

/-- The speed of the steps after the first sample, if it can be told. -/
def speed? (g : Gauge) : Except NumberError (Option Binary64) :=
  match g.samples with
  | [] => .ok none
  | first :: rest =>
    let time := ((g.samples.getLast?.getD first).time).sub first.time
    if time.isNonzero then
      some <$> (Quantity.whole (rest.foldl (fun n s => n + s.steps) 0)).divide (.real time)
    else .ok none

/-- The time that is left, in whole seconds, if it can be told. -/
def left? (g : Gauge) : Except NumberError (Option Int) :=
  if g.finished then .ok (some 0)
  else do
    match ← g.speed? with
    | some v =>
      if v.isNonzero then
        return some (← (← (Quantity.whole (g.total - g.completed)).divide (.real v)).ceiling)
      else return none
    | none => return none

/-- A number that cannot be calculated, as a failure of the estimator. -/
def failure (e : NumberError) : Foreign :=
  ⟨if e = .undefined then "ValueError" else "OverflowError", e.message⟩

end Gauge

/-- The estimator that looks at recent steps. -/
def Estimator.recent : Estimator where
  left t _ := ((Gauge.ofTally t).left?.mapError Gauge.failure).map (·.map .whole)
  taken t now := .ok (some (.real ((Gauge.ofTally t).elapsed now)))

end Sweep
