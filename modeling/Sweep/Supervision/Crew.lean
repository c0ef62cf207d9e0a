import Sweep.Child.Start
import Sweep.Machine
import Sweep.Meter

/-!
# Supervising children

The crew of a command program is the list of children that have not been seen to be over, together
with a limit for their number, the meters of the loop variables and the progress file.

* A start waits until fewer children than the limit are tracked, then brings the progress
  file up to date and starts the child.  A start that fails is reported and skipped.
* A wait polls every tracked child and drops those that are over.  When its time is over, or the
  flag is up, the children that are left are killed.
* At the end of a program the children are waited for one after the other.
* Stopping kills every tracked child, and is recorded once for each program.

The progress file is overwritten in place, one line for each meter; what an older, longer text leaves
behind is overwritten with blanks.
-/

namespace Sweep

/-- Where progress is written. -/
inductive ProgressFile where
  | none
  /-- Not opened yet. -/
  | closed (path : Pathname)
  | opened (h : Disk.Handle)
  deriving DecidableEq, Repr

/-- The children of a command program. -/
structure Crew where
  /-- So many children may run at once. -/
  limit : Option Nat := .none
  /-- The children that have not been seen to be over, in the order of their starts. -/
  tracked : List Nat := []
  /-- All children that were started for this program. -/
  spawned : List Nat := []
  /-- The meters of the loop variables, in the order of first use. -/
  meters : List (NameId × Meter) := []
  /-- How many starts failed, over all programs. -/
  spawnFailures : Nat := 0
  /-- The program was stopped. -/
  stopped : Bool := false
  progress : ProgressFile := .none
  /-- How many arguments a label shows. -/
  labelArguments : Option Int := .none
  /-- What makes estimates for the meters. -/
  estimator : Estimator := default

/-- A crew and its world. -/
structure Supervision where
  crew : Crew
  world : World

instance : Clocked Supervision where
  now v := v.world.now
  sleep d v := { v with world := Clocked.sleep d v.world }

namespace Crew

/-- The crew of the next program. -/
def renewed (c : Crew) : Crew :=
  { spawnFailures := c.spawnFailures, progress := c.progress, labelArguments := c.labelArguments
    estimator := c.estimator }

/-- The lines of the progress file. -/
def progressText (c : Crew) (now : Nat) : Except Crash String := do
  return String.join (← c.meters.mapM fun (_, m) => do return (← m.summary c.estimator now) ++ "\n")

end Crew

namespace Supervision

/-! ### Stopping -/

/-- Kill every tracked child. -/
def killTracked (v : Supervision) : Supervision :=
  { crew := { v.crew with tracked := [] }
    world := v.crew.tracked.foldl (fun w i => w.kill i) v.world }

/-- Stop: kill every tracked child, and record it on the first time. -/
def stopAll (v : Supervision) : Supervision :=
  let v := v.killTracked
  { crew := { v.crew with meters := [], stopped := true }
    world :=
      if v.crew.stopped then v.world
      else v.world.record .info Source.supervision "Supervisor shut down"
        [("event", .text "shutdown")] }

/-! ### Pauses and waits -/

/-- The longest part of a pause without a look at the flag, in microseconds. -/
def slice : Nat := 100000

/-- Sleep in slices until a moment, or until the flag is up. -/
def sleepUntil (moment : Nat) : (slices : Nat) → World → World
  | 0, w => w
  | slices + 1, w =>
    if w.isCancelled || moment ≤ w.now then w
    else sleepUntil moment slices (w.sleepUnlessCancelled (min slice (moment - w.now)))

/-- Pause for a number of milliseconds, or until the flag is up.  The number has to be small enough
to be counted in seconds. -/
def pause (ms : Nat) (w : World) : Except NumberError Unit × World :=
  match (Quantity.whole ms).seconds with
  | .error e => (.error e, w)
  | .ok x =>
    let time := x.microseconds.toNat
    (.ok (), sleepUntil (w.now + time) (time / slice + 2) w)

/-- Poll the children one after the other: those that are still running, and the world. -/
def sweepChildren : List Nat → World → List Nat × World
  | [], w => ([], w)
  | i :: rest, w =>
    match w.check i with
    | (true, w) => sweepChildren rest w
    | (false, w) =>
      let (running, w) := sweepChildren rest w
      (i :: running, w)

/-- Ask in a wait whether fewer children than a threshold are running; with the flag up the wait is
over. -/
def poll (threshold : Nat) (v : Supervision) : Bool × Supervision :=
  if v.world.isCancelled then (true, v)
  else
    let (running, world) := sweepChildren v.crew.tracked v.world
    (running.length < threshold, { crew := { v.crew with tracked := running }, world })

/-- The plan of a wait with a time and a number of polls, as they are written. -/
def planOf (timeout polls : Option Document) : Except Crash WaitPlan :=
  match timeout, polls with
  | none, _ => .ok (.lasting none)
  | some t, some n =>
    match t.quantity?, n.quantity? with
    | some time, some count => (WaitPlan.spread time count).mapError .plan
    | _, _ => .error (.notANumber t.kind n.kind)
  | some t, none =>
    match t.quantity? with
    | none => .error (.notANumber t.kind "int")
    | some time => .ok (.lasting (some time))

/-- Whether a wait is planned before anything else; a time alone is looked at only when there is
something to wait for. -/
def plansFirst (timeout polls : Option Document) : Bool := timeout.isSome && polls.isSome

/-- Poll until fewer than `threshold` children are running; kill what is left when the time is over
or the flag is up. -/
def waitFor (timeout : Option Document) (plan : WaitPlan) (threshold patience : Nat)
    (v : Supervision) : Except Crash Unit × Supervision :=
  match Wait.run plan patience (poll threshold) v with
  | (.done, v) => (.ok (), if v.world.isCancelled then v.stopAll else v)
  | (.timedOut, v) =>
    let shown := (timeout.getD .null).display
    let message := "Timed out after " ++ shown ++ "ms with " ++ toString v.crew.tracked.length ++
      " process(es) running, killing them"
    (.ok (), { v with
      world := v.world.record .warning Source.supervision message
        [("event", .text "timeout")] }.killTracked)
  | (.refused e, v) => (.error (.plan e), v)
  | (.unfinished, v) => (.error .endless, v)

/-- Wait until fewer than `max remaining 1` children are running. -/
def waitAll (timeout polls : Option Document) (remaining patience : Nat) (v : Supervision) :
    Except Crash Unit × Supervision :=
  match planOf timeout polls with
  | .error c =>
    if !plansFirst timeout polls && v.crew.tracked.isEmpty && !v.world.isCancelled then (.ok (), v)
    else (.error c, v)
  | .ok plan =>
    if v.crew.tracked.isEmpty && !v.world.isCancelled then (.ok (), v)
    else waitFor timeout plan (max remaining 1) patience v

/-! ### Progress -/

/-- Open the progress file; if that is refused, progress is not written any more. -/
def openProgress (v : Supervision) : Supervision :=
  match v.crew.progress with
  | .closed path =>
    let (made, disk) := v.world.disk.makeDirectories path.parent
    let world := { v.world with disk }
    match made.bind fun _ => disk.openFile path false with
    | .ok (h, disk) =>
      { crew := { v.crew with progress := .opened h }, world := { world with disk } }
    | .error e =>
      { crew := { v.crew with progress := .none }
        world := world.record .warning Source.supervision
          ("Cannot open progress file " ++ path.text ++ ": " ++ e.message) }
  | _ => v

/-- Bring the progress file up to date. -/
def writeProgress (v : Supervision) : Except Crash Unit × Supervision :=
  let v := v.openProgress
  match v.crew.progress with
  | .opened h =>
    match v.crew.progressText v.world.now with
    | .error c => (.error c, v)
    | .ok text =>
      match v.world.disk.overwrite h (Text.utf8 text) with
      | .ok disk => (.ok (), { v with world := { v.world with disk } })
      | .error e => (.error (.refused e.code e.text), v)
  | _ => (.ok (), v)

/-- The meter of a loop variable, with the total of what it walks over. -/
def meterFor (names : NameTable) (x : NameId) (total : Int) (v : Supervision) : Meter :=
  match Assoc.get? x v.crew.meters with
  | none => .new (names.display x) total v.world.now
  | some m => if m.total = total then m else m.setTotal total v.world.now

/-- What a meter says about an element: its text, if it has one. -/
def elementText (s : Scopes) (position : Int) : Value → Except ReadError (Option String)
  | .struct base _ => .ok (some base)
  | .list items =>
    match if 0 ≤ position then items[position.toNat]? else none with
    | none => .ok none
    | some item => do
      match ← s.deref item with
      | .struct base _ => return some base
      | _ => return none
  | .counter start _ _ => some <$> ReadError.textOf (start + position)
  | .ref .. => .ok none

/-- A loop variable takes a position over a value. -/
def visit (names : NameTable) (x : NameId) (position : Int) (value : Value) (s : Scopes)
    (v : Supervision) : Except Failure Unit × Supervision :=
  let m := (v.meterFor names x value.steps).set position v.world.now
  let keep (m : Meter) : Supervision :=
    { v with crew := { v.crew with meters := Assoc.set x m v.crew.meters } }
  match elementText s position value with
  | .error e => (.error (.ofRead e), keep m)
  | .ok text =>
    let m := match text with
      | some t => m.say t v.world.now
      | none => m
    let v := keep m
    (.ok (), { v with world := v.world.happen (.iter m.name m.position m.total m.message) })

/-! ### Commands -/

/-- A start that failed is counted, recorded and printed. -/
def reportFailedStart (command reason : String) (v : Supervision) : Supervision :=
  let message := "Failed to spawn " ++ command ++ ": " ++ reason
  { crew := { v.crew with spawnFailures := v.crew.spawnFailures + 1 }
    world := (v.world.record .error Source.supervision message
      [("event", .text "spawn_failed")]).print message }

/-- Start a child and track it. -/
def startChild (o : Order) (v : Supervision) : Supervision :=
  match v.world.start o v.crew.labelArguments with
  | (.started i, world) =>
    { crew := { v.crew with tracked := v.crew.tracked ++ [i], spawned := v.crew.spawned ++ [i] }
      world }
  | (.refused reason, world) => reportFailedStart o.command reason { v with world }
  | (.unrouted _ reason, world) => reportFailedStart o.command reason { v with world }

/-- Write progress, evaluate a child and start it. -/
def launch (l : Launch) (s : Scopes) (v : Supervision) : Except Failure Unit × Supervision :=
  match v.writeProgress with
  | (.error c, v) => (.error (.crash c), v)
  | (.ok (), v) =>
    match l.eval s with
    | .error e => (.error (.ofRead e), v)
    | .ok o => (.ok (), startChild o v)

/-- The number of tracked children is at the limit. -/
def isFull (v : Supervision) : Bool := v.crew.limit.any (· ≤ v.crew.tracked.length)

/-- Start a child as soon as the limit admits it; not at all if the flag goes up in the meantime. -/
def spawn (l : Launch) (s : Scopes) (patience : Nat) (v : Supervision) :
    Except Failure Unit × Supervision :=
  if v.isFull then
    match v.waitAll none none (v.crew.limit.getD 0) patience with
    | (.error c, v) => (.error (.crash c), v)
    | (.ok (), v) => if v.world.isCancelled then (.ok (), v) else launch l s v
  else launch l s v

/-- Run a command; the scopes are only read. -/
def execute (patience : Nat) (c : Command) (s : Scopes) (v : Supervision) :
    Except Failure Unit × Supervision :=
  match c with
  | .limit n => (.ok (), { v with crew := { v.crew with limit := some n } })
  | .sleep ms =>
    match pause ms v.world with
    | (.ok (), world) => (.ok (), { v with world })
    | (.error e, world) => (.error (.crash (.number e)), { v with world })
  | .spawn l => spawn l s patience v
  | .wait timeout polls =>
    match v.waitAll timeout polls 0 patience with
    | (.ok (), v) => (.ok (), v)
    | (.error c, v) => (.error (.crash c), v)

/-! ### The end of a program -/

/-- Wait for children one after the other. -/
def drain (patience : Nat) : List Nat → World → Except Crash Unit × World
  | [], w => (.ok (), w)
  | i :: rest, w =>
    match w.await i (.lasting none) patience with
    | (.refused e, w) => (.error (.plan e), w)
    | (.unfinished, w) => (.error .endless, w)
    | (_, w) => drain patience rest w

/-- The program is complete: wait for the children that are left. -/
def finish (patience : Nat) (v : Supervision) : Except Crash Unit × Supervision :=
  match drain patience v.crew.tracked v.world with
  | (.error c, world) => (.error c, { v with world })
  | (.ok (), world) =>
    let v := { v with world }
    let v := if world.isCancelled then v.stopAll else v
    (.ok (), { v with crew := { v.crew with tracked := [], meters := [] } })

/-- Between two programs: wait for the children that are left, stop, and start with a new crew. -/
def reset (patience : Nat) (v : Supervision) : Except Crash Unit × Supervision :=
  match v.waitAll none none 0 patience with
  | (.error c, v) => (.error c, v)
  | (.ok (), v) =>
    let v := v.stopAll
    (.ok (), { v with crew := v.crew.renewed })

/-- What runs command programs. -/
def executor (names : NameTable) (patience : Nat) : Executor Command Supervision where
  execute c s v :=
    let (r, v) := execute patience c s v
    (r, s, v)
  visit x position value s v :=
    let (r, v) := visit names x position value s v
    (r, s, v)
  finish s v :=
    let (r, v) := finish patience v
    (r, s, v)
  stop position v := stopAll { v with world := v.world.recordStop position }

end Supervision

end Sweep
