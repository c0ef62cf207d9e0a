import Sweep.World.Basic

/-!
# The life of a child

A child is polled, killed and waited for.  Its state changes once, from running to a final state:
an exit that is seen, a kill, or a refusal of the system.  Whoever looks later finds the same state,
and the status line carries it.

`check` never blocks and says whether the child is over.  `kill` first checks, so a child that has
already exited keeps its exit state; after a kill it gives the child one second to go away.
-/

namespace Sweep

namespace Child

/-- The exit code of a child that was killed. -/
def killCode : Int := -9

/-- Ask for the exit code: a refusal, a code, or nothing while the child runs. -/
def poll (c : Child) (now : Nat) : Except SystemError (Option Int) :=
  let age := now - c.started
  let fault := match c.script.pollFault with
    | some (start, e) => if start ≤ age then some e else none
    | none => none
  match fault with
  | some e => .error e
  | none =>
    if c.killed then .ok (some killCode)
    else if c.script.exit.any (· ≤ age) then .ok (some c.script.code)
    else .ok none

/-- Reach a final state, unless there is one already. -/
def settle (c : Child) (s : Status) : Child :=
  if c.status.isFinal then c else { c with status := s, line := c.line.settle s }

end Child

namespace World

/-- The labels of a record about a child. -/
def childLabels (event : String) (pid : Nat) : List (String × Document) :=
  [("event", .text event), ("pid", .int pid)]

/-- How long a child is given to go away after a kill, in microseconds. -/
def killGrace : Nat := 1000000

/-- See whether a child is over; an exit that is seen becomes its state. -/
def check (i : Nat) (w : World) : Bool × World :=
  match w.children[i]? with
  | none => (true, w)
  | some c =>
    if c.status.isFinal then (true, w)
    else
      match c.poll w.now with
      | .error e => (true, w.modifyChild i (·.settle (.error (some e.message))))
      | .ok none => (false, w)
      | .ok (some code) =>
        (true, (w.modifyChild i (·.settle (.ofExit code))).record .debug Source.children
          ("Process " ++ toString c.pid ++ " exited with " ++ toString code)
          (childLabels "exit" c.pid))

/-- Kill a child that is not over yet. -/
def kill (i : Nat) (w : World) : World :=
  match w.check i with
  | (true, w) => w
  | (false, w) =>
    match w.children[i]? with
    | none => w
    | some c =>
      let w := w.happen (.kill c.pid)
      match c.script.killFault with
      | some e =>
        (w.record .error Source.children
          ("Failed to kill process " ++ toString c.pid ++ ": " ++ e.message)).modifyChild i
          (·.settle (.error (some e.message)))
      | none =>
        let w := (w.modifyChild i fun c => { c with killed := true }.settle .killed).record
          .info Source.children ("Killed process " ++ toString c.pid) (childLabels "kill" c.pid)
        if c.script.stubborn then
          (Clocked.sleep killGrace w).record .warning Source.children
            ("Process " ++ toString c.pid ++ " still alive after kill")
        else w

/-- Ask about a child in a wait: when the flag is up, the child is killed and the wait is over. -/
def checkOrKill (i : Nat) (w : World) : Bool × World :=
  if w.isCancelled then (true, w.kill i) else w.check i

/-- Wait for a child by a plan; when the time is over, the child is killed. -/
def await (i : Nat) (plan : WaitPlan) (patience : Nat) (w : World) : WaitResult × World :=
  match Wait.run plan patience (checkOrKill i) w with
  | (.timedOut, w) =>
    let pid := (w.children[i]?.map (·.pid)).getD 0
    (.timedOut, (w.record .warning Source.children
      ("Process " ++ toString pid ++ " timed out after " ++ plan.timeText ++ "ms")).kill i)
  | r => r

end World

end Sweep
