import Sweep.Child.StatusLine
import Sweep.Journal.Logbook
import Sweep.Render.Fault
import Sweep.Supervision.Command
import Sweep.Text.LastLine
import Sweep.Wait
import Sweep.World.Disk

/-!
# The world of a run

A run meets the outside world in a few places: a clock that moves only when somebody sleeps, a flag
that asks for an early end, child processes, files, and what is printed and recorded.  The world is
a value that holds all of them.

How children behave is given beforehand, one script for every attempt to start a child: when the
child exits and with what code, what it writes, and which operations the system refuses.

The flag is up once it was raised, once the clock has reached a moment, or once a number of
children was tried to start.
-/

namespace Sweep

open Text (Bytes)

/-- What reading a stream gives next. -/
inductive Chunk where
  | data (bytes : Bytes)
  | fault (e : SystemError)
  deriving Repr

/-- How one child behaves.  Times are in microseconds after its start. -/
structure Script where
  /-- When the child has exited; never, if there is no time. -/
  exit : Option Nat := some 0
  code : Int := 0
  stdout : List Chunk := []
  stderr : List Chunk := []
  startFault : Option SystemError := none
  /-- From a time on, asking for the exit code is refused. -/
  pollFault : Option (Nat × SystemError) := none
  killFault : Option SystemError := none
  /-- The child stays for another second after it was killed. -/
  stubborn : Bool := false
  deriving Repr, Inhabited

/-- A child that was started. -/
structure Child where
  order : Order
  pid : Nat
  script : Script
  started : Nat
  killed : Bool := false
  /-- Both streams of the child go somewhere. -/
  routed : Bool := true
  status : Status := .running
  line : StatusLine
  deriving Repr, Inhabited

/-- Something that can be observed from outside. -/
inductive Event where
  /-- An attempt to start a child, whether or not it succeeds. -/
  | spawn (order : Order)
  | kill (pid : Nat)
  /-- A text on the console. -/
  | print (text : String)
  /-- A file that was not rendered, told on the console. -/
  | fault (f : RenderFault)
  /-- A success or a failure, told on the console. -/
  | verdict (good : Bool) (message : String)
  /-- A line that is written as it is. -/
  | echo (line : String)
  /-- A loop variable took a position. -/
  | iter (name : String) (position total : Int) (message : String)
  /-- A record of the journal. -/
  | record (r : Record)
  deriving Repr

/-- The world of a run. -/
structure World where
  /-- The clock, in microseconds. -/
  now : Nat := 0
  /-- When the flag goes up by itself. -/
  cancelAt : Option Nat := none
  /-- At how many attempts to start a child the flag goes up by itself. -/
  cancelAtAttempt : Option Nat := none
  raised : Bool := false
  attempts : Nat := 0
  scripts : List Script := []
  children : Array Child := #[]
  disk : Disk := []
  /-- The file that keeps records. -/
  logbook : Option Logbook := none
  /-- The columns of the console. -/
  width : Int := 120
  /-- What happened, with its time. -/
  events : Array (Nat × Event) := #[]
  deriving Inhabited

instance : Clocked World where
  now w := w.now
  sleep d w := { w with now := w.now + d }

namespace World

/-- The flag is up. -/
def isCancelled (w : World) : Bool :=
  w.raised || w.cancelAt.any (· ≤ w.now) || w.cancelAtAttempt.any (· ≤ w.attempts)

/-- Raise the flag. -/
def raise (w : World) : World := { w with raised := true }

/-- Sleep, but only until the flag goes up; not at all if it is up. -/
def sleepUnlessCancelled (w : World) (micros : Nat) : World :=
  if w.isCancelled then w
  else
    match w.cancelAt with
    | some c => { w with now := w.now + min micros (c - w.now) }
    | none => { w with now := w.now + micros }

/-- Something happens now. -/
def happen (w : World) (e : Event) : World := { w with events := w.events.push (w.now, e) }

/-- Print a text. -/
def print (w : World) (text : String) : World := w.happen (.print text)

/-- Write a line as it is. -/
def echo (w : World) (line : String) : World := w.happen (.echo line)

/-- Make a record, which the logbook keeps. -/
def record (w : World) (level : Level) (source message : String)
    (labels : List (String × Document) := []) : World :=
  let r : Record := ⟨level.name, source, message, labels⟩
  let w := w.happen (.record r)
  match w.logbook with
  | some book => { w with disk := book.keep r w.disk }
  | none => w

/-- Record that a program was stopped before the instruction at a position. -/
def recordStop (w : World) (position : Int) : World :=
  w.record .debug Source.machine ("Shutdown requested at instruction " ++ toString position)

/-- Change a child. -/
def modifyChild (w : World) (i : Nat) (f : Child → Child) : World :=
  { w with children := w.children.modify i f }

/-- Change the status line of a child. -/
def modifyLine (w : World) (i : Nat) (f : StatusLine → StatusLine) : World :=
  w.modifyChild i fun c => { c with line := f c.line }

end World

end Sweep
