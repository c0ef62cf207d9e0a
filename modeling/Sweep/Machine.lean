import Sweep.Crash
import Sweep.Instruction

/-!
# Running programs

The machine walks over a program with a position, a stack of scopes and the world of an executor.
It handles scopes, variables, iteration and jumps itself and hands commands to the executor, which
may read and change both the scopes and its world.

* A run pushes a scope of its own and takes it off at every ending, unless the scope is to be kept.
* Before every instruction the flag is consulted.  When it is up the executor is stopped, and the
  run ends without finishing.
* A resolution failure ends the run at the instruction that failed.
* A number that would have to be written and has too many digits is a crash, as are other failures that no
  program handles.
* After the last instruction the executor finishes.

The flag is a function of the number of instructions taken so far and of the executor's world.  The
budget bounds the number of instructions; using it up is an ending of its own, never mistaken for
another one.
-/

namespace Sweep

/-- What goes wrong in a step. -/
inductive Failure where
  | access (e : AccessError)
  | crash (c : Crash)
  deriving DecidableEq, Repr

/-- An integer without a text is a crash. -/
def Failure.ofRead : ReadError → Failure
  | .access e => access e
  | .unwritable => crash (.number .unwritable)

/-- What runs the commands of a program. -/
structure Executor (κ ω : Type) where
  /-- Run a command. -/
  execute : κ → Scopes → ω → Except Failure Unit × Scopes × ω
  /-- A loop variable takes a position over a value. -/
  visit : NameId → Int → Value → Scopes → ω → Except Failure Unit × Scopes × ω
  /-- The program is complete. -/
  finish : Scopes → ω → Except Crash Unit × Scopes × ω
  /-- Stop everything that is under way, before the instruction at a position. -/
  stop : Int → ω → ω

/-- How a run ends. -/
inductive Outcome where
  /-- All instructions were taken and the executor finished. -/
  | finished
  /-- The flag was up before an instruction. -/
  | stopped
  /-- An instruction failed to resolve. -/
  | failed (position : Int) (error : AccessError) (origin : Option String)
  | crashed (c : Crash)
  /-- The budget of instructions is used up. -/
  | exhausted
  deriving DecidableEq, Repr

namespace Machine

variable {κ ω : Type}

/-- A step that only reads, and then goes on. -/
def reading {α β : Type} (r : Except ReadError α) (s : Scopes) (w : ω)
    (next : α → Except Failure β × Scopes × ω) : Except Failure β × Scopes × ω :=
  match r with
  | .ok a => next a
  | .error e => (.error (.ofRead e), s, w)

/-- Give an answer and tell the executor about a position. -/
def visiting (ex : Executor κ ω) (x : NameId) (position : Int) (v : Value) (s : Scopes) (w : ω) :
    Except Failure Bool × Scopes × ω :=
  match ex.visit x position v s w with
  | (.ok (), next) => (.ok true, next)
  | (.error f, next) => (.error f, next)

/-- Bind a loop variable to the first element of a target; false if there is none. -/
def begin_ (ex : Executor κ ω) (x : NameId) (s : Scopes) (w : ω) :
    Target → Except Failure Bool × Scopes × ω
  | .range lo hi =>
    reading (do return (← lo.eval s, ← hi.eval s)) s w fun (a, b) =>
      if 0 < Value.span a b then
        visiting ex x 0 (.counter a b 0) (s.bind x (.counter a b 0)) w
      else (.ok false, s, w)
  | .elements t =>
    reading (do let (n, v) ← s.lookup t; return (n, ← s.deref v)) s w fun (n, whole) =>
      if whole.steps = 0 then (.ok false, s, w)
      else
        let s := s.bind x (.ref n t 0)
        reading (do s.deref (← s.binding n t)) s w fun whole => visiting ex x 0 whole s w

/-- Move a loop variable one element on; false if there is no further element.  The variable has
moved in both cases. -/
def proceed (ex : Executor κ ω) (x : NameId) (s : Scopes) (w : ω) :
    Except Failure Bool × Scopes × ω :=
  reading (s.lookup x) s w fun
    | (n, .counter a b offset) =>
      let cursor := Value.counter a b (offset + 1)
      let s := s.write n x cursor
      if offset + 1 < Value.span a b then visiting ex x (offset + 1) cursor s w
      else (.ok false, s, w)
    | (n, .ref scope t offset) =>
      reading (do s.deref (← s.binding scope t)) s w fun whole =>
        let s := s.write n x (.ref scope t (offset + 1))
        if offset + 1 < whole.steps then visiting ex x (offset + 1) whole s w
        else (.ok false, s, w)
    | _ => (.error (.access (.loopVariable x)), s, w)

/-- Go on behind the instruction after a yes, and at the jump after a no. -/
def orJump (pc jump : Int) (r : Except Failure Bool × Scopes × ω) :
    Except Failure Int × Scopes × ω :=
  (r.1.map fun yes => if yes then pc + 1 else jump, r.2)

/-- Take an instruction that goes on with the next one. -/
def plainStep (ex : Executor κ ω) (i : Instruction κ) (s : Scopes) (w : ω) :
    Except Failure Unit × Scopes × ω :=
  match i with
  | .pushScope => (.ok (), s.push, w)
  | .popScope => (.ok (), s.pop, w)
  | .create x e none => reading (e.eval s) s w fun v => (.ok (), s.bind x v, w)
  | .create x e (some n) => reading (e.eval s) s w fun v =>
    match s.bindAt? n x v with
    | some s => (.ok (), s, w)
    | none => (.error (.crash .noSuchScope), s, w)
  | .assign x e scope => reading (do s.assign x (← e.eval s) scope) s w fun s => (.ok (), s, w)
  | .push x e => reading (do s.pushTo x (← e.eval s)) s w fun s => (.ok (), s, w)
  | .command c => ex.execute c s w
  | _ => (.ok (), s, w)

/-- A guard lets a block run when it is the text `false`. -/
def isOpen (s : Scopes) (guard : Path) : Except ReadError Bool := do
  let (base, _) ← s.resolveStruct guard
  return base = "false"

/-- Take the instruction at a position: the next position, the scopes and the world. -/
def step (ex : Executor κ ω) (pc : Int) (i : Instruction κ) (s : Scopes) (w : ω) :
    Except Failure Int × Scopes × ω :=
  match i with
  | .start t x jump => orJump pc jump (begin_ ex x s w t)
  | .advance _ x jump => orJump pc jump (proceed ex x s w)
  | .branch p jump => orJump pc jump (reading (isOpen s p) s w fun yes => (.ok yes, s, w))
  | .goto jump => (.ok jump, s, w)
  | i =>
    let r := plainStep ex i s w
    (r.1.map fun _ => pc + 1, r.2)

/-- The place of a line; the machine tells it only for positions from the beginning. -/
def placeOf (pc : Int) (line : Line κ) : Option String := if 0 ≤ pc then line.origin else none

/-- The end of a run for want of an instruction: behind the last one the executor finishes, and
before the first one there is nothing to take. -/
def runOut (ex : Executor κ ω) (stopping : Bool) (pc : Int) (s : Scopes) (w : ω) :
    Outcome × Scopes × ω :=
  if 0 ≤ pc then
    match ex.finish s w with
    | (.ok (), next) => (.finished, next)
    | (.error c, next) => (.crashed c, next)
  else if stopping then (.stopped, s, ex.stop pc w)
  else (.crashed .noInstruction, s, w)

/-- Run from a position until an ending; `taken` instructions came before. -/
def runFrom (ex : Executor κ ω) (flag : Nat → ω → Bool) (p : Program κ) (budget taken : Nat)
    (pc : Int) (s : Scopes) (w : ω) : Outcome × Scopes × ω :=
  match p.at? pc with
  | none => runOut ex (flag taken w) pc s w
  | some line =>
    if flag taken w then (.stopped, s, ex.stop pc w)
    else
      match budget with
      | 0 => (.exhausted, s, w)
      | budget + 1 =>
        match step ex pc line.instruction s w with
        | (.ok pc, s, w) => runFrom ex flag p budget (taken + 1) pc s w
        | (.error (.access e), s, w) => (.failed pc e (placeOf pc line), s, w)
        | (.error (.crash c), s, w) => (.crashed c, s, w)

/-- Run a program in a scope of its own, which is taken off again unless it is to be kept. -/
def run (ex : Executor κ ω) (flag : Nat → ω → Bool) (budget : Nat) (p : Program κ) (keep : Bool)
    (s : Scopes) (w : ω) : Outcome × Scopes × ω :=
  match runFrom ex flag p budget 0 0 s.push w with
  | (outcome, s', w) => (outcome, if keep then s' else s'.truncate s.length, w)

end Machine

/-- The wording of a failed run, with the position and the place of the instruction. -/
def failureMessage (position : Int) (origin : Option String) (cause : String) : String :=
  let place := match origin with
    | some o => if o.isEmpty then "" else " (" ++ o ++ ")"
    | none => ""
  "instruction " ++ toString position ++ place ++ ": " ++ cause

end Sweep
