import Sweep.Machine
import Sweep.Statement

/-!
# Walking over statements

What statements mean, said without the code they become.  A walk carries out statements in the
order in which they are written and goes down into loops and guarded blocks; it knows neither jumps
nor positions.

* A lock-step loop opens a scope and begins all its variables in order.  If each has something to
  walk over, rounds follow: the body in a scope of its own, then all variables move on in order.
  The first variable with no further element ends the loop.
* A loop over combinations opens a scope, begins its first variable, and makes each round a loop
  over the other variables.  With no variable left, the round is the body in a scope of its own.
* A guarded block asks its guards in order and is skipped at the first one that is not open.

The single actions (`Machine.begin_`, `Machine.proceed`, `Machine.isOpen`, `Machine.plainStep`) are
shared with the machine.  What the two do not share is everything that a jump could get wrong: which
action comes next.  A walk that fails keeps the scopes as they were when it failed.

Loops may go on for ever, so every loop has a budget of rounds.
-/

namespace Sweep

/-- Why a walk ends before its last statement. -/
inductive Halt where
  /-- Something failed to resolve, in the statement from a place. -/
  | failed (e : AccessError) (origin : Option String)
  | crashed (c : Crash)
  /-- The budget of rounds of some loop is used up. -/
  | exhausted
  deriving DecidableEq, Repr

/-- What a failure means for the walk over the statement from a place. -/
def Failure.halt (origin : Option String) : Failure → Halt
  | .access e => .failed e origin
  | .crash c => .crashed c

/-- Walking changes the scopes and the world of an executor, and may halt. -/
abbrev Walking (ω : Type) := ExceptT Halt (StateM (Scopes × ω))

namespace Walk

variable {κ ω α : Type}

/-- A single action of the statement from a place. -/
def act (origin : Option String) (action : Scopes → ω → Except Failure α × Scopes × ω) :
    Walking ω α :=
  fun here =>
    match action here.1 here.2 with
    | (.ok a, next) => (.ok a, next)
    | (.error f, next) => (.error (f.halt origin), next)

/-- Change the scopes. -/
def change (f : Scopes → Scopes) : Walking ω Unit := modify fun here => (f here.1, here.2)

/-- Carry something out in a scope of its own. -/
def inScope (body : Walking ω Unit) : Walking ω Unit := do
  change Scopes.push
  body
  change Scopes.pop

/-- Carry out questions in order; false at the first no, and the others are not asked. -/
def allYes : List (Walking ω Bool) → Walking ω Bool
  | [] => return true
  | question :: rest => do if ← question then allYes rest else return false

/-- Begin a loop variable; false if it has nothing to walk over. -/
def begin_ (ex : Executor κ ω) (origin : Option String) (v : NameId × Target) : Walking ω Bool :=
  act origin fun s w => Machine.begin_ ex v.1 s w v.2

/-- Move a loop variable on; false if it has no further element. -/
def proceed (ex : Executor κ ω) (origin : Option String) (v : NameId × Target) : Walking ω Bool :=
  act origin (Machine.proceed ex v.1)

/-- Ask a guard; false if it is not open. -/
def isOpen (origin : Option String) (guard : Path) : Walking ω Bool :=
  act origin fun s w => Machine.reading (Machine.isOpen s guard) s w fun yes => (.ok yes, s, w)

/-- Repeat a round until it says that it was the last one. -/
def repeatRounds (round : Walking ω Bool) : (rounds : Nat) → Walking ω Unit
  | 0 => throw .exhausted
  | rounds + 1 => do if ← round then repeatRounds round rounds

/-- A loop in lock step. -/
def group (ex : Executor κ ω) (rounds : Nat) (origin : Option String)
    (vars : List (NameId × Target)) (body : Walking ω Unit) : Walking ω Unit :=
  inScope do
    if ← allYes (vars.map (begin_ ex origin)) then
      repeatRounds (do inScope body; allYes (vars.map (proceed ex origin))) rounds

/-- A loop over combinations. -/
def combinations (ex : Executor κ ω) (rounds : Nat) (origin : Option String)
    (body : Walking ω Unit) : List (NameId × Target) → Walking ω Unit
  | [] => inScope body
  | v :: vars =>
    inScope do
      if ← begin_ ex origin v then
        repeatRounds (do combinations ex rounds origin body vars; proceed ex origin v) rounds

theorem allYes_singleton (question : Walking ω Bool) : allYes [question] = question := by
  have same (b : Bool) : (if b = true then pure true else pure false : Walking ω Bool) = pure b := by
    cases b <;> rfl
  simp only [allYes, same, bind_pure]

/-- A guarded block. -/
def guarded (origin : Option String) (guards : List Path) (body : Walking ω Unit) :
    Walking ω Unit := do
  if ← allYes (guards.map (isOpen origin)) then inScope body

end Walk

namespace Statement

variable {κ ω : Type}

mutual

/-- Carry out a statement. -/
def walk (ex : Executor κ ω) (rounds : Nat) : Statement κ → Walking ω Unit
  | single i origin => Walk.act origin (Machine.plainStep ex i)
  | loop .group vars body origin => Walk.group ex rounds origin vars (walkAll ex rounds body)
  | loop .combinations vars body origin =>
    Walk.combinations ex rounds origin (walkAll ex rounds body) vars
  | guarded guards body origin => Walk.guarded origin guards (walkAll ex rounds body)

/-- Carry out statements, one after the other. -/
def walkAll (ex : Executor κ ω) (rounds : Nat) : List (Statement κ) → Walking ω Unit
  | [] => return ()
  | s :: rest => do
    walk ex rounds s
    walkAll ex rounds rest

end

end Statement

namespace Walk

variable {κ ω : Type}

/-- The end of a walk over all statements: the executor finishes. -/
def close (ex : Executor κ ω) : Walking ω Unit := fun here =>
  match ex.finish here.1 here.2 with
  | (.ok (), next) => (.ok (), next)
  | (.error c, next) => (.error (.crashed c), next)

/-- Walk over statements in a scope of their own, which is taken off again unless it is to be
kept. -/
def run (ex : Executor κ ω) (rounds : Nat) (statements : List (Statement κ)) (keep : Bool)
    (s : Scopes) (w : ω) : Except Halt Unit × Scopes × ω :=
  match (do Statement.walkAll ex rounds statements; close ex : Walking ω Unit) (s.push, w) with
  | (r, s', w) => (r, if keep then s' else s'.truncate s.length, w)

end Walk

/-- What the end of a run says to somebody who knows no positions.  A run that was stopped or is out
of budget has come to no end. -/
def Outcome.halt : Outcome → Except Halt Unit
  | .finished => .ok ()
  | .failed _ e origin => .error (.failed e origin)
  | .crashed c => .error (.crashed c)
  | .stopped | .exhausted => .error .exhausted

end Sweep
