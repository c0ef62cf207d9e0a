import Sweep.Instruction

/-!
# Statements and the layout of their code

A program is written as a tree of statements: single instructions, loops over one or more
variables, and guarded blocks.  A loop in lock step (`group`) advances all its variables together
and ends with the shortest target; a loop over combinations is one loop inside another, the last
variable moving fastest.

Code has a layout that can be told from its start position alone: a block is a function of where it
begins, and knows all its jump targets from there.

Lock step, for `n` variables:

    PushScope
    StartIter × n            jump to end
    again:  PushScope
            body
            PopScope
            Increment × n    jump to end
            Goto again
    end:    PopScope
-/

namespace Sweep

/-- How the variables of a loop advance. -/
inductive LoopMode where
  | group
  | combinations
  deriving DecidableEq, Repr

/-- A statement; `κ` is the type of the commands. -/
inductive Statement (κ : Type) where
  | single (instruction : Instruction κ) (origin : Option String)
  | loop (mode : LoopMode) (vars : List (NameId × Target)) (body : List (Statement κ))
      (origin : Option String)
  /-- The body runs when every guard is the text `false`. -/
  | guarded (guards : List Path) (body : List (Statement κ)) (origin : Option String)

instance {κ : Type} : Inhabited (Statement κ) := ⟨.single .pushScope none⟩

/-- The variables of a loop with their targets; there has to be one target for each, or the loop
cannot become code. -/
def pairTargets? (iters : List NameId) (targets : List Target) : Option (List (NameId × Target)) :=
  if iters.length = targets.length then some (iters.zip targets) else none

namespace Code

variable {κ : Type}

/-- Code is laid out from the position where it begins. -/
abbrev Block (κ : Type) := Nat → Program κ

/-- The variables of a loop, advancing in lock step. -/
def group (origin : Option String) (vars : List (NameId × Target)) (body : Block κ) : Block κ :=
  fun at_ =>
    let line (i : Instruction κ) : Line κ := ⟨i, origin⟩
    let again := at_ + 1 + vars.length
    let inner := body (again + 1)
    let finish := again + 1 + inner.length + 1 + vars.length + 1
    [line .pushScope] ++ vars.map (fun v => line (.start v.2 v.1 finish)) ++
      [line .pushScope] ++ inner ++ [line .popScope] ++
      vars.map (fun v => line (.advance v.2 v.1 finish)) ++ [line (.goto again), line .popScope]

/-- One loop inside another, the last variable moving fastest. -/
def combinations (origin : Option String) (body : Block κ) : List (NameId × Target) → Block κ
  | [] => fun at_ => [⟨.pushScope, origin⟩] ++ body (at_ + 1) ++ [⟨.popScope, origin⟩]
  | (x, t) :: vars => fun at_ =>
    let inner := combinations origin body vars (at_ + 2)
    let finish := at_ + 2 + inner.length + 2
    [⟨.pushScope, origin⟩, ⟨.start t x finish, origin⟩] ++ inner ++
      [⟨.advance t x finish, origin⟩, ⟨.goto (at_ + 2), origin⟩, ⟨.popScope, origin⟩]

/-- A block that runs when every guard is the text `false`. -/
def guarded (origin : Option String) (guards : List Path) (body : Block κ) : Block κ :=
  fun at_ =>
    let inner := body (at_ + guards.length + 1)
    let finish := at_ + guards.length + 1 + inner.length + 1
    guards.map (fun g => ⟨.branch g finish, origin⟩) ++ [⟨.pushScope, origin⟩] ++ inner ++
      [⟨.popScope, origin⟩]

end Code

namespace Statement

variable {κ : Type}

mutual

/-- Every single instruction of a statement has a property, however deep it stands. -/
def All (P : Instruction κ → Prop) : Statement κ → Prop
  | single i _ => P i
  | loop _ _ body _ => AllIn P body
  | guarded _ body _ => AllIn P body

/-- Every single instruction of a list of statements has a property. -/
def AllIn (P : Instruction κ → Prop) : List (Statement κ) → Prop
  | [] => True
  | s :: rest => All P s ∧ AllIn P rest

end

mutual

/-- The code of a statement. -/
def code : Statement κ → Code.Block κ
  | single i origin, _ => [⟨i, origin⟩]
  | loop .group vars body origin, at_ => Code.group origin vars (codeAll body) at_
  | loop .combinations vars body origin, at_ => Code.combinations origin (codeAll body) vars at_
  | guarded guards body origin, at_ => Code.guarded origin guards (codeAll body) at_

/-- The code of a list of statements, one after the other. -/
def codeAll : List (Statement κ) → Code.Block κ
  | [], _ => []
  | s :: rest, at_ =>
    let first := code s at_
    first ++ codeAll rest (at_ + first.length)

end

end Statement

end Sweep
