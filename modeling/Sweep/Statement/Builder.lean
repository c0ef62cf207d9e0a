import Sweep.Statement

/-!
# Compiling

Code is built line by line.  A builder has the lines that were emitted so far, and the origin that is
stamped on every line until it changes.  A jump whose target is not known yet is emitted with the target
zero and patched when the target is known.

The body of a loop or of a guarded block is built with the same builder, so it leaves another origin behind;
the origin of the loop or block is put back before the lines that follow.
-/

namespace Sweep

variable {κ : Type}

/-- An instruction that may jump, with another target. -/
def Instruction.retarget (target : Int) : Instruction κ → Instruction κ
  | start t x _ => .start t x target
  | advance t x _ => .advance t x target
  | branch guard _ => .branch guard target
  | i => i

/-- A line with another target. -/
def Line.retarget (target : Int) (line : Line κ) : Line κ :=
  { line with instruction := line.instruction.retarget target }

/-- Code under construction. -/
structure Builder (κ : Type) where
  lines : Program κ := []
  /-- What is stamped on the next line. -/
  origin : Option String := none

namespace Builder

/-- The position of the next line. -/
def size (b : Builder κ) : Nat := b.lines.length

/-- Stamp another origin from here on. -/
def stamp (origin : Option String) (b : Builder κ) : Builder κ := { b with origin }

/-- Add an instruction. -/
def emit (i : Instruction κ) (b : Builder κ) : Builder κ :=
  { b with lines := b.lines ++ [⟨i, b.origin⟩] }

/-- Add instructions in a row. -/
def emitAll (is : List (Instruction κ)) (b : Builder κ) : Builder κ :=
  is.foldl (fun b i => b.emit i) b

/-- Let the instruction at a position jump to a target. -/
def patch (target position : Nat) (b : Builder κ) : Builder κ :=
  { b with lines := b.lines.modify position (Line.retarget target) }

/-- Let the instructions at some positions jump to a target. -/
def patchAll (target : Nat) (positions : List Nat) (b : Builder κ) : Builder κ :=
  positions.foldl (fun b n => b.patch target n) b

/-- A body in a scope of its own. -/
def scope (body : Builder κ → Builder κ) (b : Builder κ) : Builder κ :=
  (body (b.emit .pushScope)).emit .popScope

/-- A loop whose variables advance in lock step. -/
def group (vars : List (NameId × Target)) (body : Builder κ → Builder κ) (b : Builder κ) :
    Builder κ :=
  let b := b.emit .pushScope
  let starts := List.range' b.size vars.length
  let b := b.emitAll (vars.map fun v => .start v.2 v.1 0)
  let again := b.size
  let b := scope body b
  let advances := List.range' b.size vars.length
  let b := (b.emitAll (vars.map fun v => .advance v.2 v.1 0)).emit (.goto again)
  let finish := b.size
  (b.emit .popScope).patchAll finish (starts ++ advances)

/-- One loop inside another, the last variable moving fastest. -/
def combinations (body : Builder κ → Builder κ) :
    List (NameId × Target) → Builder κ → Builder κ
  | [], b => scope body b
  | (x, t) :: vars, b =>
    let b := b.emit .pushScope
    let start := b.size
    let b := b.emit (.start t x 0)
    let again := b.size
    let b := combinations body vars b
    let advance := b.size
    let b := (b.emit (.advance t x 0)).emit (.goto again)
    let finish := b.size
    (b.emit .popScope).patchAll finish [start, advance]

/-- A block that runs when every guard is the text `false`. -/
def guarded (guards : List Path) (body : Builder κ → Builder κ) (b : Builder κ) : Builder κ :=
  let branches := List.range' b.size guards.length
  let b := scope body (b.emitAll (guards.map fun g => .branch g 0))
  b.patchAll b.size branches

end Builder

namespace Statement

mutual

/-- Build the code of a statement. -/
def build : Statement κ → Builder κ → Builder κ
  | single i origin, b => (b.stamp origin).emit i
  | loop .group vars body origin, b =>
    (b.stamp origin).group vars fun b => (buildAll body b).stamp origin
  | loop .combinations vars body origin, b =>
    Builder.combinations (fun b => (buildAll body b).stamp origin) vars (b.stamp origin)
  | guarded guards body origin, b =>
    (b.stamp origin).guarded guards fun b => (buildAll body b).stamp origin

/-- Build the code of statements, one after the other. -/
def buildAll : List (Statement κ) → Builder κ → Builder κ
  | [], b => b
  | s :: rest, b => buildAll rest (build s b)

end

end Statement

/-- The program of a list of statements. -/
def compile (statements : List (Statement κ)) : Program κ := (Statement.buildAll statements {}).lines

end Sweep
