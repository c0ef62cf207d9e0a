import Sweep.Expression

/-!
# Instructions and programs

A program is a flat list of instructions, each with the place of the bed that it comes from.  The
instruction set is generic in the commands that are handed to an executor.  Jumps name the position
of an instruction, where positions below zero count from the end; a position after the last
instruction ends the run.
-/

namespace Sweep

/-- What a loop walks over. -/
inductive Target where
  /-- The elements of a variable. -/
  | elements (var : NameId)
  /-- The integers of a half-open range. -/
  | range (start stop : Bound)
  deriving Repr, DecidableEq

/-- One instruction; `κ` is the type of the commands. -/
inductive Instruction (κ : Type) where
  | pushScope
  | popScope
  /-- Bind a variable in a scope, the innermost one if none is given. -/
  | create (var : NameId) (value : Expr) (scope : Option Int)
  /-- Overwrite a binding that exists. -/
  | assign (var : NameId) (value : Expr) (scope : Option Int)
  /-- Append to a list. -/
  | push (var : NameId) (value : Expr)
  /-- Bind a loop variable to the first element, or jump when there is none. -/
  | start (target : Target) (iter : NameId) (jump : Int)
  /-- Move a loop variable to the next element, or jump when there is none. -/
  | advance (target : Target) (iter : NameId) (jump : Int)
  /-- Jump unless a guard is the text `false`. -/
  | branch (guard : Path) (jump : Int)
  | goto (jump : Int)
  | command (c : κ)
  deriving Repr

/-- An instruction after which the next one always follows: it neither jumps nor may jump. -/
def Instruction.isPlain {κ : Type} : Instruction κ → Bool
  | start .. | advance .. | branch .. | goto .. => false
  | _ => true

/-- An instruction with the place it comes from. -/
structure Line (κ : Type) where
  instruction : Instruction κ
  origin : Option String
  deriving Repr

/-- A flat list of instructions with their places. -/
abbrev Program (κ : Type) := List (Line κ)

/-- The text of what a loop walks over. -/
def Target.describe (names : NameTable) : Target → String
  | elements x => names.display x
  | range start stop => "range(" ++ start.describe names ++ ", " ++ stop.describe names ++ ")"

/-- The text of an explicit scope. -/
def describeScope : Option Int → String
  | none => ""
  | some n => " @" ++ toString n

/-- The text of an instruction, given the text of a command. -/
def Instruction.describe {κ : Type} (command : NameTable → κ → String) (names : NameTable) :
    Instruction κ → String
  | pushScope => "PushScope"
  | popScope => "PopScope"
  | create x e scope =>
    "CreateVar " ++ names.display x ++ describeScope scope ++ " = " ++ e.describe names
  | assign x e scope =>
    "AssignVar " ++ names.display x ++ describeScope scope ++ " = " ++ e.describe names
  | push x e => "PushList " ++ names.display x ++ " <- " ++ e.describe names
  | start t x jump =>
    "StartIter " ++ names.display x ++ " in " ++ t.describe names ++ " else -> " ++ toString jump
  | advance t x jump =>
    "Increment " ++ names.display x ++ " in " ++ t.describe names ++ " done -> " ++ toString jump
  | branch p jump =>
    "ConditionalJump " ++ p.describe names ++ " != false -> " ++ toString jump
  | goto jump => "Goto " ++ toString jump
  | .command c => "Command " ++ command names c

namespace Program

/-- The line at a position; a position below zero counts from the end. -/
def at? {κ : Type} (p : Program κ) : Int → Option (Line κ)
  | .ofNat n => p[n]?
  | .negSucc n => if n < p.length then p[p.length - (n + 1)]? else none

/-- A number in a column of some width. -/
def column (width n : Nat) : String :=
  let s := toString n
  String.ofList (List.replicate (width - s.length) ' ') ++ s

/-- A place after a semicolon, unless there is none. -/
def describeOrigin : Option String → String
  | some place => if place.isEmpty then "" else "  ; " ++ place
  | none => ""

/-- The lines of a listing from a position on. -/
def listingFrom {κ : Type} (command : NameTable → κ → String) (names : NameTable) (width : Nat) :
    (position : Nat) → Program κ → List String
  | _, [] => []
  | i, line :: rest =>
    (column width i ++ "  " ++ line.instruction.describe command names ++
      describeOrigin line.origin) :: listingFrom command names width (i + 1) rest

/-- The numbered listing of a program. -/
def listing {κ : Type} (command : NameTable → κ → String) (names : NameTable) (p : Program κ) :
    String :=
  let width := (toString (p.length - 1)).length
  "\n".intercalate (listingFrom command names width 0 p)

/-- A program in short: how many instructions it has. -/
def summary {κ : Type} (p : Program κ) : String :=
  "Program(instructions=" ++ toString p.length ++ ")"

end Program

end Sweep
