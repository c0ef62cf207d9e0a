import Sweep.Document.Display
import Sweep.Expression
import Sweep.Pathname

/-!
# Commands for child processes

A command program limits how many children run at once, pauses, starts children and waits for
them.  What a child needs is written as interpolated text and evaluated when the command is run.
-/

namespace Sweep

/-- Where an output stream of a child goes, before and after evaluation. -/
inductive Routing (α : Type) where
  /-- To the status line of the child. -/
  | print
  /-- To a new file. -/
  | create (path : α)
  /-- To the end of a file. -/
  | append (path : α)
  deriving Repr, DecidableEq

namespace Routing

/-- The text of a routing, if the stream does not go to the status line. -/
def describe (names : NameTable) : Routing Interpolation → Option String
  | print => none
  | create path => some ("create " ++ path.describe names)
  | append path => some ("append " ++ path.describe names)

def eval (s : Scopes) : Routing Interpolation → Except ReadError (Routing Pathname)
  | print => .ok .print
  | create path => do return .create (Pathname.ofString (← path.eval s))
  | append path => do return .append (Pathname.ofString (← path.eval s))

end Routing

/-- An argument of a child: one text, or one for each element at a path. -/
inductive Argument where
  | one (text : Interpolation)
  | spread (path : Path)
  deriving Repr

namespace Argument

def describe (names : NameTable) : Argument → String
  | one text => text.describe names
  | spread path => "*" ++ path.describe names

def eval (s : Scopes) : Argument → Except ReadError (List String)
  | one text => do return [← text.eval s]
  | spread path => s.spread path

end Argument

/-- A child to start, as it is written. -/
structure Launch where
  command : Interpolation
  arguments : List Argument := []
  stdout : Routing Interpolation := .print
  stderr : Routing Interpolation := .print
  directory : Option Interpolation := none
  deriving Repr

/-- A child to start, with everything evaluated. -/
structure Order where
  command : String
  arguments : List String := []
  stdout : Routing Pathname := .print
  stderr : Routing Pathname := .print
  directory : Option Pathname := none
  deriving Repr, DecidableEq, Inhabited

namespace Launch

/-- Evaluate arguments, directory, command and the two streams, in this order. -/
def eval (s : Scopes) (l : Launch) : Except ReadError Order := do
  let arguments ← l.arguments.mapM (Argument.eval s)
  let directory ← l.directory.mapM fun d => do return Pathname.ofString (← d.eval s)
  let command ← l.command.eval s
  let stdout ← l.stdout.eval s
  let stderr ← l.stderr.eval s
  return { command, arguments := arguments.flatten, stdout, stderr, directory }

/-- A part of a description with its name in front, if there is one. -/
def describeOption (name : String) : Option String → String
  | none => ""
  | some text => " " ++ name ++ "=" ++ text

def describe (names : NameTable) (l : Launch) : String :=
  "spawn " ++ " ".intercalate (l.command.describe names :: l.arguments.map (·.describe names)) ++
    describeOption "stdout" (l.stdout.describe names) ++
    describeOption "stderr" (l.stderr.describe names) ++
    describeOption "cwd" (l.directory.map (·.describe names))

end Launch

namespace Order

/-- Cut a command at slashes and backslashes and take the last part. -/
def lastPart (cs : List Char) : List Char :=
  (cs.reverse.takeWhile fun c => c ≠ '/' ∧ c ≠ '\\').reverse

/-- The arguments that a label shows: all of them, the first few, or all but the last few. -/
def shownArguments (arguments : List String) : Option Int → List String
  | none => arguments
  | some (.ofNat n) => arguments.take n
  | some (.negSucc n) => arguments.take (arguments.length - (n + 1))

/-- The label of a child: the file name of its command, then arguments. -/
def label (o : Order) (shown : Option Int) : String :=
  let name := String.ofList (lastPart o.command.toList)
  " ".intercalate ((if name.isEmpty then "?" else name) :: shownArguments o.arguments shown)

end Order

/-- A command of a command program. -/
inductive Command where
  /-- At most so many children run at once. -/
  | limit (n : Nat)
  /-- Pause for so many milliseconds. -/
  | sleep (ms : Nat)
  | spawn (l : Launch)
  /-- Wait for every child; a time and a number of polls may be given. -/
  | wait (timeout polls : Option Document)
  deriving Repr

namespace Command

def describe (names : NameTable) : Command → String
  | limit n => "limit " ++ toString n
  | sleep ms => "sleep " ++ toString ms ++ "ms"
  | spawn l => l.describe names
  | wait none _ => "wait"
  | wait (some t) none => "wait " ++ t.display ++ "ms"
  | wait (some t) (some n) => "wait " ++ t.display ++ "ms/" ++ n.display

end Command

end Sweep
