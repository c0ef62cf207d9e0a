import Sweep.Expression.Reader
import Sweep.Render.Command
import Sweep.Statement
import Sweep.Supervision.Command

/-!
# Reading statements

A statement is a mapping with one keyword.  Three keywords bind (`set`, `assign`, `push`), two hold
blocks (`for`, `if`), and each kind of program adds keywords of its own for its commands; a
`Dialect` says which.  A bare text stands for the keyword without data.

A loop target that is a variable or a range is walked over directly.  Any other target is bound
first to a hidden variable that is named after the place of the target, which no path can name.
-/

namespace Sweep

/-- What a kind of program adds to the common statements. -/
structure Dialect (κ : Type) where
  /-- The kind of program, as messages call it. -/
  name : String
  /-- Every keyword that may start a statement. -/
  keywords : List String
  /-- Read the data of a keyword that is not common to all programs: commands with their places. -/
  commands : (keyword location : String) → Document → Reading (List (κ × String))

/-- A list of keys in order, for a message, if they can be written. -/
def sortedKeys? (keys : List Key) : Option String :=
  if keys.all Key.isWritable then
    some (", ".intercalate ((keys.map Key.display).mergeSort fun a b => !(b < a)))
  else none

/-- The keys of a mapping that are not among those expected. -/
def otherKeys (entries : List (Key × Document)) (expected : List String) : List Key :=
  (entries.map Prod.fst).filter fun k => !k.isAmong expected

/-- Stop unless there are no keys, with a flaw that names them. -/
def Reading.refuseKeys (location : String) (flaw : String → Flaw) (keys : List Key) :
    Reading Unit := do
  unless keys.isEmpty do stop location (flaw (← written (sortedKeys? keys)))

/-- The bindings of a statement: a mapping that is not empty. -/
def readBindings (location : String) : Document → Reading (List (Key × Document))
  | .mapping (e :: es) => return e :: es
  | _ => Reading.stop location .bindingsForm

namespace Target

/-- Read a loop target: what is walked over, or the expression to bind first. -/
def read (location : String) : Document → Reading (Target ⊕ Expr)
  | .mapping [(.text "range", bounds)] => do
    let (a, b) ← Bound.readPair location bounds
    return .inl (.range a b)
  | .list items => do return .inr (← Expr.read location (.list items))
  | .text s => do
    let path ← Path.ofString location s
    return if path.isBare then .inl (.elements path.var) else .inr (.copy path)
  | _ => Reading.stop location .targetForm

end Target

namespace Build

/-- A template and an output name. -/
def read (location : String) : Document → Reading Build
  | .list [template, output] => do
    return ⟨← Expr.readScalar location template, ← Expr.readScalar location output⟩
  | _ => Reading.stop location .buildForm

end Build

namespace BuiltExpr

/-- A field of a built struct: a rendered file if `build` is its only key. -/
def readField (location : String) : Document → Reading BuiltField
  | .mapping [(.text "build", data)] => do return .file (← Build.read location data)
  | d => do return .value (← Expr.read location d)

/-- The fields of a built struct; a name is interned after the value under it. -/
def readFields (location : String) :
    List (Key × Document) → Reading (List (NameId × BuiltField))
  | [] => return []
  | (key, d) :: rest =>
    if key = .text "build" ∨ key = .text "base" then readFields location rest
    else do
      let name ← Reading.written key.written?
      let field ← readField (location ++ "." ++ name) d
      let x ← Reading.intern name
      return (x, field) :: (← readFields location rest)

/-- Read a struct whose base comes from exactly one of `build` and `base`. -/
def read (location : String) : Document → Reading BuiltExpr
  | .mapping entries =>
    match Document.entryAt? entries "build", Document.entryAt? entries "base" with
    | some data, none => do
      let b ← Build.read (location ++ ".build") data
      return ⟨.file b, ← readFields location entries⟩
    | none, some data => do
      let t ← Expr.readScalar (location ++ ".base") data
      return ⟨.text t, ← readFields location entries⟩
    | _, _ => Reading.stop location .builtObjectForm
  | d => do return ⟨.text (← Expr.readScalar location d), []⟩

end BuiltExpr

namespace RenderCommand

/-- One command for each binding; a name is interned after the value under it. -/
def readEach (location : String) (read : String → Document → Reading (NameId → RenderCommand)) :
    List (Key × Document) → Reading (List (RenderCommand × String))
  | [] => return []
  | (key, d) :: rest => do
    let name ← Reading.written key.written?
    let place := location ++ "." ++ name
    let make ← read place d
    let x ← Reading.intern name
    return (make x, place) :: (← readEach location read rest)

def readBuild (place : String) (d : Document) : Reading (NameId → RenderCommand) := do
  let object ← BuiltExpr.read place d
  return (.bind · object)

/-- A mapping with `build` is a built struct, anything else a plain value. -/
def readYield (place : String) (d : Document) : Reading (NameId → RenderCommand) := do
  let object ← match d with
    | .mapping entries =>
      if (Document.entryAt? entries "build").isSome then do pure (Product.built (← BuiltExpr.read place d))
      else do pure (Product.plain (← Expr.read place d))
    | _ => do pure (Product.plain (← Expr.read place d))
  return (.yield · object)

def readCommands (keyword location : String) (d : Document) :
    Reading (List (RenderCommand × String)) := do
  let place := location ++ "." ++ keyword
  let bindings ← readBindings place d
  readEach place (if keyword = "build" then readBuild else readYield) bindings

end RenderCommand

namespace Launch

/-- Where a stream goes. -/
def readRouting (location : String) : Document → Reading (Routing Interpolation)
  | .null => return .print
  | .text "print" => return .print
  | .mapping [(.text "create", path)] => do return .create (← Expr.readScalar location path)
  | .mapping [(.text "append", path)] => do return .append (← Expr.readScalar location path)
  | _ => Reading.stop location .outputForm

def readArgument (location : String) : Document → Reading Argument
  | .mapping [(.text "splat", path)] => do return .spread (← Expr.readPath location path)
  | .mapping _ => Reading.stop location .argumentForm
  | d => do return .one (← Expr.readScalar location d)

def readArguments (location : String) (i : Nat) : List Document → Reading (List Argument)
  | [] => return []
  | d :: rest => do
    let a ← readArgument (location ++ "[" ++ toString i ++ "]") d
    return a :: (← readArguments location (i + 1) rest)

/-- Read a child to start: a command text, or a mapping with a command. -/
def read (location : String) : Document → Reading Launch
  | .text s => do return { command := ← Interpolation.read location s }
  | .mapping entries =>
    match Document.entryAt? entries "command" with
    | none => Reading.stop location .spawnForm
    | some command => do
      Reading.refuseKeys location .spawnKeys
        (otherKeys entries ["command", "args", "stdout", "stderr", "cwd"])
      let arguments ← readArguments (location ++ ".args") 0
        ((Document.entryAt? entries "args").getD (.list [])).asList
      let directory ← match Document.entry entries "cwd" with
        | .null => pure none
        | d => do pure (some (← Expr.readScalar (location ++ ".cwd") d))
      let command ← Expr.readScalar (location ++ ".command") command
      let stdout ← readRouting (location ++ ".stdout") (Document.entry entries "stdout")
      let stderr ← readRouting (location ++ ".stderr") (Document.entry entries "stderr")
      return { command, arguments, stdout, stderr, directory }
  | _ => Reading.stop location .spawnForm

end Launch

namespace Command

/-- A count or a time that is a non-negative integer. -/
def readAmount (key location : String) : Document → Reading Nat
  | .int (.ofNat n) => return n
  | _ => Reading.stop location (.amountForm key)

/-- Data as an optional value: null is nothing. -/
def optional : Document → Option Document
  | .null => none
  | d => some d

def readWait (location : String) : Document → Reading Command
  | .null => return .wait none none
  | .int n => return .wait (some (.int n)) none
  | .mapping entries => do
    unless (otherKeys entries ["timeout", "polls"]).isEmpty do Reading.stop location .waitForm
    let timeout := optional (Document.entry entries "timeout")
    let polls := optional (Document.entry entries "polls")
    if let some n := polls then
      if timeout.isNone then Reading.stop location .pollsForm
      match n.quantity? with
      | some count => if count.isAtMostZero then Reading.stop location .pollsForm
      | none => throw .pollCount
    return .wait timeout polls
  | _ => Reading.stop location .waitForm

def readCommands (keyword location : String) (d : Document) : Reading (List (Command × String)) := do
  let c ← match keyword with
    | "limit" => do pure (limit (← readAmount "limit" location d))
    | "sleep" => do pure (sleep (← readAmount "sleep" location d))
    | "wait" => readWait location d
    | _ => do pure (spawn (← Launch.read (location ++ ".spawn") d))
  return [(c, location)]

end Command

namespace Dialect

/-- Programs of commands for child processes. -/
def commanding : Dialect Command where
  name := "command"
  keywords := ["set", "assign", "push", "for", "if", "limit", "sleep", "spawn", "wait"]
  commands := Command.readCommands

/-- Programs that render files. -/
def rendering : Dialect RenderCommand where
  name := "template"
  keywords := ["set", "assign", "push", "for", "if", "build", "yield"]
  commands := RenderCommand.readCommands

/-- The program that fills the outermost scope. -/
def seeding : Dialect RenderCommand where
  name := "globals"
  keywords := ["set", "assign", "push"]
  commands := RenderCommand.readCommands

end Dialect

namespace Statement

variable {κ : Type}

/-- One instruction for each binding; a name is interned before the value under it. -/
def readEach (location : String) (make : NameId → Expr → Instruction κ) :
    List (Key × Document) → Reading (List (Statement κ))
  | [] => return []
  | (key, d) :: rest => do
    let name ← Reading.written key.written?
    let place := location ++ "." ++ name
    let x ← Reading.intern name
    let e ← Expr.read place d
    return .single (make x e) (some place) :: (← readEach location make rest)

/-- The statements of a binding keyword. -/
def readBinding (keyword location : String) (make : NameId → Expr → Instruction κ) (d : Document) :
    Reading (List (Statement κ)) := do
  let place := location ++ "." ++ keyword
  readEach place make (← readBindings place d)

/-- The place of a loop target. -/
def targetPlace (location : String) (count i : Nat) : String :=
  if count = 1 then location ++ ".in" else location ++ ".in[" ++ toString i ++ "]"

/-- Read the targets of a loop, with the bindings of hidden variables that they need. -/
def readTargets (location : String) (count i : Nat) :
    List Document → Reading (List (Statement κ) × List Target)
  | [] => return ([], [])
  | d :: rest => do
    let place := targetPlace location count i
    match ← Target.read place d with
    | .inl t =>
      let (hidden, ts) ← readTargets location count (i + 1) rest
      return (hidden, t :: ts)
    | .inr e =>
      let x ← Reading.intern place
      let (hidden, ts) ← readTargets location count (i + 1) rest
      return (.single (.create x e none) (some place) :: hidden, .elements x :: ts)

/-- The loop variables and their targets, as documents. -/
def loopParts (location : String) (entries : List (Key × Document)) :
    Reading (List Document × List Document) :=
  match Document.entry entries "for", Document.entry entries "in" with
  | .list iters, .list targets =>
    if iters.isEmpty || iters.length ≠ targets.length then Reading.stop location .loopArity
    else return (iters, targets)
  | .list _, _ => Reading.stop location .loopArity
  | iter, target => return ([iter], [target])

/-- The mode of a loop; combinations if none is given. -/
def readMode (location : String) (entries : List (Key × Document)) : Reading LoopMode :=
  match (Document.entryAt? entries "mode").getD (.text "combinations") with
  | .text "group" => return .group
  | .text "combinations" => return .combinations
  | d => do Reading.stop location (.loopMode (← Reading.written d.written?))

/-- A loop over variables and targets; without one target for each variable there is no code for it. -/
def loopOf (mode : LoopMode) (iters : List NameId) (targets : List Target)
    (body : List (Statement κ)) (origin : Option String) : Reading (Statement κ) :=
  match pairTargets? iters targets with
  | some vars => return .loop mode vars body origin
  | none => throw .unpaired

/-- Read a loop variable. -/
def readVariable (d : Document) : Reading NameId := do
  Reading.intern (Text.stripString (← Reading.written d.written?))

/-- Read a loop, given how to read its body. -/
def readLoop (location : String) (entries : List (Key × Document))
    (body : Reading (List (Statement κ))) : Reading (List (Statement κ)) := do
  let (iters, targets) ← loopParts location entries
  let mode ← readMode location entries
  let (hidden, targets) ← readTargets location targets.length 0 targets
  let vars ← iters.mapM readVariable
  let body ← body
  return hidden ++ [← loopOf mode vars targets body (some location)]

/-- Read a guarded block, given how to read its body. -/
def readGuarded (location : String) (entries : List (Key × Document))
    (body : Reading (List (Statement κ))) : Reading (List (Statement κ)) := do
  let guards ← (Document.entry entries "if").asList.mapM (Expr.readPath (location ++ ".if"))
  let body ← body
  return [.guarded guards body (some location)]

/-- The keys that may stand beside a keyword, itself included. -/
def allowedBeside : String → List String
  | "for" => ["for", "in", "mode", "do"]
  | "if" => ["if", "do"]
  | keyword => [keyword]

/-- Read a statement from its entries, given how to read its body. -/
def readEntries (dialect : Dialect κ) (location : String) (entries : List (Key × Document))
    (body : Reading (List (Statement κ))) : Reading (List (Statement κ)) := do
  match (Document.textKeys entries).find? dialect.keywords.contains with
  | none =>
    let first ← Reading.written ((entries.map Prod.fst).headD default).written?
    Reading.stop location (.unknownStatement first dialect.name)
  | some keyword =>
    Reading.refuseKeys location (.unexpectedKeys keyword) (otherKeys entries (allowedBeside keyword))
    let data := Document.entry entries keyword
    match keyword with
    | "set" => readBinding keyword location (fun x e => .create x e none) data
    | "assign" => readBinding keyword location (fun x e => .assign x e none) data
    | "push" => readBinding keyword location .push data
    | "for" => readLoop location entries body
    | "if" => readGuarded location entries body
    | _ =>
      let commands ← dialect.commands keyword location data
      return commands.map fun (c, place) => .single (.command c) (some place)

mutual

/-- Read a block: nothing, or a list of statements. -/
def readBlock (dialect : Dialect κ) (location : String) :
    Document → Reading (List (Statement κ))
  | .null => return []
  | .list items => readAll dialect location 0 items
  | _ => Reading.stop location .blockForm

def readAll (dialect : Dialect κ) (location : String) (i : Nat) :
    List Document → Reading (List (Statement κ))
  | [] => return []
  | d :: rest => do
    let first ← readOne dialect (location ++ "[" ++ toString i ++ "]") d
    return first ++ (← readAll dialect location (i + 1) rest)

/-- Read one statement. -/
def readOne (dialect : Dialect κ) (location : String) :
    Document → Reading (List (Statement κ))
  | .text s => readEntries dialect location [(.text s, .null)] (return [])
  | .mapping (e :: es) =>
    readEntries dialect location (e :: es) (readDo dialect (location ++ ".do") (e :: es))
  | _ => Reading.stop location .statementForm

/-- Read the block under `do`, if there is one. -/
def readDo (dialect : Dialect κ) (location : String) :
    List (Key × Document) → Reading (List (Statement κ))
  | [] => return []
  | (key, d) :: rest =>
    if key = .text "do" then readBlock dialect location d else readDo dialect location rest

end

end Statement

end Sweep
