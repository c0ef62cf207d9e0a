import Sweep.Bed
import Sweep.Render.Rendering
import Sweep.Supervision.Crew

/-!
# Running a bed

A session runs the programs of a bed on one stack of scopes.

* The globals come first; they fill the outermost scope, which every later program sees.
* Template programs follow in the order of the bed, then command programs.  Between two command
  programs the children that are left are waited for, and the next program starts with a new crew.
* When the globals fail nothing else is run.  Any other failure is kept for the report, and the run
  goes on, unless it is to stop at the first failure.
* Once the flag is up no further program is started.

The report lists the programs that ran to their end and those that failed.  A run succeeds when no
program failed and the flag is not up.
-/

namespace Sweep

/-- A program that failed. -/
structure ProgramFailure where
  program : String
  error : String
  /-- The place of the instruction that failed. -/
  origin : Option String
  deriving DecidableEq, Repr

/-- What is reported of a run. -/
structure Report where
  /-- The programs that ran to their end, in order. -/
  programs : List String
  failures : List ProgramFailure
  templateErrors : Nat
  spawnFailures : Nat
  cancelled : Bool
  /-- How long the run took, in whole milliseconds. -/
  duration : Nat
  deriving DecidableEq, Repr

namespace Report

/-- No program failed, and the run was not cancelled. -/
def isSuccess (r : Report) : Bool := r.failures.isEmpty && !r.cancelled

/-- A text, or null. -/
def textOrNull : Option String → Document
  | some s => .text s
  | none => .null

/-- A failure as data. -/
def failureDocument (f : ProgramFailure) : Document :=
  .ofFields [("program", .text f.program), ("error", .text f.error), ("origin", textOrNull f.origin)]

/-- The report as data; cancellation is mentioned only when it happened. -/
def document (r : Report) : Document :=
  .ofFields ([("success", .bool r.isSuccess),
    ("programs", .list (r.programs.map .text)),
    ("failures", .list (r.failures.map failureDocument)),
    ("template_errors", .int r.templateErrors),
    ("spawn_failures", .int r.spawnFailures),
    ("duration_ms", .int r.duration)] ++ if r.cancelled then [("cancelled", .bool true)] else [])

end Report

/-- How a bed is to be run. -/
structure Setup where
  /-- Stop at the first program that fails. -/
  failFast : Bool := false
  /-- Where rendered files go, instead of where the bed says. -/
  output : Option Pathname := none
  /-- The search path for templates, unless it is empty, instead of that of the bed. -/
  includes : List Pathname := []
  labelArguments : Option Int := none
  /-- The progress file. -/
  progress : Option Pathname := none
  /-- What finds templates and fills them in. -/
  engine : Engine := default
  /-- What makes estimates about loops. -/
  estimator : Estimator := default
  /-- At most so many instructions are taken by one program. -/
  budget : Nat
  /-- At most so many questions are asked in one wait without limit. -/
  patience : Nat

/-- Why a run gives no report. -/
inductive RunError where
  | unknownPrograms (names : List String)
  | crashed (c : Crash)
  deriving DecidableEq, Repr

def RunError.message : RunError → String
  | unknownPrograms names => "Unknown program(s): " ++ ", ".intercalate names
  | crashed c => c.message

/-- The state of a run. -/
structure Session where
  scopes : Scopes := []
  renderer : Renderer
  crew : Crew
  world : World
  /-- The programs that ran to their end. -/
  finished : List String := []
  failures : List ProgramFailure := []

namespace Session

/-- The name of the command program that has none. -/
def unnamed : String := "commands"

/-- The state before the first program. -/
def new (bed : Bed) (setup : Setup) (world : World) : Session where
  renderer :=
    { output := setup.output.getD bed.output
      includes := if setup.includes.isEmpty then bed.includes else setup.includes
      engine := setup.engine }
  crew :=
    { progress := match setup.progress with
        | some path => .closed path
        | none => .none
      labelArguments := setup.labelArguments
      estimator := setup.estimator }
  world := world

/-- The labels of a record about a program. -/
def labels (event name : String) : List (String × Document) :=
  [("program", .text name), ("event", .text event)]

/-- Record something in the world of a run. -/
def record (t : Session) (level : Level) (message : String) (labels : List (String × Document)) :
    Session :=
  { t with world := t.world.record level Source.session message labels }

/-- A program starts. -/
def announce (name : String) (t : Session) : Session :=
  t.record .info ("Running program " ++ name) (labels "program_start" name)

/-- Take note of how a program ended; false if it failed. -/
def conclude (names : NameTable) (name : String) (outcome : Outcome) (t : Session) :
    Except Crash Bool × Session :=
  match outcome with
  | .finished | .stopped =>
    if t.world.isCancelled then (.ok true, t)
    else
      let t : Session := { t with finished := t.finished ++ [name] }
      (.ok true, t.record .info ("Program " ++ name ++ " finished") (labels "program_finish" name))
  | .failed position e origin =>
    let error := failureMessage position origin (e.message names)
    let t : Session := { t with failures := t.failures ++ [⟨name, error, origin⟩] }
    (.ok false, t.record .error ("Program " ++ name ++ " failed: " ++ error)
      (labels "program_failed" name))
  | .crashed c => (.error c, t)
  | .exhausted => (.error .endless, t)

/-- Run a program that renders files. -/
def runRendering (names : NameTable) (setup : Setup) (name : String) (p : Program RenderCommand)
    (keep : Bool) (t : Session) : Except Crash Bool × Session :=
  let t := t.announce name
  let (outcome, scopes, v) := Machine.run (Rendering.executor names)
    (fun _ v => v.world.isCancelled) setup.budget p keep t.scopes ⟨t.renderer, t.world⟩
  conclude names name outcome { t with scopes, renderer := v.renderer, world := v.world }

/-- Stop the crew of a program that failed. -/
def stopAfter (outcome : Outcome) (v : Supervision) : Supervision :=
  match outcome with
  | .failed .. => v.stopAll
  | _ => v

/-- Run a program that starts children. -/
def runCommanding (names : NameTable) (setup : Setup) (name : String) (p : Program Command)
    (t : Session) : Except Crash Bool × Session :=
  let t := t.announce name
  let (outcome, scopes, v) := Machine.run (Supervision.executor names setup.patience)
    (fun _ v => v.world.isCancelled) setup.budget p false t.scopes ⟨t.crew, t.world⟩
  let v := stopAfter outcome v
  conclude names name outcome { t with scopes, crew := v.crew, world := v.world }

/-- Run template programs; true if command programs may follow. -/
def runTemplates (names : NameTable) (setup : Setup) :
    List (String × Program RenderCommand) → Session → Except Crash Bool × Session
  | [], t => (.ok true, t)
  | (name, p) :: rest, t =>
    if t.world.isCancelled then (.ok false, t)
    else
      match t.runRendering names setup name p false with
      | (.error c, t) => (.error c, t)
      | (.ok good, t) =>
        if !good && setup.failFast then (.ok false, t) else runTemplates names setup rest t

/-- Make ready for the next command program; the first one finds everything ready. -/
def prepare (setup : Setup) (first : Bool) (t : Session) : Except Crash Unit × Session :=
  if first then (.ok (), t)
  else
    let (r, v) := Supervision.reset setup.patience ⟨t.crew, t.world⟩
    (r, { t with crew := v.crew, world := v.world })

/-- Run command programs. -/
def runCommands (names : NameTable) (setup : Setup) (first : Bool) :
    List (String × Program Command) → Session → Except Crash Unit × Session
  | [], t => (.ok (), t)
  | (name, p) :: rest, t =>
    if t.world.isCancelled then (.ok (), t)
    else
      match t.prepare setup first with
      | (.error c, t) => (.error c, t)
      | (.ok (), t) =>
        match t.runCommanding names setup name p with
        | (.error c, t) => (.error c, t)
        | (.ok good, t) =>
          if !good && setup.failFast then (.ok (), t) else runCommands names setup false rest t

/-- Run the globals, then template programs, then command programs. -/
def runAll (bed : Bed) (setup : Setup) (templates : List (String × Program RenderCommand))
    (commands : List (String × Program Command)) (t : Session) : Except Crash Unit × Session :=
  match t.runRendering bed.names setup "globals" (compile bed.globals) true with
  | (.error c, t) => (.error c, t)
  | (.ok false, t) => (.ok (), t)
  | (.ok true, t) =>
    match t.runTemplates bed.names setup templates with
    | (.error c, t) => (.error c, t)
    | (.ok false, t) => (.ok (), t)
    | (.ok true, t) => t.runCommands bed.names setup true commands

/-- The template programs of a bed. -/
def templatesOf (bed : Bed) : List (String × Program RenderCommand) :=
  bed.templates.map fun (name, p) => (name, compile p)

/-- The command programs of a bed; the one without a name gets one. -/
def commandsOf (bed : Bed) : List (String × Program Command) :=
  bed.commands.map fun (name, p) => (name.getD unnamed, compile p)

/-- The names that are asked for but not in the bed. -/
def unknownNames (bed : Bed) (wanted : List String) : List String :=
  let known := (templatesOf bed).map (·.1) ++ (commandsOf bed).map (·.1)
  wanted.filter fun name => !known.contains name

/-- A program is wanted: every program is, unless names are given. -/
def isWanted (wanted : Option (List String)) (name : String) : Bool :=
  match wanted with
  | none => true
  | some names => names.contains name

/-- The report on a run that started at a moment. -/
def report (start : Nat) (t : Session) : Report where
  programs := t.finished
  failures := t.failures
  templateErrors := t.renderer.faults.length
  spawnFailures := t.crew.spawnFailures
  cancelled := t.world.isCancelled
  duration := (t.world.now - start) / 1000

/-- Record the end of a run. -/
def recordEnd (r : Report) (t : Session) : Session :=
  let result := if r.isSuccess then "succeeded" else "failed"
  t.record .info ("Run " ++ result ++ " in " ++ toString r.duration ++ "ms")
    [("event", .text "run_finish")]

/-- Run a bed, or those of its programs that are wanted, after the globals. -/
def run (bed : Bed) (setup : Setup) (wanted : Option (List String)) (t : Session) :
    Except RunError Report × Session :=
  match unknownNames bed (wanted.getD []) with
  | name :: names => (.error (.unknownPrograms (name :: names)), t)
  | [] =>
    let start := t.world.now
    let templates := (templatesOf bed).filter fun p => isWanted wanted p.1
    let commands := (commandsOf bed).filter fun p => isWanted wanted p.1
    match runAll bed setup templates commands t with
    | (.error c, t) => (.error (.crashed c), t)
    | (.ok (), t) =>
      let r := t.report start
      (.ok r, t.recordEnd r)

end Session

end Sweep
