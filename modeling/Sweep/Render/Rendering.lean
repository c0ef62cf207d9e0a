import Sweep.Machine
import Sweep.Render.Command
import Sweep.Render.Engine
import Sweep.Render.Fault
import Sweep.World.Basic

/-!
# Rendering files

The renderer asks an engine for templates from the directories of a search path, and writes what they
render to below its output directory.  What the engine says of a template or of its values is a failure of
that one file; when the engine fails in any other way, so does the run.

A command of a template program either takes effect or leaves the scopes alone.  A file that cannot
be rendered is reported and kept on record, and the program goes on; a variable that cannot be
resolved ends the program.
-/

namespace Sweep

open Text (Bytes)

/-- The state of the renderer. -/
structure Renderer where
  output : Pathname
  /-- The search path. -/
  includes : List Pathname
  /-- The files that were written, in order. -/
  rendered : List String := []
  /-- The files that failed, in order. -/
  faults : List RenderFault := []
  engine : Engine := default
  /-- What the engine was asked so far, in order. -/
  calls : List EngineCall := []

/-- The renderer and its world. -/
structure Rendering where
  renderer : Renderer
  world : World

/-- Why a file is not rendered. -/
inductive BuildStop where
  | access (e : AccessError)
  | fault (f : RenderFault)
  | crash (c : Crash)
  deriving DecidableEq, Repr

/-- Building keeps what it did to the renderer and the world also when it stops. -/
abbrev Building := ExceptT BuildStop (StateM Rendering)

namespace Rendering

/-- Stop unless something resolves. -/
def resolving {α : Type} (r : Except ReadError α) : Building α :=
  match r with
  | .ok a => return a
  | .error (.access e) => throw (.access e)
  | .error .unwritable => throw (.crash (.number .unwritable))

/-- Write a text to a file, with the directories above it. -/
def save (target : Pathname) (text : String) (fault : SystemError → BuildStop) : Building Unit := do
  if target.parent.hasNul then throw (.crash .nulInName)
  let here ← get
  let (made, disk) := here.world.disk.makeDirectories target.parent
  set { here with world := { here.world with disk } }
  if let .error e := made then throw (fault e)
  if target.hasNul then throw (.crash .nulInName)
  match disk.openFile target true with
  | .error e => throw (fault e)
  | .ok (h, disk) =>
    match disk.appendTo h (Text.utf8 text) with
    | .error e => throw (fault e)
    | .ok disk => modify fun v => { v with world := { v.world with disk } }

/-- Stop because the engine has no template. -/
def notFound (fault : RenderStage → String → BuildStop) : EngineError → BuildStop
  | .missing cause => fault .find cause
  | .faulty cause => fault .render cause
  | .foreign e => .crash (.foreign e)

/-- Stop because the engine has no text for a template, be it for want of another template. -/
def notRendered (fault : RenderStage → String → BuildStop) : EngineError → BuildStop
  | .missing cause | .faulty cause => fault .render cause
  | .foreign e => .crash (.foreign e)

/-- Ask the engine for something. -/
def ask {α : Type} (call : EngineCall) (answer : Except EngineError α) (stop : EngineError → BuildStop) :
    Building α := do
  modify fun v => { v with renderer := { v.renderer with calls := v.renderer.calls ++ [call] } }
  match answer with
  | .ok a => return a
  | .error e => throw (stop e)

/-- Ask the engine for a template. -/
def find (template : String) (fault : RenderStage → String → BuildStop) : Building Unit := do
  let ⟨r, w⟩ ← get
  ask (.find w.disk template) (r.engine.find r.includes r.calls w.disk template) (notFound fault)

/-- Ask the engine for the text of a template. -/
def render (template : String) (values : List (String × String))
    (fault : RenderStage → String → BuildStop) : Building String := do
  let ⟨r, w⟩ ← get
  ask (.render w.disk template values) (r.engine.render r.includes r.calls w.disk template values)
    (notRendered fault)

/-- Render a template to a file below the output directory; stands for the path of the file. -/
def build (names : NameTable) (s : Scopes) (template output : String) : Building String := do
  let target := (← get).renderer.output.join (Pathname.ofString output)
  let fault (stage : RenderStage) (cause : String) : BuildStop :=
    .fault ⟨template, target.text, stage, cause⟩
  find template fault
  let visible ← resolving s.visibleTexts
  let text ← render template (visible.map fun (x, text) => (names.display x, text)) fault
  save target text fun e => fault .save e.message
  modify fun v =>
    { renderer := { v.renderer with rendered := v.renderer.rendered ++ [target.text] }
      world := v.world.record .debug Source.rendering
        ("Rendered " ++ template ++ " -> " ++ target.text) [("event", .text "template")] }
  return target.text

/-- Evaluate the two texts of a rendered file, then render it. -/
def buildFile (names : NameTable) (s : Scopes) (b : Build) : Building String := do
  let template ← resolving (b.template.eval s)
  let output ← resolving (b.output.eval s)
  build names s template output

/-- The value of a field. -/
def buildField (names : NameTable) (s : Scopes) : BuiltField → Building Value
  | .value e => resolving (e.eval s)
  | .file b => return .ofText (← buildFile names s b)

/-- The values of fields, from left to right. -/
def buildFields (names : NameTable) (s : Scopes) :
    List (NameId × BuiltField) → Building (List (NameId × Value))
  | [] => return []
  | (x, f) :: rest => do return (x, ← buildField names s f) :: (← buildFields names s rest)

/-- The value of a built struct: its base, then its fields. -/
def buildObject (names : NameTable) (s : Scopes) (b : BuiltExpr) : Building Value := do
  let base ← match b.base with
    | .text t => resolving (t.eval s)
    | .file f => buildFile names s f
  return .struct base (Assoc.ofList (← buildFields names s b.fields))

/-- The value of what a command produces. -/
def produce (names : NameTable) (s : Scopes) : Product → Building Value
  | .built b => buildObject names s b
  | .plain e => resolving (e.eval s)

/-- The value of a command, before it is put somewhere. -/
def valueOf (names : NameTable) (s : Scopes) : RenderCommand → Building Value
  | .bind _ b => buildObject names s b
  | .yield _ p => produce names s p

/-- Put a value where a command says. -/
def place (s : Scopes) (v : Value) : RenderCommand → Scopes
  | .bind x _ => s.bind x v
  | .yield x _ => s.yield x v

/-- Report a file that was not rendered. -/
def report (f : RenderFault) (v : Rendering) : Rendering :=
  { renderer := { v.renderer with faults := v.renderer.faults ++ [f] }
    world := (v.world.record .error Source.rendering f.message
      [("event", .text "template_failed")]).happen (.fault f) }

/-- Run a command of a template program. -/
def execute (names : NameTable) (c : RenderCommand) (s : Scopes) (v : Rendering) :
    Except Failure Unit × Scopes × Rendering :=
  match (valueOf names s c).run v with
  | (.ok value, v) => (.ok (), place s value c, v)
  | (.error (.fault f), v) => (.ok (), s, report f v)
  | (.error (.access e), v) => (.error (.access e), s, v)
  | (.error (.crash c), v) => (.error (.crash c), s, v)

/-- Say how many files were rendered. -/
def finish (v : Rendering) : Except Crash Unit × Rendering :=
  (.ok (), { v with
    world := v.world.record .debug Source.rendering
      ("Template program finished, " ++ toString v.renderer.rendered.length ++ " file(s) rendered") })

/-- Take note that a program was stopped. -/
def stop (position : Int) (v : Rendering) : Rendering :=
  { v with world := v.world.recordStop position }

/-- What runs template programs. -/
def executor (names : NameTable) : Executor RenderCommand Rendering where
  execute c s v := execute names c s v
  visit _ _ _ s v := (.ok (), s, v)
  finish s v :=
    let (r, v) := finish v
    (r, s, v)
  stop position v := stop position v

end Rendering

end Sweep
