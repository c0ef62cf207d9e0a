import Sweep.Render.Engine
import Sweep.Render.Template
import Sweep.Text.DecodeFault

/-!
# An engine for templates

The engine of the program.  It reads a template from the first directory of the search path that has it, and
uses it again as long as its file is unchanged.
-/

namespace Sweep

open Text (Bytes)

/-- A template in use: its file, the bytes that were read, and the template itself. -/
structure LoadedTemplate where
  file : Pathname
  bytes : Bytes
  template : Template
  deriving Repr, DecidableEq

namespace Template

/-- The parts of the name of a template; a name that goes up stands for none. -/
def nameParts? (name : String) : Option (List String) :=
  let p := Pathname.ofString name
  if p.parts.contains ".." then none else some p.parts

/-- What is said about a template that is not in the search path. -/
def missingText (includes : List Pathname) (name : String) : String :=
  let places := if includes.length = 1 then "path" else "paths"
  Text.display name ++ " not found in search " ++ places ++ ": " ++
    ", ".intercalate (includes.map fun p => Text.display p.text)

/-- The first file of the search path with a name, and its bytes, or what is said if there is
none. -/
def search (includes : List Pathname) (d : Disk) (name : String) : Except String (Pathname × Bytes) :=
  match nameParts? name with
  | none => .error name
  | some parts =>
    let found := includes.findSome? fun directory =>
      let file := directory.join ⟨.relative, parts⟩
      match d.find? file with
      | some (.file bytes) => some (file, bytes)
      | _ => none
    match found with
    | some f => .ok f
    | none => .error (missingText includes name)

/-- A file that is not text, as a failure of the engine. -/
def notText (f : Text.DecodeFault) : Foreign := ⟨"UnicodeDecodeError", f.message⟩

/-- Find a template, with the templates in use. -/
def find (includes : List Pathname) (loaded : List (String × LoadedTemplate)) (d : Disk) (name : String) :
    Except EngineError LoadedTemplate :=
  match (Assoc.get? name loaded).filter fun t => d.find? t.file = some (.file t.bytes) with
  | some t => .ok t
  | none =>
    match search includes d name with
    | .error cause => .error (.missing cause)
    | .ok (file, bytes) =>
      match Text.ofWhole bytes with
      | .error f => .error (.foreign (notText f))
      | .ok text =>
        match ofString text with
        | .error e => .error (.faulty e.message)
        | .ok template => .ok ⟨file, bytes, template⟩

/-- The templates in use after some calls. -/
def loadedAfter (includes : List Pathname) (calls : List EngineCall) : List (String × LoadedTemplate) :=
  calls.foldl (fun loaded call =>
    match call with
    | .find d name =>
      match find includes loaded d name with
      | .ok t => Assoc.set name t loaded
      | .error _ => loaded
    | .render .. => loaded) []

end Template

/-- The engine that fills in templates of text with values in double braces. -/
def Engine.plain : Engine where
  find includes before d name := do
    let _ ← Template.find includes (Template.loadedAfter includes before) d name
  render includes before d name values := do
    let t ← Template.find includes (Template.loadedAfter includes before) d name
    (t.template.render name (Assoc.get? · values)).mapError fun e => .faulty e.message

end Sweep
