import Sweep.Pathname
import Sweep.Statement.Builder
import Sweep.Statement.Reader

/-!
# Beds

A bed holds the programs to run and the directories to use: statements that fill the outermost
scope, template programs by name, and command programs by name or a single unnamed one.  All share
one table of names.  Relative directories are taken inside the directory of the bed.
-/

namespace Sweep

/-- A bed that has been read. -/
structure Bed where
  names : NameTable
  /-- Where rendered files go. -/
  output : Pathname
  /-- Where templates are searched for, in this order. -/
  includes : List Pathname
  globals : List (Statement RenderCommand)
  /-- Template programs in the order in which they are written. -/
  templates : List (String × List (Statement RenderCommand))
  /-- Command programs in the order in which they are written; one alone may have no name. -/
  commands : List (Option String × List (Statement Command))

/-- Why a bed cannot be read: a refusal of its statements, or a home directory that cannot be found. -/
inductive BedError where
  | refused (r : Refusal)
  | home (e : HomeError)
  deriving DecidableEq, Repr

def BedError.message : BedError → String
  | refused r => r.message
  | home e => e.message

/-- Where a bed is read. -/
structure Whereabouts where
  /-- The directory of the bed. -/
  directory : Pathname
  home : Homes
  deriving Inhabited

/-- The place of mistakes that concern the bed as a whole. -/
def Bed.place : String := "<bed>"

/-- A program of a bed, to be listed. -/
inductive BedProgram where
  | rendering (p : Program RenderCommand)
  | commanding (p : Program Command)

namespace Bed

/-- A directory named in a bed, inside the directory of the bed unless it is absolute. -/
def directory (here : Whereabouts) (d : Document) : Except BedError Pathname :=
  match d.written? with
  | some text =>
    match (Pathname.ofString text).expandHome here.home with
    | .ok p => .ok (here.directory.join p)
    | .error e => .error (.home e)
  | none => .error (.refused .longNumber)

/-- Run a reader on a name table. -/
def reading {α : Type} (names : NameTable) (r : Reading α) : Except BedError (α × NameTable) :=
  match r.run names with
  | (.ok a, names) => .ok (a, names)
  | (.error e, _) => .error (.refused e)

/-- Stop with a flaw. -/
def stop {α : Type} (place : String) (f : Flaw) : Except BedError α :=
  .error (.refused (.flaw place f))

/-- Read programs by name, one after the other. -/
def readPrograms {κ : Type} (dialect : Dialect κ) (section_ : String) :
    List (Key × Document) → Reading (List (String × List (Statement κ)))
  | [] => return []
  | (key, d) :: rest => do
    let name ← Reading.written key.written?
    let statements ← Statement.readBlock dialect (section_ ++ "." ++ name) d
    return (name, statements) :: (← readPrograms dialect section_ rest)

/-- Data, or something else when it is null, false, zero or empty. -/
def orElse (d other : Document) : Document := if d.isTruthy then d else other

/-- Read programs by name.  Of two programs with one name the later one counts, in the place of the
first. -/
def readNamed {κ : Type} (dialect : Dialect κ) (section_ : String) (entries : List (Key × Document)) :
    Reading (List (String × List (Statement κ))) :=
  Assoc.ofList <$> readPrograms dialect section_ entries

/-- Read the template programs. -/
def readTemplates (names : NameTable) (d : Document) :
    Except BedError (List (String × List (Statement RenderCommand)) × NameTable) :=
  match orElse d (.mapping []) with
  | .mapping entries => reading names (readNamed .rendering "templates" entries)
  | _ => stop "templates" .programsForm

/-- Read the command programs: a list is one program without a name. -/
def readCommands (names : NameTable) (d : Document) :
    Except BedError (List (Option String × List (Statement Command)) × NameTable) :=
  match d with
  | .null => .ok ([], names)
  | .list items => do
    let (statements, names) ← reading names (Statement.readBlock .commanding "commands" (.list items))
    return ([(none, statements)], names)
  | .mapping entries => do
    let (programs, names) ← reading names (readNamed .commanding "commands" entries)
    return (programs.map fun (name, p) => (some name, p), names)
  | _ => stop "commands" .commandsForm

/-- The keys of a bed. -/
def keys : List String := ["output", "includes", "globals", "templates", "commands"]

/-- Read a bed from its entries. -/
def ofEntries (here : Whereabouts) (entries : List (Key × Document)) : Except BedError Bed := do
  let _ ← reading .empty (Reading.refuseKeys place .bedKeys (otherKeys entries keys))
  let includes ← (orElse (Document.entry entries "includes") (.list [])).asList.mapM (directory here)
  let output ← directory here (orElse (Document.entry entries "output") (.text "output"))
  let (globals, names) ← reading .empty
    (Statement.readBlock .seeding "globals" (Document.entry entries "globals"))
  let (templates, names) ← readTemplates names (Document.entry entries "templates")
  let (commands, names) ← readCommands names (Document.entry entries "commands")
  let includes := if includes.isEmpty then [here.directory] else includes
  return { names, output, includes, globals, templates, commands }

/-- Read a bed from a document; null is the empty bed. -/
def ofDocument (here : Whereabouts) : Document → Except BedError Bed
  | .null => ofEntries here []
  | .mapping entries => ofEntries here entries
  | _ => stop place .bedForm

/-- The program under a name: the globals, a template program, or a command program. -/
def program? (bed : Bed) (name : Option String) : Option BedProgram :=
  if name = some "globals" then some (.rendering (compile bed.globals))
  else
    match name.bind (Assoc.get? · bed.templates) with
    | some statements => some (.rendering (compile statements))
    | none => (Assoc.get? name bed.commands).map fun statements => .commanding (compile statements)

end Bed

namespace BedProgram

/-- The numbered listing of a program. -/
def listing (names : NameTable) : BedProgram → String
  | rendering p => Program.listing RenderCommand.describe names p
  | commanding p => Program.listing Command.describe names p

end BedProgram

end Sweep
