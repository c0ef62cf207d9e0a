import Sweep.Bed.File
import Sweep.CommandLine.Logging
import Sweep.CommandLine.Request
import Sweep.Session.Setup

/-!
# Commands

The four commands read a bed from a file: one runs it, one lists its compiled programs, one lists
the names of its programs, and one only checks it.  Only running needs the settings; the other
commands ignore settings that cannot be read.

A command ends with an exit code: 0 for success, 1 for a failure that is reported on the console,
and 2 for a command line that is not understood.  A mistake that nobody reports ends a command as
well, and is kept as its cause.
-/

namespace Sweep.CommandLine

/-- A mistake that ends a command without a report. -/
inductive Uncaught where
  | logging (e : LoggingError)
  | settings (e : SettingsError)
  | bed (e : BedFileError)
  /-- A file name with a NUL character. -/
  | nulInName
  deriving DecidableEq, Repr

/-- How a command ends. -/
inductive Ending where
  | exit (code : Nat)
  | uncaught (e : Uncaught)
  deriving DecidableEq, Repr

namespace Ending

def success : Ending := .exit 0
def failure : Ending := .exit 1
def misunderstood : Ending := .exit 2

/-- The exit code of an ending. -/
def code : Ending → Nat
  | exit n => n
  | uncaught _ => 1

end Ending

/-- What a command meets besides its words. -/
structure Surroundings where
  /-- The variable of the environment that names the progress file. -/
  progress : Option String := none
  /-- How often somebody interrupts before a run starts. -/
  interrupts : Nat := 0
  home : Homes
  /-- The day on which the command is carried out. -/
  today : String
  /-- What decodes the files of beds and settings. -/
  decode : Decoder
  /-- What finds templates and fills them in. -/
  engine : Engine
  /-- What makes estimates about loops. -/
  estimator : Estimator
  /-- At most so many instructions are taken by one program. -/
  budget : Nat
  /-- At most so many questions are asked in one wait without limit. -/
  patience : Nat

/-- The result of a command. -/
structure Result where
  ending : Ending
  output : String
  disk : Disk

/-- The line that tells the version. -/
def versionLine : String := "benchbed, version 0.1.0"

/-- Report a failure of a command. -/
def fail (message : String) (w : World) : Ending × World :=
  (.failure, w.echo (Logging.mark false ++ " " ++ message))

/-- A message that ends its own line, without the line end. -/
def withoutLineEnd (message : String) : String :=
  match message.toList.reverse with
  | '\n' :: rest => String.ofList rest.reverse
  | _ => message

/-- The text of a flaw on the console: what is said about a file that holds no document ends its own
line. -/
def flawText (location : String) (f : Flaw) : String :=
  let message := (Refusal.flaw location f).message
  match f with
  | .notADocument _ => withoutLineEnd message
  | _ => message

/-- The text of a mistake in the settings on the console. -/
def settingsText (e : SettingsError) : String :=
  match e with
  | .notADocument _ => withoutLineEnd e.message
  | _ => e.message

/-- Write lines as they are. -/
def echoAll (lines : List String) (w : World) : World := lines.foldl World.echo w

/-- Record that a bed was read. -/
def recordBed (bed : Bed) (w : World) : World :=
  w.record .debug Source.beds ("Parsed bed: " ++ toString bed.templates.length ++
    " template program(s), " ++ toString bed.commands.length ++ " command program(s), " ++
    toString bed.names.size ++ " name(s)")

/-- Read a bed and go on with it; a flaw in it is reported. -/
def withBed (around : Surroundings) (file : String) (w : World)
    (next : Bed → World → Ending × World) : Ending × World :=
  match Bed.ofFile around.decode around.home w.disk (Pathname.ofString file) with
  | .ok bed => next bed (recordBed bed w)
  | .error (.flawed (.refused (.flaw location f))) => fail (flawText location f) w
  | .error e => (.uncaught (.bed e), w)

/-! ### Looking at a bed -/

/-- The key of a program by the name under which it is shown. -/
def programKey (bed : Bed) (name : String) : Option String :=
  if name = Session.unnamed ∧ bed.commands.any (·.1.isNone) then none else some name

/-- Names and programs of a bed in the order in which they run. -/
def sections (bed : Bed) : List (String × BedProgram) :=
  [("globals", .rendering (compile bed.globals))] ++
    bed.templates.map (fun (name, p) => (name, .rendering (compile p))) ++
    bed.commands.map (fun (name, p) => (name.getD Session.unnamed, .commanding (compile p)))

/-- The lines that show a program with its name. -/
def sectionLines (names : NameTable) (name : String) (p : BedProgram) : List String :=
  let listing := p.listing names
  (name ++ ":") :: if listing.isEmpty then [] else [listing]

/-- Show one program, or all. -/
def showListing (program : Option String) (bed : Bed) (w : World) : Ending × World :=
  match program with
  | some name =>
    match bed.program? (programKey bed name) with
    | some p => (.success, w.echo (p.listing bed.names))
    | none => fail ("Unknown program: " ++ name) w
  | none =>
    let blocks := (sections bed).map fun (name, p) => sectionLines bed.names name p
    (.success, echoAll ([""].intercalate blocks) w)

/-- Show the names of the programs. -/
def showPrograms (bed : Bed) (w : World) : Ending × World :=
  (.success, echoAll (["templates:"] ++ bed.templates.map (fun p => "  " ++ p.1) ++
    ["commands:"] ++ bed.commands.map (fun p => "  " ++ p.1.getD Session.unnamed)) w)

/-- Say that a bed can be read. -/
def showCheck (file : String) (bed : Bed) (w : World) : Ending × World :=
  let count := bed.templates.length + bed.commands.length
  (.success, w.echo (Logging.mark true ++ " " ++ (Pathname.ofString file).name ++ ": " ++
    toString count ++ " program(s), " ++ toString bed.names.size ++ " name(s) (0ms)"))

/-! ### Running a bed -/

/-- The first interrupt raises the flag, unless it is up; further ones change nothing. -/
def interrupt (times : Nat) (w : World) : World :=
  if times = 0 then w
  else if w.isCancelled then w.raise
  else (w.raise.record .warning Source.session "Shutdown requested" [("event", .text "cancel")]).print
    "Forcefully shutting down"

/-- What is told about a run at its end. -/
def reportEvents (file : String) (json : Bool) (r : Report) : List Event :=
  let name := (Pathname.ofString file).name
  if json then [.echo (r.document.ascii (.indented 2))]
  else if r.isSuccess then
    let seconds := Binary64.ofFraction false r.duration 1000
    [.verdict true (name ++ " completed in " ++ realDuration seconds)]
  else
    r.failures.map (fun f => .verdict false (f.program ++ ": " ++ f.error)) ++
      [.verdict false (name ++ if r.cancelled then " cancelled" else " failed")]

/-- Run a bed with a setup and report. -/
def runBed (file : String) (programs : List String) (json : Bool) (setup : Setup) (bed : Bed)
    (w : World) : Ending × World :=
  let wanted := if programs.isEmpty then none else some programs
  match Session.run bed setup wanted (.new bed setup w) with
  | (.error e, t) =>
    fail ("Run aborted: " ++ e.message)
      (t.world.record .error Source.session ("Run aborted: " ++ e.message))
  | (.ok r, t) =>
    (if r.isSuccess then .success else .failure,
      (reportEvents file json r).foldl World.happen t.world)

/-- Run a bed as the settings say. -/
def run (file : String) (programs : List String) (json : Bool) (around : Surroundings)
    (settings : Except SettingsError Settings) (w : World) : Ending × World :=
  match settings with
  | .error e => fail ("Config not loaded: " ++ settingsText e) w
  | .ok s =>
    withBed around file w fun bed w =>
      match Setup.ofSettings s around.home around.engine around.estimator around.budget
        around.patience with
      | .error e => (.uncaught (.settings e), w)
      | .ok setup => runBed file programs json setup bed (interrupt around.interrupts w)

/-! ### The whole command line -/

/-- Do what is asked for. -/
def perform (around : Surroundings) (settings : Except SettingsError Settings) (r : Request)
    (w : World) : Ending × World :=
  match r with
  | .help => (.success, w)
  | .run bed programs json => run bed programs json around settings w
  | .listing bed program => withBed around bed w (showListing program)
  | .programs bed => withBed around bed w showPrograms
  | .check bed => withBed around bed w (showCheck bed)

/-- A word may name a file: it does not name a directory.  The empty word is let through. -/
def isFileName (d : Disk) (word : String) : Bool :=
  word.isEmpty || d.find? (Pathname.ofString word) != some .directory

/-- The result of a command that ended in a world. -/
def finish (logging : Option Logging) (r : Ending × World) : Result where
  ending := r.1
  output := String.join (r.2.events.toList.map fun e => Logging.consoleText logging e.2)
  disk := r.2.disk

/-- Make ready for records, if there are settings. -/
def prepare (around : Surroundings) (settings : Except SettingsError Settings) (w : World) :
    Except LoggingError (Option Logging × World) :=
  match settings with
  | .error _ => .ok (none, w)
  | .ok s => do
    let (logging, logbook, disk) ← Logging.ofSettings s around.home around.today w.disk
    return (some logging, { w with logbook, disk })

/-- Load the settings, then read the words of a command and do what they ask for. -/
def command (around : Surroundings) (verb : Verb) (file : Option String) (words : List String)
    (w : World) : Result :=
  let settings := Settings.load around.decode w.disk (file.map Pathname.ofString) around.progress
  match prepare around settings w with
  | .error e => finish none (.uncaught (.logging e), w)
  | .ok (logging, w) =>
    match Request.read (isFileName w.disk) verb words with
    | none => finish logging (.misunderstood, w)
    | some r =>
      if r.bed?.any hasNul then finish logging (.uncaught .nulInName, w)
      else finish logging (perform around settings r w)

/-- Carry out a command line. -/
def execute (words : List String) (around : Surroundings) (w : World) : Result :=
  match Opening.read words with
  | none => finish none (.misunderstood, w)
  | some .version => finish none (.success, w.echo versionLine)
  | some .help => finish none (.success, w)
  | some (.command verb file words) =>
    if file.any hasNul then finish none (.uncaught .nulInName, w)
    else if file.all (isFileName w.disk) then command around verb file words w
    else finish none (.misunderstood, w)

end Sweep.CommandLine
