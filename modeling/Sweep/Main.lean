import Sweep.CommandLine.Inputs
import Sweep.Document.Reader
import Sweep.Estimator.Recent
import Sweep.Render.TemplateEngine

/-!
# The program

The outer layer of the command line: it reads the files that a command needs, carries the command
out, prints what it has to say and writes the files that it changed.  The libraries are supplied here:
what decodes files, what fills in templates and what makes estimates.  So are the home directories and
the day, which the system knows.  Children are rehearsed: each exits at once and writes nothing, so a
bed can be tried without starting anything.
-/

open Sweep

/-- The name of a file for the system. -/
def systemName (p : Pathname) : String :=
  match p.absolute with
  | ⟨.workspace, parts⟩ => "/".intercalate ("." :: parts)
  | q => q.text

/-- The disk with a file of the system, if it can be read. -/
def loadFile (d : Disk) (p : Pathname) : IO Disk := do
  try
    let bytes ← IO.FS.readBinFile (systemName p)
    return d.addFile p bytes.toList
  catch _ => return d

/-- Write a file of the system, with the directories above it. -/
def saveFile (name : String) (bytes : Text.Bytes) : IO Unit := do
  let directory := systemName (Pathname.ofString name).parent
  IO.FS.createDirAll directory
  IO.FS.writeBinFile (systemName (Pathname.ofString name)) (ByteArray.mk bytes.toArray)

/-- The text of a file of the system, empty if it cannot be read. -/
def systemText (name : String) : IO String := do
  try IO.FS.readFile name
  catch _ => return ""

/-- A home directory, if it is one: no directory at all is the root, and one behind a tilde is no home. -/
def homeDirectory? (text : String) : Option Pathname :=
  if text.isEmpty then some (Pathname.ofString "/")
  else if text.startsWith "~" then none
  else some (Pathname.ofString text)

/-- The user and the home directory on a line of the table of users. -/
def userHome? (line : String) : Option (String × Pathname) :=
  match line.splitOn ":" with
  | [user, _, _, _, _, directory, _] => (homeDirectory? directory).map fun p => (user, p)
  | _ => none

/-- The home directories: that of whoever asks, and those in the table of users. -/
def systemHomes : IO Homes := do
  let own ← IO.getEnv "HOME"
  let users := ((← systemText "/etc/passwd").splitOn "\n").filterMap userHome?
  return fun owner => if owner.isEmpty then own.bind homeDirectory? else Assoc.get? owner users

/-- The day that the clock of the system shows. -/
def systemDay : IO String := do
  return Text.stripString (← systemText "/sys/class/rtc/rtc0/date")

def main (words : List String) : IO UInt32 := do
  let progress ← IO.getEnv "BENCHBED_PROGRESS"
  let named ← (CommandLine.namedFiles words).foldlM loadFile []
  let home ← systemHomes
  let disk ← (CommandLine.bedFiles Document.ofFile home words named).foldlM loadFile named
  let around : CommandLine.Surroundings :=
    { progress, home, today := ← systemDay, decode := Document.ofFile, engine := .plain,
      estimator := .recent, budget := 1000000000, patience := 1000000 }
  let result := CommandLine.execute words around { disk }
  IO.print result.output
  for (name, bytes) in result.disk.changedSince disk do
    saveFile name bytes
  return result.ending.code.toUInt32
