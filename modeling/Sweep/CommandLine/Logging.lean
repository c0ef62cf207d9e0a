import Sweep.Console.Markup
import Sweep.Settings
import Sweep.World.Basic

/-!
# What a command shows and keeps

Records of at least some level are written to a log file, to the console, or to both.  In the
structured form the console shows level and message; in the other form what it shows of records is
left to the terminal.
-/

namespace Sweep.CommandLine

/-- Which records the console shows. -/
structure Logging where
  least : Level
  structured : Bool
  console : Bool
  deriving Repr

/-- Why records cannot be kept as the settings say. -/
inductive LoggingError where
  | settings (e : SettingsError)
  | file (e : SystemError)
  | nulInName
  deriving DecidableEq, Repr

namespace Logging

/-- The mark of a verdict. -/
def mark (good : Bool) : String := if good then "✓" else "✗"

/-- What the console shows of an event. -/
def consoleText (l : Option Logging) : Event → String
  | .print text => Console.plain text
  | .fault f => Console.plain (f.message ++ "\n")
  | .verdict good message => Console.verdict (mark good) message
  | .echo line => Console.echo line
  | .record r =>
    match l with
    | some l => if l.console && l.structured && l.least.admits r then r.brief ++ "\n" else ""
    | none => ""
  | _ => ""

/-- Open the log file, with the directories above it. -/
def openFile (p : Pathname) (d : Disk) : Except LoggingError (Disk.Handle × Disk) :=
  if p.hasNul then .error .nulInName
  else
    let (made, d) := d.makeDirectories p.parent
    match made.bind fun _ => d.openFile p false with
    | .ok r => .ok r
    | .error e => .error (.file e)

/-- Make ready for records as valid settings say. -/
def ofSettings (s : Settings) (home : Homes) (today : String) (d : Disk) :
    Except LoggingError (Logging × Option Logbook × Disk) := do
  let least := (Level.ofName? (← s.logLevel.mapError .settings)).getD .info
  let structured := Settings.isOneOf ["structured"] s.logFormat
  let logging : Logging := ⟨least, structured, s.logsToConsole⟩
  match ← (s.logFile home today).mapError .settings with
  | none => return (logging, none, d)
  | some p =>
    let (handle, d) ← openFile p d
    return (logging, some ⟨handle, structured, least⟩, d)

end Logging

end Sweep.CommandLine
