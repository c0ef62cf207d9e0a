import Sweep.Document.Display
import Sweep.Document.Decoder
import Sweep.Journal
import Sweep.Text.DecodeFault
import Sweep.Text.Integer
import Sweep.Text.Uppercase
import Sweep.World.Disk

/-!
# Settings

Settings come from an optional file with four sections and from one variable of the environment,
which names the progress file.  A section is a mapping or null.  Settings are kept as they are
written and read one by one, so that a mistake in one of them does not hide the others; `validate`
gives the first mistake that matters.

Relative files are taken inside the directory of the settings file, and the name of a log file may hold
the date of the day.
-/

namespace Sweep

open Text (Bytes)

/-- What is wrong with settings. -/
inductive SettingsError where
  | sectionForm (name : String)
  | unknownFormat (text : String)
  | unknownLevel (text : String)
  | labelForm (text : String)
  | includesForm
  | noFile (path : String)
  /-- A file holds no document, as its decoder explains. -/
  | notADocument (cause : String)
  | fileForm
  /-- A home directory that cannot be found. -/
  | home (e : HomeError)
  /-- An integer that has too many digits is to be written. -/
  | longNumber
  /-- A text that is no integer. -/
  | notAnInteger
  /-- A number that has no integer part. -/
  | noInteger (e : NumberError)
  /-- Data that is no number and no text where an integer is due. -/
  | notANumber
  /-- Data that has no elements where a list is due. -/
  | notAList
  /-- A file that is not text. -/
  | notText (f : Text.DecodeFault)
  /-- A file that makes its decoder fail. -/
  | foreign (e : Foreign)
  /-- A file that cannot be read. -/
  | unreadable (e : SystemError)
  deriving DecidableEq, Repr

/-- The wording of a mistake. -/
def SettingsError.message : SettingsError → String
  | sectionForm name => "Section '" ++ name ++ "' must be a mapping"
  | unknownFormat text => "Unknown log format: " ++ text
  | unknownLevel text => "Unknown log level: " ++ text
  | labelForm text => "display.ident_args must be a non-negative integer, got " ++ text
  | includesForm => "templates.includes must be a path or a list of paths"
  | noFile path => "Configuration file not found: " ++ path
  | notADocument cause => "Invalid YAML syntax: " ++ cause
  | fileForm => "Configuration file must contain a mapping"
  | home e => e.message
  | longNumber => Text.unwritableText
  | notAnInteger => "invalid literal for int()"
  | noInteger e => e.message
  | notANumber => "argument must be a string or a real number"
  | notAList => "object is not iterable"
  | notText f => f.message
  | foreign e => e.text
  | unreadable e => e.message

/-- Settings as they are written. -/
structure Settings where
  /-- The file they come from. -/
  place : Option Pathname := none
  logging : List (Key × Document) := []
  display : List (Key × Document) := []
  templates : List (Key × Document) := []
  behavior : List (Key × Document) := []
  /-- Where progress is written. -/
  progress : Option Pathname := none
  deriving Repr

namespace Settings

/-- The entries of a section. -/
def section? (entries : List (Key × Document)) (name : String) :
    Except SettingsError (List (Key × Document)) :=
  match Document.entry entries name with
  | .null => .ok []
  | .mapping es => .ok es
  | _ => .error (.sectionForm name)

/-- Settings from the entries of a file and the value of the variable of the environment. -/
def ofEntries (entries : List (Key × Document)) (place : Option Pathname)
    (variable_ : Option String) : Except SettingsError Settings := do
  let logging ← section? entries "logging"
  let display ← section? entries "display"
  let templates ← section? entries "templates"
  let behavior ← section? entries "behavior"
  let progress := match variable_ with
    | some text => if text.isEmpty then none else some (Pathname.ofString text)
    | none => none
  return { place, logging, display, templates, behavior, progress }

/-- The text of a setting. -/
def written (d : Document) : Except SettingsError String :=
  match d.written? with
  | some text => .ok text
  | none => .error .longNumber

/-- A file named in the settings. -/
def file (s : Settings) (home : Homes) (d : Document) : Except SettingsError Pathname := do
  let p ← ((Pathname.ofString (← written d)).expandHome home).mapError .home
  match s.place with
  | some place => return place.parent.join p
  | none => return p

/-- Put the day for the date in the name of a log file. -/
def dated (today : String) : List Char → List Char
  | '\x7b' :: 'd' :: 'a' :: 't' :: 'e' :: '\x7d' :: rest => today.toList ++ dated today rest
  | c :: rest => c :: dated today rest
  | [] => []

/-- The log file of a day, if there is one. -/
def logFile (s : Settings) (home : Homes) (today : String) :
    Except SettingsError (Option Pathname) := do
  let d := Document.entry s.logging "output"
  if d.isTruthy then
    let name := String.ofList (dated today (← written d).toList)
    some <$> s.file home (.text name)
  else return none

/-- A setting, or the usual one if it is not written. -/
def orUsual (section_ : List (Key × Document)) (key : String) (usual : Document) : Document :=
  (Document.entryAt? section_ key).getD usual

/-- The name of the least level that is recorded. -/
def logLevel (s : Settings) : Except SettingsError String :=
  Text.upper <$> written (orUsual s.logging "level" (.text "INFO"))

/-- The form of records. -/
def logFormat (s : Settings) : Document := orUsual s.logging "format" (.text "pretty")

/-- Whether records are shown on the console. -/
def logsToConsole (s : Settings) : Bool := (orUsual s.logging "console" (.bool true)).isTruthy

/-- Whether progress is shown while a bed runs. -/
def showsLive (s : Settings) : Bool := (orUsual s.display "live" (.bool true)).isTruthy

/-- The integer that data stands for: fractions are cut off, and texts are read. -/
def integerOf (d : Document) : Except SettingsError Int :=
  match d with
  | .int n => .ok n
  | .bool b => .ok (if b then 1 else 0)
  | .float x =>
    match x.integerPart with
    | .ok n => .ok n
    | .error e => .error (.noInteger e)
  | .text s =>
    match Text.integerOf? s with
    | some n => .ok n
    | none => .error .notAnInteger
  | _ => .error .notANumber

/-- How many arguments the label of a child shows; all, if nothing is written. -/
def labelArguments (s : Settings) : Except SettingsError (Option Int) :=
  match Document.entry s.display "ident_args" with
  | .null => .ok none
  | d => some <$> integerOf d

/-- The output directory, if it is written. -/
def output (s : Settings) (home : Homes) : Except SettingsError (Option Pathname) :=
  let d := Document.entry s.templates "output"
  if d.isTruthy then some <$> s.file home d else .ok none

/-- The elements of data: those of a list, the keys of a mapping, or a text alone. -/
def elements (d : Document) : Except SettingsError (List Document) :=
  match d with
  | .text s => .ok [.text s]
  | .list items => .ok items
  | .mapping entries => .ok (entries.map fun e => e.1.document)
  | _ => .error .notAList

/-- The search path, if it is written. -/
def includes (s : Settings) (home : Homes) : Except SettingsError (Option (List Pathname)) :=
  match Document.entry s.templates "includes" with
  | .null => .ok none
  | d => do return some (← (← elements d).mapM (s.file home))

/-- Whether a run stops at the first program that fails. -/
def failFast (s : Settings) : Bool := (orUsual s.behavior "fail_fast" (.bool false)).isTruthy

/-- The forms of records. -/
def formats : List String := ["structured", "pretty"]

/-- Stop with a mistake unless a condition holds. -/
def require (condition : Bool) (e : SettingsError) : Except SettingsError Unit :=
  if condition then .ok () else .error e

/-- Data is one of some texts. -/
def isOneOf (texts : List String) : Document → Bool
  | .text s => texts.contains s
  | _ => false

/-- Data is not a count.  So much is said of data that can be written. -/
def refuseCount (d : Document) : Except SettingsError Unit :=
  .error (if d.isWritable then .labelForm d.quoted else .longNumber)

/-- Data has to be an integer of at least zero.  An infinite number is a mistake of its own. -/
def requireCount (d : Document) : Except SettingsError Unit :=
  match integerOf d with
  | .ok n => if 0 ≤ n then .ok () else refuseCount d
  | .error (.noInteger .infinite) => .error (.noInteger .infinite)
  | .error _ => refuseCount d

/-- Data is a path or a list of paths. -/
def isPaths : Document → Bool
  | .text _ | .list _ | .null => true
  | _ => false

/-- The first mistake in the settings. -/
def validate (s : Settings) : Except SettingsError Unit := do
  if !isOneOf formats s.logFormat then throw (.unknownFormat (← written s.logFormat))
  let level ← s.logLevel
  require (Level.ofName? level).isSome (.unknownLevel level)
  let label := Document.entry s.display "ident_args"
  if !label.isNull then requireCount label
  require (isPaths (Document.entry s.templates "includes")) .includesForm

/-- Settings in short. -/
def summary (s : Settings) : String :=
  let text (p : Option Pathname) : String := (p.map (·.text)).getD "None"
  "BenchbedConfig(path=" ++ text s.place ++ ", progress_file=" ++ text s.progress ++ ")"

/-- The file that is used when none is named. -/
def usualName : String := "benchbed.yaml"

/-- Read a document from a file that exists. -/
def readDocument (decode : Decoder) (disk : Disk) (p : Pathname) :
    Except SettingsError Document := do
  let text ← (Text.ofPieces (← (disk.read p).mapError .unreadable)).mapError .notText
  match decode text with
  | .error (.malformed cause) => throw (.notADocument cause)
  | .error (.foreign e) => throw (.foreign e)
  | .ok d => return d

/-- Whether there is a file. -/
def isThere (disk : Disk) (p : Pathname) : Except SettingsError Bool :=
  (disk.has p).mapError .unreadable

/-- Settings from a file. -/
def ofFile (decode : Decoder) (disk : Disk) (p : Pathname) (variable_ : Option String) :
    Except SettingsError Settings := do
  require (← isThere disk p) (.noFile p.text)
  match ← readDocument decode disk p with
  | .null => ofEntries [] (some p) variable_
  | .mapping entries => ofEntries entries (some p) variable_
  | _ => .error .fileForm

/-- Settings that were found valid: from the file that is named, from the usual file in the working
directory if there is one, or the usual settings. -/
def load (decode : Decoder) (disk : Disk) (named : Option Pathname) (variable_ : Option String) :
    Except SettingsError Settings := do
  let usual := Pathname.workspace.join (Pathname.ofString usualName)
  let place := match named with
    | some p => some p
    | none => if (disk.find? usual).isSome then some usual else none
  let s ← match place with
    | some p => ofFile decode disk p variable_
    | none => ofEntries [] none variable_
  s.validate
  return s

end Settings

end Sweep
