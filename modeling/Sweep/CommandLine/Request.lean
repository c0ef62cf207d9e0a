import Sweep.CommandLine.Options

/-!
# What a command line asks for

In front of the name of a command stand options for all commands, behind it the words of the
command.  The words in front are read first, and the name is looked up before anything is done; the
words of the command are read only after the settings were loaded.
-/

namespace Sweep.CommandLine

/-- The commands. -/
inductive Verb where
  | run
  | listing
  | programs
  | check
  deriving DecidableEq, Repr

namespace Verb

def name : Verb → String
  | run => "run"
  | listing => "show"
  | programs => "programs"
  | check => "check"

def all : List Verb := [run, listing, programs, check]

/-- The command with a name. -/
def ofName? (name : String) : Option Verb := all.find? (·.name == name)

/-- The option that asks for help. -/
def help : OptionForm := { name := "--help" }

/-- The options of a command. -/
def options : Verb → List OptionForm
  | run => [{ name := "--program", short := some 'p', takesValue := true }, { name := "--no-live" },
      { name := "--json" }, help]
  | listing => [{ name := "--program", short := some 'p', takesValue := true }, help]
  | programs | check => [help]

end Verb

/-- The words in front of the words of a command. -/
inductive Opening where
  | version
  | help
  /-- A command, the settings file if one is named, and the words of the command. -/
  | command (verb : Verb) (settings : Option String) (words : List String)
  deriving DecidableEq, Repr

namespace Opening

/-- The options in front of a command. -/
def options : List OptionForm :=
  [{ name := "--version" }, { name := "--config", takesValue := true }, Verb.help]

/-- The first of the options that answer at once. -/
def immediate? (w : Words) : Option Opening :=
  w.options.findSome? fun (name, _) =>
    if name = "--version" then some version else if name = "--help" then some help else none

/-- Read the words up to the words of the command; nothing if they are not understood. -/
def read (words : List String) : Option Opening := do
  let w ← readWords options false none words
  match immediate? w, w.arguments with
  | some opening, _ => return opening
  | none, [] => none
  | none, name :: rest => return command (← Verb.ofName? name) (w.value? "--config") rest

end Opening

/-- The words of a command. -/
inductive Request where
  | help
  | run (bed : String) (programs : List String) (json : Bool)
  | listing (bed : String) (program : Option String)
  | programs (bed : String)
  | check (bed : String)
  deriving DecidableEq, Repr

namespace Request

/-- What a command asks for, with its one argument. -/
def of (w : Words) (bed : String) : Verb → Request
  | .run => run bed (w.values "--program") (w.has "--json")
  | .listing => listing bed (w.value? "--program")
  | .programs => programs bed
  | .check => check bed

/-- The bed of a request. -/
def bed? : Request → Option String
  | help => none
  | run bed _ _ | listing bed _ | programs bed | check bed => some bed

/-- Read the words of a command; nothing if they are not understood.  `isFileName` says which
arguments may be names of files. -/
def read (isFileName : String → Bool) (verb : Verb) (words : List String) : Option Request := do
  let w ← readWords verb.options true none words
  if w.has Verb.help.name then return help
  match w.arguments with
  | [bed] => if isFileName bed then some (of w bed verb) else none
  | _ => none

end Request

end Sweep.CommandLine
