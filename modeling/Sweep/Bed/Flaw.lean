import Sweep.Document.Display
import Sweep.Path.Basic

/-!
# What can be wrong with a bed

Reading a bed stops at the first flaw, with the place of the statement or value that has it.  The
causes are constructors; their wording is `Flaw.message`, in one place.  Four mistakes are not
reported as a flaw of the bed but stop the reading all the same: an index written with digits that
have no place value, a poll count that cannot be compared with a number, an integer with too many
digits where a text is needed, and a loop for which there is no code because a variable has no target.
-/

namespace Sweep

/-- What is wrong at some place of a bed. -/
inductive Flaw where
  /-- A path goes on where it should end. -/
  | unexpected (c : Char) (path : String) (column : Nat)
  /-- A path has no name where one is due. -/
  | expectedName (path : String) (column : Nat)
  /-- A selection is not closed. -/
  | expectedBracket (path : String) (column : Nat)
  /-- An interpolation is not closed. -/
  | unterminated (text : String)
  | boundIsTruth
  | boundKind (kind : String)
  | boundCount
  | rangeAlone
  | refAlone
  | valueForm
  | buildForm
  | builtObjectForm
  | bindingsForm
  | targetForm
  | outputForm
  | spawnForm
  | spawnKeys (keys : String)
  | argumentForm
  | pollsForm
  | waitForm
  | amountForm (key : String)
  | blockForm
  | statementForm
  | unknownStatement (keyword kind : String)
  | unexpectedKeys (keyword keys : String)
  | loopArity
  | loopMode (mode : String)
  | bedForm
  | bedKeys (keys : String)
  | programsForm
  | commandsForm
  | fileMissing
  /-- A file holds no document, as its decoder explains. -/
  | notADocument (cause : String)
  deriving DecidableEq, Repr

/-- A complaint about a path, with the path and the column. -/
def Flaw.inPath (complaint path : String) (column : Nat) : String :=
  complaint ++ " in path `" ++ path ++ "` at column " ++ toString column

/-- The wording of a flaw. -/
def Flaw.message : Flaw → String
  | unexpected c path column => inPath ("unexpected `" ++ c.toString ++ "`") path column
  | expectedName path column => inPath "expected a name" path column
  | expectedBracket path column => inPath "expected `]`" path column
  | unterminated text => "unterminated `$\x7b` in `" ++ text ++ "`"
  | boundIsTruth => "range bound must be an integer"
  | boundKind kind => "range bound must be an integer or string, got " ++ kind
  | boundCount => "range needs exactly two bounds: [start, end]"
  | rangeAlone => "`range` takes no other keys"
  | refAlone => "`ref` takes no other keys"
  | valueForm => "a mapping value needs `range`, `ref` or `base`"
  | buildForm => "build needs [template, output_name]"
  | builtObjectForm => "a built object needs exactly one of `build` or `base`"
  | bindingsForm => "expected a mapping of name: value"
  | targetForm => "a loop target is a variable path, \x7brange: [start, end]\x7d or a list"
  | outputForm => "output is `print`, \x7bcreate: path\x7d or \x7bappend: path\x7d"
  | spawnForm => "spawn needs a `command`"
  | spawnKeys keys => "unknown spawn keys: " ++ keys
  | argumentForm => "an argument is a string or \x7bsplat: path\x7d"
  | pollsForm => "`polls` needs a `timeout` and must be positive"
  | waitForm => "wait is null, a timeout in ms, or \x7btimeout: ms, polls: n\x7d"
  | amountForm key => "`" ++ key ++ "` needs a non-negative integer"
  | blockForm => "expected a list of statements"
  | statementForm => "a statement is a mapping"
  | unknownStatement keyword kind =>
    "unknown statement `" ++ keyword ++ "` in a " ++ kind ++ " program"
  | unexpectedKeys keyword keys => "unexpected keys for `" ++ keyword ++ "`: " ++ keys
  | loopArity => "`for` needs one `in` target per loop variable"
  | loopMode mode => "unknown loop mode `" ++ mode ++ "` (group or combinations)"
  | bedForm => "a bed is a mapping"
  | bedKeys keys => "unknown keys: " ++ keys
  | programsForm => "expected a mapping of name: statements"
  | commandsForm => "expected a list of statements or a mapping of name: statements"
  | fileMissing => "bed file not found"
  | notADocument cause => "invalid YAML syntax: " ++ cause

/-- Why reading stopped. -/
inductive Refusal where
  /-- A flaw at a place of the bed. -/
  | flaw (location : String) (flaw : Flaw)
  /-- An index is written with digits that do not make a number. -/
  | indexDigits
  /-- A poll count cannot be compared with zero. -/
  | pollCount
  /-- An integer that has too many digits is to be written. -/
  | longNumber
  /-- A loop has not one target for each variable, so it cannot become code. -/
  | unpaired
  deriving DecidableEq, Repr

/-- What is said about a loop that lacks a target. -/
def loopArityMessage : String := "loop needs one target per iterator"

/-- The message of a flaw with its place in front. -/
def Refusal.message : Refusal → String
  | flaw location f => location ++ ": " ++ f.message
  | indexDigits => "the digits of an index have no place value"
  | pollCount => "a poll count is not a number"
  | longNumber => Text.unwritableText
  | unpaired => loopArityMessage

/-- Reading a bed interns names on the way and may stop; names met before the stop stay. -/
abbrev Reading := ExceptT Refusal (StateM NameTable)

namespace Reading

/-- Stop at a place. -/
def stop {α : Type} (location : String) (f : Flaw) : Reading α := throw (.flaw location f)

/-- A text that may have an integer in it with too many digits to be written. -/
def written (text : Option String) : Reading String :=
  match text with
  | some s => return s
  | none => throw .longNumber

/-- The number of a name. -/
def intern (name : String) : Reading NameId := do
  let (id, table) := (← get).intern name
  set table
  return id

end Reading

end Sweep
