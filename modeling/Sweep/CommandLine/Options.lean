/-!
# Options on a command line

Words that begin with a dash are options, two dashes alone end the options, and all other words are
arguments.  A long option has its value behind an equals sign or in the next word; short options
may share one word, and the rest of the word, or the next word, is the value of the last one.

Depending on the command, options may stand behind arguments, or the first argument ends them.
-/

namespace Sweep.CommandLine

/-- An option that a command knows. -/
structure OptionForm where
  /-- The name with its dashes. -/
  name : String
  /-- Another name of one letter. -/
  short : Option Char := none
  takesValue : Bool := false
  deriving DecidableEq, Repr

/-- Words that were read: options in order, with their values, and arguments in order. -/
structure Words where
  options : List (String × Option String) := []
  arguments : List String := []
  deriving DecidableEq, Repr

namespace Words

/-- An option in front. -/
def withOption (name : String) (value : Option String) (w : Words) : Words :=
  { w with options := (name, value) :: w.options }

/-- Options in front. -/
def withOptions (options : List (String × Option String)) (w : Words) : Words :=
  { w with options := options ++ w.options }

/-- An argument in front. -/
def withArgument (word : String) (w : Words) : Words :=
  { w with arguments := word :: w.arguments }

/-- An option was given. -/
def has (w : Words) (name : String) : Bool := w.options.any (·.1 == name)

/-- The values of an option, in order. -/
def values (w : Words) (name : String) : List String :=
  w.options.filterMap fun (n, v) => if n = name then v else none

/-- The last value of an option. -/
def value? (w : Words) (name : String) : Option String := (w.values name).getLast?

end Words

/-- Options of one word, and the option that still waits for its value. -/
abbrev WordOptions := List (String × Option String) × Option String

/-- Read short options that share a word. -/
def readShort (forms : List OptionForm) : List Char → Option WordOptions
  | [] => some ([], none)
  | c :: rest => do
    let form ← forms.find? (·.short == some c)
    if form.takesValue then
      if rest = [] then return ([], some form.name)
      else return ([(form.name, some (String.ofList rest))], none)
    else
      let (options, waiting) ← readShort forms rest
      return ((form.name, none) :: options, waiting)

/-- Cut a word at its first equals sign. -/
def cutEquals (cs : List Char) : List Char × Option (List Char) :=
  match cs.dropWhile (· ≠ '=') with
  | [] => (cs, none)
  | _ :: value => (cs.takeWhile (· ≠ '='), some value)

/-- Read a word that begins with a dash. -/
def readOption (forms : List OptionForm) (word : String) : Option WordOptions :=
  let (name, value) := cutEquals word.toList
  match forms.find? (·.name == String.ofList name) with
  | some form =>
    match form.takesValue, value with
    | true, some v => some ([(form.name, some (String.ofList v))], none)
    | true, none => some ([], some form.name)
    | false, none => some ([(form.name, none)], none)
    | false, some _ => none
  | none => if word.startsWith "--" then none else readShort forms (word.toList.drop 1)

/-- A word is an option: it begins with a dash and goes on. -/
def isOption (word : String) : Bool := word.startsWith "-" && word.length > 1

/-- Read words; `mixed` says that options may stand behind arguments, and `waiting` is an option
that takes the next word. -/
def readWords (forms : List OptionForm) (mixed : Bool) :
    (waiting : Option String) → List String → Option Words
  | some name, word :: rest =>
    (readWords forms mixed none rest).map (·.withOption name (some word))
  | some _, [] => none
  | none, [] => some {}
  | none, word :: rest =>
    if word = "--" then some { arguments := rest }
    else if isOption word then do
      let (options, waiting) ← readOption forms word
      return (← readWords forms mixed waiting rest).withOptions options
    else if mixed then (readWords forms mixed none rest).map (·.withArgument word)
    else some { arguments := word :: rest }

end Sweep.CommandLine
