import Sweep.CommandLine.Execution

/-!
# The files that a command line reads

Before a command line is carried out, the files that it may read have to be at hand: the settings,
the bed, and the templates that the bed names.  A template whose name is computed while the bed runs
is not known in advance.
-/

namespace Sweep.CommandLine

/-- The text of an interpolation without paths. -/
def literal? : Interpolation → Option String
  | [] => some ""
  | [.literal text] => some text
  | _ => none

/-- The names of templates in the base of a built struct. -/
def baseTemplates : BuiltBase → List String
  | .text _ => []
  | .file b => (literal? b.template).toList

/-- The names of templates in a field of a built struct. -/
def fieldTemplates : NameId × BuiltField → List String
  | (_, .value _) => []
  | (_, .file b) => (literal? b.template).toList

/-- The names of templates in a built struct. -/
def builtTemplates (b : BuiltExpr) : List String :=
  baseTemplates b.base ++ b.fields.flatMap fieldTemplates

/-- The names of templates in a command. -/
def commandTemplates : RenderCommand → List String
  | .bind _ b | .yield _ (.built b) => builtTemplates b
  | .yield _ (.plain _) => []

/-- The names of templates in a program. -/
def programTemplates (p : Program RenderCommand) : List String :=
  p.flatMap fun line =>
    match line.instruction with
    | .command c => commandTemplates c
    | _ => []

/-- Where the templates of a bed may be. -/
def templateFiles (home : Homes) (bed : Bed) (settings : Except SettingsError Settings) : List Pathname :=
  let includes := match settings.bind fun s => s.includes home with
    | .ok (some (p :: ps)) => p :: ps
    | _ => bed.includes
  let names := bed.templates.flatMap fun (_, p) => programTemplates (compile p)
  includes.flatMap fun directory => names.map fun name => directory.join (Pathname.ofString name)

/-- The settings file of a command line. -/
def settingsFile (file : Option String) : Pathname :=
  Pathname.ofString (file.getD Settings.usualName)

/-- The files that a command line names itself. -/
def namedFiles (words : List String) : List Pathname :=
  match Opening.read words with
  | some (.command _ file rest) =>
    settingsFile file :: (rest.filter fun word => !isOption word).map Pathname.ofString
  | _ => []

/-- The files that the bed of a command line names. -/
def bedFiles (decode : Decoder) (home : Homes) (words : List String) (d : Disk) : List Pathname :=
  match Opening.read words with
  | some (.command verb file rest) =>
    match Request.read (isFileName d) verb rest with
    | some (.run bed _ _) =>
      match Bed.ofFile decode home d (Pathname.ofString bed) with
      | .ok bed => templateFiles home bed (Settings.load decode d (file.map Pathname.ofString) none)
      | .error _ => []
    | _ => []
  | _ => []

end Sweep.CommandLine
