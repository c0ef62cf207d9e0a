import Sweep.Path.Basic
import Sweep.Text.DigitLimit

/-!
# Why a variable cannot be read

Every failure of resolution and evaluation is one of these causes.  They belong to a few families,
and the wording needs the name table only to turn numbers into names.

Reading may also come to an integer that has too many digits to be written: the text of a counter, or a
number that would have to stand in the wording of a failure.  That is no failure of the variable, and no
program reports it as one (`ReadError`).
-/

namespace Sweep

/-- The families of resolution failures. -/
inductive AccessFamily where
  | missingVariable
  | missingField
  | notAStruct
  | notAReference
  | notAList
  | invalidIndex
  | missingFile
  deriving DecidableEq, Repr

/-- The wording of a family when nothing more is known; the first two name what is missing. -/
def AccessFamily.wording (subject : String) : AccessFamily → String
  | missingVariable => "missing variable `" ++ subject ++ "`"
  | missingField => "missing field `" ++ subject ++ "`"
  | notAStruct => "value is not a struct"
  | notAReference => "value is not a reference"
  | notAList => "value is not a list"
  | invalidIndex => "invalid index"
  | missingFile => "missing file"

/-- A failure of resolution or evaluation. -/
inductive AccessError where
  /-- No visible scope binds the variable. -/
  | missingVariable (var : NameId)
  /-- The struct has no such field. -/
  | missingField (field : NameId)
  /-- A field is asked of a value that is no struct. -/
  | fieldOfOther (field : NameId)
  /-- A path that has to be a struct is none. -/
  | pathNotStruct (path : Path)
  /-- A list has no text. -/
  | listText
  /-- An element of a spread list is no struct. -/
  | spreadElement (path : Path)
  /-- A selection is asked of a value that is no list. -/
  | notAList
  /-- A variable to push to is no list. -/
  | variableNotList (var : NameId)
  /-- A loop variable is neither a counter nor a reference. -/
  | loopVariable (var : NameId)
  | tooDeep
  | listRange (index : Int) (length : Nat)
  | counterRange (index : Int) (length : Nat)
  | singleValue (index : Int)
  | noElement (key : String)
  | boundText (text : String)
  deriving DecidableEq, Repr

namespace AccessError

/-- The family of a failure. -/
def family : AccessError → AccessFamily
  | missingVariable _ => .missingVariable
  | missingField _ => .missingField
  | fieldOfOther _ | pathNotStruct _ | listText | spreadElement _ => .notAStruct
  | notAList | variableNotList _ => .notAList
  | loopVariable _ => .notAReference
  | tooDeep | listRange .. | counterRange .. | singleValue _ | noElement _ | boundText _ =>
    .invalidIndex

/-- The wording of a failure. -/
def message (names : NameTable) : AccessError → String
  | missingVariable x => AccessFamily.missingVariable.wording (names.display x)
  | missingField x => AccessFamily.missingField.wording (names.display x)
  | fieldOfOther x => "cannot read field `" ++ names.display x ++ "` of a non-struct value"
  | pathNotStruct p => "`" ++ p.describe names ++ "` is not a struct"
  | listText => "a list has no string value"
  | spreadElement p => "cannot splat `" ++ p.describe names ++ "`: element is not a struct"
  | notAList => AccessFamily.notAList.wording ""
  | variableNotList x => "`" ++ names.display x ++ "` is not a list"
  | loopVariable x => "loop variable `" ++ names.display x ++ "` is not a reference"
  | tooDeep => "reference chain too deep"
  | listRange i n => "index " ++ toString i ++ " out of range for list of " ++ toString n
  | counterRange i n => "index " ++ toString i ++ " out of range for counter of " ++ toString n
  | singleValue i => "index " ++ toString i ++ " on a single value"
  | noElement key => "no element named `" ++ key ++ "`"
  | boundText text => "range bound `" ++ text ++ "` is not an integer"

end AccessError

/-- Why reading gives no value or no text. -/
inductive ReadError where
  | access (e : AccessError)
  /-- An integer has too many digits to be written. -/
  | unwritable
  deriving DecidableEq, Repr

namespace ReadError

/-- The text of an integer. -/
def textOf (n : Int) : Except ReadError String :=
  if Text.isWritable n then .ok (toString n) else .error .unwritable

/-- A failure whose wording names these numbers. -/
def telling (numbers : List Int) (e : AccessError) : ReadError :=
  if numbers.all Text.isWritable then .access e else .unwritable

theorem telling_eq_access {numbers : List Int} {e : AccessError} (h : numbers.all Text.isWritable = true) :
    telling numbers e = .access e := if_pos h

theorem telling_eq_unwritable_iff {numbers : List Int} {e : AccessError} :
    telling numbers e = .unwritable ↔ numbers.all Text.isWritable = false := by
  rw [telling]
  split
  · next all => exact ⟨nofun, fun some => by rw [all] at some; cases some⟩
  · next some => exact ⟨fun _ => Bool.eq_false_iff.2 some, fun _ => rfl⟩

end ReadError

end Sweep
