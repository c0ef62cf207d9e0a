import Sweep.Text.Blank
import Sweep.Text.Digit
import Sweep.Text.DigitLimit

/-!
# Written integers

An integer is written as an optional sign and decimal digits of any script, with single
underscores allowed between digits and white space around the whole.  A number of more than 4300
digits is not read.
-/

namespace Sweep.Text

/-- The values of decimal digits with single underscores between them. -/
def groupedDigits? : List Char → Option (List Nat)
  | [] => none
  | [c] => (decimalValue? c).map ([·])
  | c :: '_' :: rest => do return (← decimalValue? c) :: (← groupedDigits? rest)
  | c :: rest => do return (← decimalValue? c) :: (← groupedDigits? rest)

/-- The number that a list of digit values shows, unless it is too long. -/
def ofDigits? (ds : List Nat) : Option Nat :=
  if ds.length ≤ digitLimit then some (ds.foldl (fun acc d => 10 * acc + d) 0) else none

/-- Read a text as an integer. -/
def integer? (cs : List Char) : Option Int :=
  match trim isIntegerBlank cs with
  | '-' :: rest => do return -(((← ofDigits? (← groupedDigits? rest)) : Nat) : Int)
  | '+' :: rest => do return ((← ofDigits? (← groupedDigits? rest)) : Nat)
  | rest => do return ((← ofDigits? (← groupedDigits? rest)) : Nat)

/-- Read a string as an integer. -/
def integerOf? (s : String) : Option Int := integer? s.toList

example : integer? [' ', '-', '1', '_', '2'] = some (-12) := by decide
example : integer? ['1', '_', '_', '2'] = none := by decide

end Sweep.Text
