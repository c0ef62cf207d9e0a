/-!
# The longest written integers

An integer of more than 4300 decimal digits is neither read from a text nor written as one.
-/

namespace Sweep.Text

/-- The largest number of digits of an integer that is read or written. -/
def digitLimit : Nat := 4300

/-- The beginning of what is said about longer integers. -/
def longIntegerStart : String :=
  "Exceeds the limit (" ++ toString digitLimit ++ " digits) for integer string conversion"

/-- The end of what is said about longer integers. -/
def longIntegerEnd : String := "; use sys.set_int_max_str_digits() to increase the limit"

/-- What is said about an integer of so many digits that is to be read. -/
def longIntegerText (digits : Nat) : String :=
  longIntegerStart ++ ": value has " ++ toString digits ++ " digits" ++ longIntegerEnd

/-- What is said about an integer that is to be written. -/
def unwritableText : String := longIntegerStart ++ longIntegerEnd

/-- The smallest natural number that has too many digits.  It is not to be computed by unfolding. -/
@[irreducible]
def firstUnwritable : Nat := Nat.pow 10 digitLimit

/-- An integer has few enough digits to be written. -/
def isWritable (n : Int) : Bool := n.natAbs < firstUnwritable

theorem isWritable_iff {n : Int} : isWritable n = true ↔ n.natAbs < firstUnwritable :=
  decide_eq_true_iff

/-- An integer that is below a lower power of ten can be written. -/
theorem isWritable_of_lt {n : Int} {k : Nat} (small : n.natAbs < Nat.pow 10 k) (few : k ≤ digitLimit) :
    isWritable n = true := by
  have large (limit : Nat) (few : k ≤ limit) : Nat.pow 10 k ≤ Nat.pow 10 limit :=
    Nat.pow_le_pow_right (by decide) few
  refine isWritable_iff.2 (Nat.lt_of_lt_of_le small ?_)
  unfold firstUnwritable
  exact large digitLimit few

end Sweep.Text
