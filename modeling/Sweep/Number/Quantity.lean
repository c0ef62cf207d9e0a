import Sweep.Number.Shortest

/-!
# Quantities

A quantity is an integer of any size or a floating point number.  Times and counts that are
written in a bed are quantities.  Dividing two quantities gives the floating point number nearest
to the quotient of their values; an integer that meets a floating point number is rounded first.
A quotient of integers, or an integer that has to be rounded, may be too large for a floating point
number (`NumberError`); a quotient of floating point numbers is infinite then.
-/

namespace Sweep

/-- An integer or a floating point number. -/
inductive Quantity where
  | whole (n : Int)
  | real (x : Binary64)
  deriving DecidableEq, Repr, Inhabited

namespace Quantity

/-- The exact value of a finite quantity. -/
def toRat : Quantity → Rat
  | whole n => n
  | real x => x.toRat

/-- The text of a quantity. -/
def text : Quantity → String
  | whole n => toString n
  | real x => x.text

/-- The number, unless it is infinite and must not be. -/
def bounded (e : NumberError) : Binary64 → Except NumberError Binary64
  | .infinite _ => .error e
  | x => .ok x

/-- The quantity as a floating point number. -/
def rounded : Quantity → Except NumberError Binary64
  | whole n => bounded .operandTooLarge (.ofInt n)
  | real x => .ok x

/-- The quotient for a divisor that is not zero, rounded once when both are integers. -/
def divide : Quantity → Quantity → Except NumberError Binary64
  | whole a, whole b =>
    bounded .quotientTooLarge (.ofFraction (decide (a < 0) != decide (b < 0)) a.natAbs b.natAbs)
  | a, b => do return (← a.rounded).div (← b.rounded)

/-- The quantity is at most zero; an undefined one is not. -/
def isAtMostZero : Quantity → Bool
  | whole n => n ≤ 0
  | real x => x.isAtMostZero

/-- A number of milliseconds in seconds. -/
def seconds (q : Quantity) : Except NumberError Binary64 := q.divide (.whole 1000)

/-- So many milliseconds on a clock of whole microseconds, by way of the seconds, which are rounded as a
floating point number first.  What has no number of seconds counts as nothing. -/
def microseconds (q : Quantity) : Int :=
  match q.seconds with
  | .ok x => x.microseconds
  | .error _ => 0

/-- The point in time so many milliseconds from now on, in microseconds, if it ever comes: it does
not come when the number is infinite or undefined, and it has passed when the number is infinite
and negative. -/
def deadline (q : Quantity) (now : Nat) : Option Int :=
  match q with
  | real (.infinite true) => some now
  | real (.infinite false) | real .undefined => none
  | q => some (now + q.microseconds)

end Quantity

end Sweep
