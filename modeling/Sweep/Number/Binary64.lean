import Sweep.Text.DigitLimit

/-!
# Binary floating point of 64 bits

A finite number is a sign, a mantissa `m` below `2^53` and an exponent `e` of at least `-1074`, and
has the value `± m · 2^e`; either `2^52 ≤ m` or `e = -1074`.  All arithmetic is exact arithmetic on
fractions followed by one rounding to the nearest number, a tie going to the even mantissa.  Two
infinities and an undefined number complete the format; a quotient that has no value is undefined.

Only finite numbers have an integer near them: asking for one may fail (`NumberError`).
-/

namespace Sweep

/-- A floating point number of 64 bits. -/
inductive Binary64 where
  | finite (negative : Bool) (mantissa : Nat) (exponent : Int)
  | infinite (negative : Bool)
  | undefined
  deriving DecidableEq, Repr, Inhabited

/-- Why a calculation gives no number, or a number no text. -/
inductive NumberError where
  /-- The quotient of two integers is too large for a floating point number. -/
  | quotientTooLarge
  /-- An integer that meets a floating point number is too large for one. -/
  | operandTooLarge
  /-- No integer is near infinity. -/
  | infinite
  /-- No integer is near the undefined number. -/
  | undefined
  /-- An integer has too many digits to be written. -/
  | unwritable
  deriving DecidableEq, Repr

def NumberError.message : NumberError → String
  | quotientTooLarge => "integer division result too large for a float"
  | operandTooLarge => "int too large to convert to float"
  | infinite => "cannot convert float infinity to integer"
  | undefined => "cannot convert float NaN to integer"
  | unwritable => Text.unwritableText

/-- The text of an integer, unless it has too many digits. -/
def integerText (n : Int) : Except NumberError String :=
  if Text.isWritable n then .ok (toString n) else .error .unwritable

namespace Binary64

/-- The smallest exponent. -/
def minExponent : Int := -1074

/-- The largest exponent. -/
def maxExponent : Int := 971

/-- `a / b` rounded to the nearest natural number, a tie to the even one. -/
def roundDiv (a b : Nat) : Nat :=
  let q := a / b
  let r := a % b
  if 2 * r < b then q else if b < 2 * r then q + 1 else if q % 2 = 0 then q else q + 1

/-- The exponent that gives the fraction `num / den` a mantissa of 53 bits, or the smallest. -/
def exponentFor (num den : Nat) : Int :=
  let e := (num.log2 : Int) - den.log2 - 52
  let large := if 0 ≤ e then den * Nat.pow 2 (52 + e.toNat) ≤ num
    else den * Nat.pow 2 52 ≤ num * Nat.pow 2 (-e).toNat
  max minExponent (if large then e else e - 1)

/-- The number nearest to `num / den`. -/
def ofFraction (negative : Bool) (num den : Nat) : Binary64 :=
  if num = 0 ∨ den = 0 then .finite negative 0 minExponent
  else
    let e := exponentFor num den
    let m := if 0 ≤ e then roundDiv num (den * Nat.pow 2 e.toNat)
      else roundDiv (num * Nat.pow 2 (-e).toNat) den
    let (m, e) := if m = Nat.pow 2 53 then (Nat.pow 2 52, e + 1) else (m, e)
    if maxExponent < e then .infinite negative else .finite negative m e

/-- The number nearest to an exact value. -/
def ofRat (q : Rat) : Binary64 := ofFraction (q.num < 0) q.num.natAbs q.den

/-- The number nearest to an integer. -/
def ofInt (n : Int) : Binary64 := ofFraction (n < 0) n.natAbs 1

/-- The exact value; zero for what has none. -/
def toRat : Binary64 → Rat
  | .finite negative m e =>
    let v : Rat := if 0 ≤ e then ((m * Nat.pow 2 e.toNat : Nat) : Rat) else mkRat m (Nat.pow 2 (-e).toNat)
    if negative then -v else v
  | _ => 0

/-- The integer part of a finite number, toward zero. -/
def truncate : Binary64 → Int
  | .finite negative m e =>
    let n : Nat := if 0 ≤ e then m * Nat.pow 2 e.toNat else m / Nat.pow 2 (-e).toNat
    if negative then -n else n
  | _ => 0

/-- An integer of a finite number, given how to find it. -/
def integerBy (find : Binary64 → Int) : Binary64 → Except NumberError Int
  | .infinite _ => .error .infinite
  | .undefined => .error .undefined
  | x => .ok (find x)

/-- The integer part, toward zero. -/
def integerPart (x : Binary64) : Except NumberError Int := integerBy truncate x

/-- The smallest integer that is not below. -/
def ceiling (x : Binary64) : Except NumberError Int := integerBy (fun x => x.toRat.ceil) x

/-- The integer nearest to an exact value, a half going to the even neighbour. -/
def nearestInt (v : Rat) : Int :=
  let n : Int := roundDiv v.num.natAbs v.den
  if v.num < 0 then -n else n

/-- A finite number of seconds on a clock of whole microseconds. -/
def microseconds (x : Binary64) : Int := nearestInt (x.toRat * 1000000)

/-- The number is at most zero; an undefined one is not. -/
def isAtMostZero : Binary64 → Bool
  | .finite negative m _ => negative || m == 0
  | .infinite negative => negative
  | .undefined => false

/-- The number is neither zero nor minus zero. -/
def isNonzero : Binary64 → Bool
  | .finite _ m _ => m != 0
  | _ => true

/-- Zero. -/
def zero : Binary64 := .finite false 0 minExponent

/-- The difference of two finite numbers. -/
def sub (a b : Binary64) : Binary64 := ofRat (a.toRat - b.toRat)

/-- The sign bit of a number that has one. -/
def isNegative : Binary64 → Bool
  | .finite negative .. | .infinite negative => negative
  | .undefined => false

/-- The quotient, for a divisor that is not zero. -/
def div (a b : Binary64) : Binary64 :=
  match a, b with
  | .finite .., .finite .. => ofRat (a.toRat / b.toRat)
  | .finite .., .infinite _ => zero
  | .infinite _, .finite .. => .infinite (a.isNegative != b.isNegative)
  | _, _ => .undefined

end Binary64

end Sweep
