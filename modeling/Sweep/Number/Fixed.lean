import Sweep.Number.Shortest

/-!
# Decimal text with a given number of digits

Where the shortest text of a number lets the number decide how many digits it has, here the reader
decides.  Three forms are known: a number of places behind the point, a number of places behind the
first digit with an exponent of ten, and a number of digits in whichever of the two forms is
shorter to read.  The exact value is rounded once, a tie goes to the even digit.
-/

namespace Sweep

namespace Decimal

/-- The natural number nearest to a value that is not negative, a tie going to the even one. -/
def nearest (v : Rat) : Nat := Binary64.roundDiv v.num.natAbs v.den

/-- The first `count` digits of a finite number without its sign, and the exponent of ten of the
first of them; both are zero for zero. -/
def leading (x : Binary64) (count : Nat) : Nat × Int :=
  match x with
  | .finite _ 0 _ | .infinite _ | .undefined => (0, 0)
  | .finite _ m e =>
    let v := (Binary64.finite false m e).toRat
    let point := pointOf v (((m.log2 : Int) + e) * 30103 / 100000 - 1) 4
    let n := nearest (v / power (point - count))
    if n = Nat.pow 10 count then (Nat.pow 10 (count - 1), point) else (n, point - 1)

end Decimal

/-- How a number is written with a given number of digits. -/
inductive DigitForm where
  /-- So many digits behind the point. -/
  | places
  /-- So many digits behind the first one, and an exponent. -/
  | exponent
  /-- So many digits in all, with an exponent only for large and small numbers. -/
  | general
  deriving DecidableEq, Repr

namespace DigitForm

/-- Digits with a point behind the first few; without digits behind the point it is left out, unless
it is to be kept. -/
def pointed (keepsPoint : Bool) (before behind : List Char) : String :=
  String.ofList before ++
    if behind = [] then (if keepsPoint then "." else "") else "." ++ String.ofList behind

/-- Digits without the zeros at their end. -/
def withoutZeros (ds : List Char) : List Char := (ds.reverse.dropWhile (· = '0')).reverse

/-- An exponent with its sign and at least two digits. -/
def exponentText (e : Int) : String :=
  "e" ++ (if e < 0 then "-" else "+") ++ paddedDigits 2 e.natAbs

/-- A number with digits behind the point. -/
def inPlaces (x : Binary64) (count : Nat) (keepsPoint : Bool) : String :=
  let v := if x.toRat < 0 then -x.toRat else x.toRat
  let ds := (paddedDigits (count + 1) (Decimal.nearest (v * (Nat.pow 10 count : Rat)))).toList
  pointed keepsPoint (ds.take (ds.length - count)) (ds.drop (ds.length - count))

/-- A number with an exponent. -/
def inExponent (x : Binary64) (count : Nat) (keepsPoint : Bool) : String :=
  let (n, e) := Decimal.leading x (count + 1)
  let ds := (paddedDigits (count + 1) n).toList
  pointed keepsPoint (ds.take 1) (ds.drop 1) ++ exponentText e

/-- A number with so many digits in all.  Exponents from `-4` on and below the number of digits are
not written; zeros at the end are dropped, unless everything is to be kept. -/
def inGeneral (x : Binary64) (count : Nat) (keepsAll : Bool) : String :=
  let (n, e) := Decimal.leading x count
  let ds := (paddedDigits count n).toList
  let shorten (ds : List Char) : List Char := if keepsAll then ds else withoutZeros ds
  if -4 ≤ e ∧ e < count then
    if e < 0 then
      pointed keepsAll ['0'] (shorten (List.replicate (-e - 1).toNat '0' ++ ds))
    else pointed keepsAll (ds.take (e.toNat + 1)) (shorten (ds.drop (e.toNat + 1)))
  else pointed keepsAll (ds.take 1) (shorten (ds.drop 1)) ++ exponentText e

/-- The text of a number without its sign. -/
def write (form : DigitForm) (count : Nat) (keepsAll : Bool) (x : Binary64) : String :=
  match x with
  | .infinite _ => "inf"
  | .undefined => "nan"
  | x =>
    match form with
    | places => inPlaces x count keepsAll
    | exponent => inExponent x count keepsAll
    | general => inGeneral x (max count 1) keepsAll

end DigitForm

end Sweep
