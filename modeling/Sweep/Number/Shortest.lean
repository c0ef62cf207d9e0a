import Sweep.Number.Binary64

/-!
# The shortest decimal text of a floating point number

A number is written with the fewest decimal digits that read back as the same number, and with
those nearest to its exact value.  Everything is decided in exact arithmetic: the decimals that
read back are those in the interval of values that round to the number (its ends included when the
mantissa is even), and on the grid of `n`-digit decimals only the two neighbours of the exact value
have to be tried, for `n = 1, 2, …, 17`.

`FloatStyle` fixes the notation: where positional notation ends and how an exponent looks.
-/

namespace Sweep

/-- Decimal digits with the place of the point: `0.d₁d₂… · 10^point`. -/
structure Decimal where
  digits : Nat
  point : Int
  deriving DecidableEq, Repr

namespace Decimal

/-- `10^k` as a fraction. -/
def power (k : Int) : Rat :=
  if 0 ≤ k then (Nat.pow 10 k.toNat : Rat) else mkRat 1 (Nat.pow 10 (-k).toNat)

/-- The place of the point of a positive value: the least `k` with `v < 10^k`, searched from an
estimate that is at most two too small. -/
def pointOf (v : Rat) (guess : Int) : Nat → Int
  | 0 => guess
  | tries + 1 => if v < power guess then guess else pointOf v (guess + 1) tries

/-- The interval of values that round to `m · 2^e`, and whether its ends belong to it. -/
def interval (m : Nat) (e : Int) : Rat × Rat × Bool :=
  let unit : Rat := if 0 ≤ e then (Nat.pow 2 e.toNat : Rat) else mkRat 1 (Nat.pow 2 (-e).toNat)
  let below : Rat := if m = Nat.pow 2 52 ∧ Binary64.minExponent < e then mkRat 1 4 else mkRat 1 2
  (((m : Rat) - below) * unit, ((m : Rat) + mkRat 1 2) * unit, m % 2 == 0)

/-- The nearest grid point with `n` digits that lies in the interval. -/
def candidate? (v low high : Rat) (closed : Bool) (point : Int) (n : Nat) : Option Decimal :=
  let unit := power (point - n)
  let d := (v / unit).floor.toNat
  let fits (c : Rat) : Bool := if closed then low ≤ c && c ≤ high else low < c && c < high
  let lower := (d : Rat) * unit
  let upper := ((d + 1 : Nat) : Rat) * unit
  let pick (k : Nat) : Decimal := if k = Nat.pow 10 n then ⟨Nat.pow 10 (n - 1), point + 1⟩ else ⟨k, point⟩
  match fits lower && 0 < d, fits upper with
  | true, true =>
    if v - lower < upper - v then some (pick d)
    else if upper - v < v - lower then some (pick (d + 1))
    else some (pick (if d % 2 = 0 then d else d + 1))
  | true, false => some (pick d)
  | false, true => some (pick (d + 1))
  | false, false => none

/-- The shortest digits of `m · 2^e`, for `m` not zero: digit count, digits, point. -/
def shortest (m : Nat) (e : Int) : Nat × Decimal :=
  let v := (Binary64.finite false m e).toRat
  let (low, high, closed) := interval m e
  let guess : Int := ((m.log2 : Int) + e) * 30103 / 100000 - 1
  let point := pointOf v guess 4
  match (List.range 17).findSome? fun i => (candidate? v low high closed point (i + 1)).map (i + 1, ·) with
  | some r => r
  | none => (1, ⟨0, 0⟩)

end Decimal

/-- The notation of a floating point number. -/
structure FloatStyle where
  /-- Exponents below this are written in exponent form. -/
  leastPositional : Int
  /-- Exponents from this on are written in exponent form. -/
  positionalEnd : Int
  /-- The least number of digits of an exponent. -/
  exponentDigits : Nat

/-- Positional from `10^-4` to `10^16`, exponents with a sign and at least two digits. -/
def FloatStyle.standard : FloatStyle := ⟨-4, 16, 2⟩

/-- Decimal digits of a number, with zeros in front up to a width. -/
def paddedDigits (width n : Nat) : String :=
  let s := toString n
  String.ofList (List.replicate (width - s.length) '0') ++ s

/-- Positional or exponent form of `count` digits. -/
def FloatStyle.write (style : FloatStyle) (count : Nat) (d : Decimal) : String :=
  let ds := (paddedDigits count d.digits).toList
  let exponent := d.point - 1
  if style.leastPositional ≤ exponent ∧ exponent < style.positionalEnd then
    if d.point ≤ 0 then
      "0." ++ String.ofList (List.replicate (-d.point).toNat '0' ++ ds)
    else
      let k := d.point.toNat
      if count ≤ k then String.ofList (ds ++ List.replicate (k - count) '0') ++ ".0"
      else String.ofList (ds.take k) ++ "." ++ String.ofList (ds.drop k)
  else
    let head := String.ofList (ds.take 1)
    let tail := if count ≤ 1 then "" else "." ++ String.ofList (ds.drop 1)
    let sign := if exponent < 0 then "-" else "+"
    head ++ tail ++ "e" ++ sign ++ paddedDigits style.exponentDigits exponent.natAbs

/-- The shortest text that reads back. -/
def Binary64.text (x : Binary64) : String :=
  match x with
  | .undefined => "nan"
  | .infinite negative => if negative then "-inf" else "inf"
  | .finite negative m e =>
    let sign := if negative then "-" else ""
    if m = 0 then sign ++ "0.0"
    else
      let (count, d) := Decimal.shortest m e
      sign ++ FloatStyle.standard.write count d

end Sweep
