import Sweep.Number.Quantity

/-!
# Durations as people read them

A duration of less than a minute shows its whole seconds, one of less than an hour minutes and
seconds, a longer one hours as well.  An unknown duration is a question mark.  Negative durations
are shown in seconds, and fractions are cut off toward zero.
-/

namespace Sweep

/-- Minutes and seconds as text. -/
def clockText (minutes : Int) (seconds : Int) : String :=
  if minutes < 60 then toString minutes ++ "m " ++ toString seconds ++ "s"
  else
    toString (minutes / 60) ++ "h " ++ toString (minutes % 60) ++ "m " ++ toString seconds ++ "s"

/-- The whole minutes of a floating point number of seconds, by floating point division. -/
def floatMinutes (x : Binary64) : Int :=
  let v := x.toRat
  let rest := v - 60 * (v / 60).floor
  let quotient := (Binary64.div (.ofRat (v - rest)) (.ofInt 60)).toRat
  let n := quotient.floor
  if mkRat 1 2 < quotient - n then n + 1 else n

/-- The text of a whole number of seconds; its seconds or its hours may have too many digits. -/
def wholeDuration (n : Int) : Except NumberError String :=
  if Text.isWritable (if n < 60 then n else n / 3600) then
    .ok (if n < 60 then toString n ++ "s" else clockText (n / 60) (n % 60))
  else .error .unwritable

/-- The text of a finite number of seconds. -/
def realDuration (x : Binary64) : String :=
  let v := x.toRat
  if v < 60 then toString x.truncate ++ "s"
  else clockText (floatMinutes x) (v - 60 * (v / 60).floor).floor

/-- The text of a duration in seconds.  Infinitely many seconds have no number of minutes, so their
whole minutes are undefined. -/
def durationText : Option Quantity → Except NumberError String
  | none => .ok "?"
  | some (.whole n) => wholeDuration n
  | some (.real (.infinite true)) => .error .infinite
  | some (.real (.infinite false)) | some (.real .undefined) => .error .undefined
  | some (.real x) => .ok (realDuration x)

end Sweep
