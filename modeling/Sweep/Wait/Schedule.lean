import Sweep.Wait

/-!
# When a wait asks

A wait of some length that starts at an instant asks its question at that instant and then after
every interval, but no later than at its deadline, where it asks for the last time.  `Wait.instant`
gives these instants by their number.  Their distance from the start never exceeds the length
(`instant_le_deadline`), and later questions are asked at later instants or at the deadline
(`instant_mono`).

`Logged` is a world that remembers when it was asked, so that the instants of a wait can be
compared with those of its schedule.
-/

namespace Sweep

/-- A bare clock. -/
instance : Clocked Nat where
  now t := t
  sleep d t := t + d

/-- A world that remembers when it was asked. -/
structure Logged (ω : Type) where
  world : ω
  /-- The instants of the questions so far. -/
  asked : Array Nat := #[]

namespace Logged

variable {ω : Type} [Clocked ω]

instance : Clocked (Logged ω) where
  now v := Clocked.now v.world
  sleep d v := { v with world := Clocked.sleep d v.world }

/-- A question that is remembered. -/
def ask (question : ω → Bool × ω) (v : Logged ω) : Bool × Logged ω :=
  let r := question v.world
  (r.1, ⟨r.2, v.asked.push (Clocked.now v.world)⟩)

end Logged

namespace Wait

/-- The instant of a question by its number, for a wait from a start, with an interval and a
length. -/
def instant (start interval : Nat) (length : Option Int) (k : Nat) : Nat :=
  match length with
  | none => start + k * interval
  | some n => start + min (k * interval) n.toNat

theorem instant_zero (start interval : Nat) (length : Option Int) :
    instant start interval length 0 = start := by
  cases length <;> simp [instant]

theorem instant_le_deadline (start interval : Nat) (n : Int) (k : Nat) :
    instant start interval (some n) k ≤ start + n.toNat := by
  simp only [instant]
  omega

theorem instant_mono (start interval : Nat) (length : Option Int) {j k : Nat} (h : j ≤ k) :
    instant start interval length j ≤ instant start interval length k := by
  have hm : j * interval ≤ k * interval := Nat.mul_le_mul_right interval h
  cases length <;> simp only [instant] <;> omega

end Wait

end Sweep
