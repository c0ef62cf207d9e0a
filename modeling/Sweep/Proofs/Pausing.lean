import Sweep.Proofs.Punctuality
import Sweep.Supervision.Crew

/-!
# Pauses end on time

A pause is slept in slices, with a look at the flag before each of them.  No child is started in a pause,
so it is known beforehand when the flag goes up, and however the slices, the deadline and that instant lie
to each other, the pause is over at the first of the two.

* `World.flagAt` — when the flag goes up if no child is started; `isCancelled_iff`, it is up since then;
* `World.wakesAt` — when a sleep until some moment is over, and `sleepUnlessCancelled_eq`, each slice is;
* `Supervision.sleepUntil_eq` — enough slices come to the same, one slice being `wakesAt_after_slice`;
* `pause_refused` — a pause that cannot be counted in seconds is refused.

The main statement is `Supervision.pause_exact`.
-/

namespace Sweep

namespace World

variable {w : World}

/-- The instant at which the flag is up, if no child is started: it may have been up from the beginning. -/
def flagAt (w : World) : Option Nat :=
  if w.raised || w.cancelAtAttempt.any (· ≤ w.attempts) then some 0 else w.cancelAt

/-- When a sleep is over that begins now and is meant to last until a moment. -/
def wakesAt (w : World) (moment : Nat) : Nat :=
  match w.flagAt with
  | some c => min moment (max w.now c)
  | none => moment

theorem isCancelled_iff (w : World) : w.isCancelled = true ↔ ∃ c, w.flagAt = some c ∧ c ≤ w.now := by
  rw [isCancelled, flagAt]
  by_cases up : (w.raised || w.cancelAtAttempt.any (· ≤ w.attempts)) = true
  · have already : (w.raised || w.cancelAt.any (· ≤ w.now) ||
        w.cancelAtAttempt.any (· ≤ w.attempts)) = true := by
      rw [Bool.or_right_comm, up, Bool.true_or]
    simp [up, already]
  · rw [Bool.or_right_comm, Bool.eq_false_of_not_eq_true up, Bool.false_or]
    cases w.cancelAt <;> simp

theorem wakesAt_of_never (never : w.flagAt = none) (moment : Nat) : w.wakesAt moment = moment := by
  rw [wakesAt, never]

theorem wakesAt_of_flagAt {c : Nat} (at_ : w.flagAt = some c) (moment : Nat) :
    w.wakesAt moment = min moment (max w.now c) := by
  rw [wakesAt, at_]

theorem le_wakesAt {moment : Nat} (ahead : w.now ≤ moment) : w.now ≤ w.wakesAt moment := by
  cases at_ : w.flagAt with
  | none => rwa [wakesAt_of_never at_]
  | some c =>
    rw [wakesAt_of_flagAt at_]
    omega

/-- What lies in the past is over now. -/
theorem wakesAt_of_isCancelled (up : w.isCancelled = true) {moment : Nat} (ahead : w.now ≤ moment) :
    w.wakesAt moment = w.now := by
  obtain ⟨c, at_, early⟩ := w.isCancelled_iff.1 up
  rw [wakesAt_of_flagAt at_]
  omega

/-- **A slice is over at its end, or when the flag goes up.** -/
theorem sleepUnlessCancelled_eq (w : World) (micros : Nat) :
    w.sleepUnlessCancelled micros = { w with now := w.wakesAt (w.now + micros) } := by
  rw [sleepUnlessCancelled]
  by_cases up : w.isCancelled = true
  · rw [if_pos up, wakesAt_of_isCancelled up (by omega)]
  · rw [if_neg up]
    have down : w.flagAt = w.cancelAt := by
      rw [flagAt, if_neg]
      intro already
      exact up (w.isCancelled_iff.2 ⟨0, by rw [flagAt, if_pos already], Nat.zero_le _⟩)
    cases set : w.cancelAt with
    | none => rw [wakesAt_of_never (down.trans set)]
    | some c =>
      have ahead : w.now < c := by
        rcases Nat.lt_or_ge w.now c with ahead | early
        · exact ahead
        · exact absurd (w.isCancelled_iff.2 ⟨c, down.trans set, early⟩) up
      have wakes : w.now + min micros (c - w.now) = min (w.now + micros) (max w.now c) := by omega
      simp only [wakesAt_of_flagAt (down.trans set), wakes]

end World

namespace Supervision

open World

/-- After a slice the end is the same, and fewer slices are enough for it. -/
theorem wakesAt_after_slice {w : World} {moment slices : Nat} (ahead : w.now < moment)
    (enough : w.wakesAt moment ≤ w.now + (slices + 1) * slice) :
    let w' : World := { w with now := w.wakesAt (w.now + min slice (moment - w.now)) }
    w'.now ≤ moment ∧ w'.wakesAt moment = w.wakesAt moment ∧
      w'.wakesAt moment ≤ w'.now + slices * slice := by
  intro w'
  have more : (slices + 1) * slice = slices * slice + slice := Nat.succ_mul _ _
  cases at_ : w.flagAt with
  | none =>
    rw [wakesAt_of_never at_] at enough ⊢
    have at' : w'.flagAt = none := at_
    have now' : w'.now = w.now + min slice (moment - w.now) := wakesAt_of_never at_ _
    rw [wakesAt_of_never at']
    omega
  | some c =>
    rw [wakesAt_of_flagAt at_] at enough ⊢
    have at' : w'.flagAt = some c := at_
    have now' : w'.now = min (w.now + min slice (moment - w.now)) (max w.now c) :=
      wakesAt_of_flagAt at_ _
    rw [wakesAt_of_flagAt at']
    omega

/-- **Slices that are enough for the time come to one sleep.** -/
theorem sleepUntil_eq {moment slices : Nat} {w : World} (ahead : w.now ≤ moment)
    (enough : w.wakesAt moment ≤ w.now + slices * slice) :
    sleepUntil moment slices w = { w with now := w.wakesAt moment } := by
  induction slices generalizing w with
  | zero =>
    have woken : w.wakesAt moment = w.now := by
      have := w.le_wakesAt ahead
      omega
    rw [sleepUntil, woken]
  | succ slices ih =>
    rw [sleepUntil]
    by_cases up : w.isCancelled = true
    · simp [up, wakesAt_of_isCancelled up ahead]
    · by_cases late : w.now < moment
      · rw [if_neg (by simp [up, late]), sleepUnlessCancelled_eq]
        obtain ⟨ahead', same, enough'⟩ := wakesAt_after_slice late enough
        rw [ih ahead' enough', same]
      · obtain rfl : moment = w.now := by omega
        have woken : w.wakesAt w.now = w.now := by
          cases at_ : w.flagAt with
          | none => exact wakesAt_of_never at_ _
          | some c =>
            rw [wakesAt_of_flagAt at_]
            omega
        rw [if_pos (by simp), woken]

theorem wakesAt_le (w : World) (moment : Nat) : w.wakesAt moment ≤ moment := by
  cases at_ : w.flagAt with
  | none => rw [wakesAt_of_never at_]
  | some c =>
    rw [wakesAt_of_flagAt at_]
    omega

/-- A pause that cannot be counted in seconds is refused. -/
theorem pause_refused {ms : Nat} (uncountable : ¬ ∃ x, WaitPlan.inSeconds (.whole ms) = .ok x)
    (w : World) : ∃ e, pause ms w = (.error e, w) := by
  rw [pause]
  split
  · next e _ => exact ⟨e, rfl⟩
  · next x counted => exact absurd ⟨x, by rw [WaitPlan.inSeconds, counted]; rfl⟩ uncountable

/-- **A pause that can be counted in seconds ends at its deadline, or when the flag goes up**, and at once
if that was before. -/
theorem pause_of_countable {ms : Nat} (countable : ∃ x, WaitPlan.inSeconds (.whole ms) = .ok x)
    (w : World) :
    pause ms w = (.ok (), { w with now := w.wakesAt (w.now + (Quantity.whole ms).microseconds.toNat) }) := by
  obtain ⟨x, counted⟩ := countable
  have counted := WaitPlan.seconds_of_inSeconds counted
  rw [pause, counted, Quantity.microseconds_of_seconds counted]
  dsimp only
  generalize x.microseconds.toNat = time
  have enough : w.now + time ≤ w.now + (time / slice + 2) * slice := by
    rw [slice]
    omega
  rw [sleepUntil_eq (Nat.le_add_right _ _) (Nat.le_trans (wakesAt_le w _) enough)]

/-- **How long pauses take.** A pause whose milliseconds can be counted in seconds, as all below a large
bound can, changes nothing but the clock: it ends at its deadline if the flag never goes up, and else at
the deadline or when the flag is up, whichever is first.  A pause below `2 ^ 52` microseconds has just its own
time to the deadline, and a longer one that of its seconds.  Any other pause is refused. -/
theorem pause_exact (ms : Nat) (w : World) :
    let time := (Quantity.whole ms).microseconds.toNat
    ((∃ x, WaitPlan.inSeconds (.whole ms) = .ok x) →
      pause ms w = (.ok (), { w with
        now := match w.flagAt with
          | some c => min (w.now + time) (max w.now c)
          | none => w.now + time })) ∧
    (∀ v : World, v.isCancelled = true ↔ ∃ c, v.flagAt = some c ∧ c ≤ v.now) ∧
    (ms < 2 ^ 1032 → ∃ x, WaitPlan.inSeconds (.whole ms) = .ok x) ∧
    (ms * 1000 < 2 ^ 52 → time = ms * 1000) ∧
    ((¬ ∃ x, WaitPlan.inSeconds (.whole ms) = .ok x) → ∃ e, pause ms w = (.error e, w)) := by
  intro time
  refine ⟨fun countable => pause_of_countable countable w, isCancelled_iff,
    fun small => WaitPlan.inSeconds_of_lt small (Nat.le_refl _), fun small => ?_, fun un => pause_refused un w⟩
  have same := Quantity.microseconds_eq (n := ms) small
  omega

/-- The flag goes up in the last slice of a pause, which is shorter than the others. -/
example : (pause 250 { now := 70, cancelAt := some 200123 }).2.now = 200123 := by decide +kernel

/-- The milliseconds of a pause are too many to be counted in seconds, so it is refused at once, though the
flag would be up soon. -/
theorem not_paused_of_hugeNumber :
    let w : World := { cancelAt := some 50000 }
    (pause (10 ^ 400) w).1 = .error .quotientTooLarge ∧
      (pause (10 ^ 400) w).2.now = 0 ∧ min (0 + 10 ^ 400 * 1000) (max 0 50000) = 50000 := by
  decide +kernel

end Supervision

end Sweep
