import Sweep.Wait

/-!
# What a bounded wait leaves behind

A wait does nothing to its world but ask and sleep.  So whatever both keep, the wait keeps, and how it
ends says how its last question was answered:

* `Keeps` — asking and sleeping keep a property of the world;
* `Ended` — how a wait ended, with the world in which the last question was asked;
* `run_ended` — every wait ends in this way;
* `deadline_or_pause_of_refused` — a wait is refused only for its plan.
-/

namespace Sweep.Wait

variable {ω : Type} [Clocked ω] {ask : ω → Bool × ω} {P : ω → Prop}

/-- Asking and sleeping keep a property of the world. -/
structure Keeps (ask : ω → Bool × ω) (P : ω → Prop) : Prop where
  ask : ∀ w, P w → P (ask w).2
  sleep : ∀ d w, P w → P (Clocked.sleep d w)

/-- How a wait ended: with a yes or a no to a question in a world with the property, or without an
answer. -/
inductive Ended (ask : ω → Bool × ω) (P : ω → Prop) : WaitResult × ω → Prop where
  | done {u w : ω} (before : P u) (answer : ask u = (true, w)) : Ended ask P (.done, w)
  | timedOut {u w : ω} (before : P u) (answer : ask u = (false, w)) : Ended ask P (.timedOut, w)
  | unfinished {w : ω} (after : P w) : Ended ask P (.unfinished, w)
  | refused {w : ω} (e : PlanError) (after : P w) : Ended ask P (.refused e, w)

/-- At the end the property holds, however the wait ended. -/
theorem Ended.after (keeps : Keeps ask P) {r : WaitResult × ω} (h : Ended ask P r) : P r.2 := by
  cases h with
  | @done u w before answer =>
    have h := keeps.ask u before
    rwa [answer] at h
  | @timedOut u w before answer =>
    have h := keeps.ask u before
    rwa [answer] at h
  | unfinished after => exact after
  | refused e after => exact after

theorem untilDeadline_ended (keeps : Keeps ask P) (interval : Nat) (deadline : Option Int)
    (budget : Nat) {w : ω} (h : P w) : Ended ask P (untilDeadline ask interval deadline budget w) := by
  induction budget generalizing w with
  | zero => exact .unfinished h
  | succ budget ih =>
    rw [untilDeadline]
    split
    · next answer => exact .done h answer
    · next w' answer =>
      have after : P w' := by
        have h := keeps.ask w h
        rwa [answer] at h
      split
      · exact ih (keeps.sleep _ _ after)
      · dsimp only
        split
        · exact .timedOut h answer
        · exact ih (keeps.sleep _ _ after)

theorem once_ended (keeps : Keeps ask P) (deadline : Option Int) (e : NumberError) {w : ω}
    (h : P w) : Ended ask P (once ask deadline e w) := by
  rw [once]
  split
  · next answer => exact .done h answer
  · next w' answer =>
    have after : P w' := by
      have h := keeps.ask w h
      rwa [answer] at h
    split
    · exact .timedOut h answer
    · exact .refused _ after

/-- **A wait only asks and sleeps.** -/
theorem run_ended (keeps : Keeps ask P) (plan : WaitPlan) (patience : Nat) {w : ω} (h : P w) :
    Ended ask P (run plan patience ask w) := by
  rw [run]
  split
  · exact .refused _ h
  · dsimp only
    split
    · exact once_ended keeps _ _ h
    · exact untilDeadline_ended keeps _ _ _ h

theorem run_keeps (keeps : Keeps ask P) (plan : WaitPlan) (patience : Nat) {w : ω} (h : P w) :
    P (run plan patience ask w).2 := (run_ended keeps plan patience h).after keeps

/-! ### Refusals -/

theorem untilDeadline_ne_refused (interval : Nat) (deadline : Option Int) (budget : Nat) (w : ω)
    (e : PlanError) : (untilDeadline ask interval deadline budget w).1 ≠ .refused e := by
  induction budget generalizing w with
  | zero => exact nofun
  | succ budget ih =>
    rw [untilDeadline]
    split
    · exact nofun
    · split
      · exact ih _
      · dsimp only
        split
        · exact nofun
        · exact ih _

/-- A wait is refused only for its plan: there is no deadline, or no time between two questions. -/
theorem deadline_or_pause_of_refused {plan : WaitPlan} {patience : Nat} {w : ω} {e : PlanError}
    (h : (run plan patience ask w).1 = .refused e) :
    plan.deadline (Clocked.now w) = .error e ∨ ∃ length n, plan.pause length = .error n := by
  rw [run] at h
  split at h
  · next heq =>
    cases h
    exact .inl heq
  · dsimp only at h
    split at h
    · next heq => exact .inr ⟨_, _, heq⟩
    · exact absurd h (untilDeadline_ne_refused _ _ _ _ _)

/-- The usual wait without end has a deadline and a pause. -/
theorem lasting_none_feasible {e : PlanError}
    (h : (∃ now, (WaitPlan.lasting none).deadline now = .error e) ∨
      ∃ length n, (WaitPlan.lasting none).pause length = .error n) : False := by
  rcases h with ⟨now, h⟩ | ⟨length, n, h⟩
  · cases h
  · cases length <;> cases h

/-- The usual wait without end is never refused. -/
theorem lasting_none_ne_refused (patience : Nat) (w : ω) (e : PlanError) :
    (run (.lasting none) patience ask w).1 ≠ .refused e := by
  intro h
  exact lasting_none_feasible ((deadline_or_pause_of_refused h).imp (fun e => ⟨_, e⟩) id)

/-- The usual wait without end is over at once when the first answer is yes. -/
theorem run_lasting_none_of_yes {patience : Nat} {w w' : ω} (yes : ask w = (true, w')) :
    run (.lasting none) (patience + 1) ask w = (.done, w') := by
  show untilDeadline ask _ none (patience + 1) w = (.done, w')
  rw [untilDeadline, yes]

end Sweep.Wait
