import Sweep.Proofs.Lookup
import Sweep.Supervision.Crew

/-!
# Meters without a line

A meter has a line when the estimator tells both of its times and all of its numbers can be written.

* `Meter.Mute` — why a meter has no line, and `Meter.mute_of_summary`;
* `Meter.summary_ne_ok` — a total that is too long leaves no line;
* `Crew.mute_of_progressText` — the text of a progress file fails with one of its meters.
-/

namespace Sweep

/-- Why a meter has no line at an instant: the estimator fails, or one of its numbers cannot be written. -/
inductive Meter.Mute (e : Estimator) (m : Meter) (now : Nat) : Crash → Prop where
  | left {f : Foreign} (failed : e.left m.tally now = .error f) : Mute e m now (.foreign f)
  | taken {f : Foreign} (failed : e.taken m.tally now = .error f) : Mute e m now (.foreign f)
  | count {n : Int} (here : n = m.position ∨ n = m.total) (long : Text.isWritable n = false) :
      Mute e m now (.number .unwritable)
  | duration {d : Option Quantity} {n : NumberError}
      (told : e.left m.tally now = .ok d ∨ e.taken m.tally now = .ok d)
      (failed : durationText d = .error n) : Mute e m now (.number n)

theorem error_or_of_mapError_bind {α β ε ε' : Type} {r : Except ε α} {f : ε → ε'} {next : α → Except ε' β}
    {c : ε'} (h : (r.mapError f >>= next) = .error c) :
    (∃ e, r = .error e ∧ c = f e) ∨ ∃ a, r = .ok a ∧ next a = .error c := by
  cases r with
  | error e => exact .inl ⟨e, rfl, (Except.error.inj h).symm⟩
  | ok a => exact .inr ⟨a, rfl, h⟩

theorem unwritable_of_integerText {n : Int} {e : NumberError} (h : integerText n = .error e) :
    Text.isWritable n = false ∧ e = .unwritable := by
  rw [integerText] at h
  split at h
  · cases h
  · next long => exact ⟨Bool.eq_false_iff.2 long, (Except.error.inj h).symm⟩

/-- **A meter that has no line is mute.** -/
theorem Meter.mute_of_summary {e : Estimator} {m : Meter} {now : Nat} {c : Crash}
    (h : m.summary e now = .error c) : m.Mute e now c := by
  rw [Meter.summary] at h
  obtain ⟨f, failed, rfl⟩ | ⟨left, left_eq, h⟩ := error_or_of_mapError_bind h
  · exact .left failed
  obtain ⟨f, failed, rfl⟩ | ⟨taken, taken_eq, h⟩ := error_or_of_mapError_bind h
  · exact .taken failed
  obtain ⟨n, failed, rfl⟩ | ⟨_, -, h⟩ := error_or_of_mapError_bind h
  · obtain ⟨long, rfl⟩ := unwritable_of_integerText failed
    exact .count (.inl rfl) long
  obtain ⟨n, failed, rfl⟩ | ⟨_, -, h⟩ := error_or_of_mapError_bind h
  · obtain ⟨long, rfl⟩ := unwritable_of_integerText failed
    exact .count (.inr rfl) long
  obtain ⟨n, failed, rfl⟩ | ⟨_, -, h⟩ := error_or_of_mapError_bind h
  · exact .duration (.inl left_eq) failed
  obtain ⟨n, failed, rfl⟩ | ⟨_, -, h⟩ := error_or_of_mapError_bind h
  · exact .duration (.inr taken_eq) failed
  cases h

/-- A total that cannot be written leaves no line, whatever the estimator. -/
theorem Meter.summary_ne_ok {e : Estimator} {m : Meter} {now : Nat} {text : String}
    (long : Text.isWritable m.total = false) : m.summary e now ≠ .ok text := by
  intro h
  rw [Meter.summary] at h
  obtain ⟨_, -, h⟩ := exists_of_bind_ok h
  obtain ⟨_, -, h⟩ := exists_of_bind_ok h
  obtain ⟨_, -, h⟩ := exists_of_bind_ok h
  obtain ⟨_, total, -⟩ := exists_of_bind_ok h
  rw [integerText, if_neg (Bool.eq_false_iff.1 long)] at total
  cases total

/-- **If a progress file has no text, then a meter is mute.** -/
theorem Crew.mute_of_progressText {c : Crew} {now : Nat} {crash : Crash}
    (h : c.progressText now = .error crash) :
    ∃ m ∈ c.meters, m.2.summary c.estimator now = .error crash ∧ m.2.Mute c.estimator now crash := by
  rw [progressText] at h
  cases each : c.meters.mapM fun x => return (← x.2.summary c.estimator now) ++ "\n" with
  | ok lines =>
    rw [each] at h
    cases h
  | error crash' =>
    rw [each] at h
    obtain rfl := Except.error.inj h
    obtain ⟨m, known, refused⟩ := exists_error_of_mapM each
    cases told : m.2.summary c.estimator now with
    | error e =>
      rw [told] at refused
      obtain rfl := Except.error.inj refused
      exact ⟨m, known, told, Meter.mute_of_summary told⟩
    | ok summary =>
      rw [told] at refused
      cases refused

end Sweep
