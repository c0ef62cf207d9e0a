import Sweep.Proofs.Punctuality

/-!
# Questions that are spread over a time

A plan that spreads a number of questions over a time takes the time between two questions from a division
that rounds up.  The wait asks at its start and at its deadline too, so it may ask once more than it was
meant to, and whether it does depends on the division alone.

* `questionsWithin`, `lt_questionsWithin` — how many questions a wait has that is never answered with yes;
* `Course.le_questionsWithin`, `Course.eq_questionsWithin` — no wait has more, and one that times out has
  as many;
* `exists_spread`, `exists_interval_of_spread` — there is such a plan, unless the time is too large to be
  divided, and what is known of its interval;
* `questionsWithin_on_clock` — for a brief time the clock makes no difference;
* `questions_of_spread` — the number of questions of a wait with such a plan;
* `one_question_too_many` — a wait that was meant to have three questions and has four.
-/

namespace Sweep.Wait

variable {ω : Type} [Clocked ω] {ask : ω → Bool × ω} {w : ω}

/-- How many questions are asked within a time, at its start, after each interval, and at its end. -/
def questionsWithin (time interval : Nat) : Nat := (time + interval - 1) / interval + 1

theorem lt_questionsWithin {time interval : Nat} (positive : 0 < interval) (m : Nat) :
    m + 1 < questionsWithin time interval ↔ m * interval < time := by
  rw [questionsWithin, Nat.add_lt_add_iff_right, Nat.lt_iff_add_one_le, Nat.le_div_iff_mul_le positive,
    Nat.succ_mul]
  omega

/-- As many questions fit, whatever the unit of time is. -/
theorem questionsWithin_scale {unit interval : Nat} (hunit : 0 < unit) (positive : 0 < interval)
    (time : Nat) : questionsWithin (time * unit) (interval * unit) = questionsWithin time interval := by
  refine eq_of_forall_lt_iff fun m => ?_
  cases m with
  | zero => exact iff_of_true (Nat.succ_pos _) (Nat.succ_pos _)
  | succ m =>
    rw [lt_questionsWithin (Nat.mul_pos positive hunit), lt_questionsWithin positive, ← Nat.mul_assoc]
    exact Nat.mul_lt_mul_right hunit

variable {interval patience q : Nat} {length : Int} {r : WaitResult × ω}

/-- **A wait has no more questions than fit into its time.** -/
theorem Course.le_questionsWithin (positive : 0 < interval)
    (h : Course ask interval (some length) (questions interval patience (some length)) w q r) :
    q ≤ questionsWithin length.toNat interval := by
  have comes {m : Nat} (h : ComesTo ask interval (some length) w m) :
      m + 1 ≤ questionsWithin length.toNat interval := by
    cases m with
    | zero => exact Nat.succ_le_succ (Nat.zero_le _)
    | succ m =>
      have early := h.early m (Nat.lt_succ_self m) _ rfl
      exact (lt_questionsWithin positive m).2 (by omega)
  cases h with
  | done comes_to => exact comes comes_to
  | timedOut comes_to => exact comes comes_to
  | unfinished comes_to =>
    exact (reach_of_questions positive fun k hk => comes_to.early k hk _ rfl).elim

/-- **A wait that is never answered with yes has all the questions that fit into its time.** -/
theorem Course.eq_questionsWithin (positive : 0 < interval) (never : ∀ u, (ask u).1 = false)
    (h : Course ask interval (some length) (questions interval patience (some length)) w q r) :
    q = questionsWithin length.toNat interval := by
  refine Nat.le_antisymm (h.le_questionsWithin positive) ?_
  cases h with
  | @done m u comes_to yes =>
    have no := never (scene ask interval (some length) w m)
    rw [yes] at no
    cases no
  | @timedOut m n u comes_to limited late no =>
    obtain rfl := Option.some.inj limited
    refine Nat.le_of_not_lt fun more => ?_
    have early := (lt_questionsWithin positive m).1 more
    omega
  | unfinished comes_to =>
    exact (reach_of_questions positive fun k hk => comes_to.early k hk _ rfl).elim

/-! ### The plan -/

/-- The quotient of two numbers, unless the dividend is too large. -/
theorem divide_eq (time polls : Nat) :
    (Quantity.whole time).divide (.whole polls)
      = Quantity.bounded .quotientTooLarge (.ofFraction false time polls) := by
  have time_pos : decide ((time : Int) < 0) = false := decide_eq_false (by omega)
  have polls_pos : decide ((polls : Int) < 0) = false := decide_eq_false (by omega)
  rw [Quantity.divide, time_pos, polls_pos]
  rfl

/-- **There is a plan**, unless the time is too large. -/
theorem exists_spread {time polls : Nat} (positive : 0 < polls) {k : Nat} (small : time < 2 ^ k)
    (hk : k ≤ 1023) : ∃ plan, WaitPlan.spread (.whole time) (.whole polls) = .ok plan := by
  have asked : (Quantity.whole polls).isAtMostZero = false := decide_eq_false (by omega)
  rw [WaitPlan.spread, divide_eq, asked]
  by_cases zero : time = 0
  · subst zero
    exact ⟨_, rfl⟩
  · have size : time.log2 < k := (Nat.log2_lt zero).2 small
    obtain ⟨m, e, quotient, -⟩ :=
      Binary64.ofFraction_spec false zero (show polls ≠ 0 by omega) (by omega)
    rw [quotient]
    exact ⟨_, rfl⟩

/-- **The interval of a plan.**  If the time is not longer than a mantissa, then the interval is at most one
millisecond longer than the time, and so many intervals as there are questions reach its end. -/
theorem exists_interval_of_spread {time polls : Nat} (positive : 0 < polls) {plan : WaitPlan}
    (planned : WaitPlan.spread (.whole time) (.whole polls) = .ok plan) :
    ∃ interval : Nat, 0 < interval ∧ plan = .ofWhole (some (time : Int)) interval ∧
      (time < 2 ^ 52 → interval ≤ time + 1) ∧ (time < 2 ^ 53 → time ≤ polls * interval) := by
  obtain ⟨-, c, ceiling, rfl⟩ := WaitPlan.eq_ofWhole_of_spread planned
  have unsigned : (decide ((time : Int) < 0) != decide ((polls : Int) < 0)) = false := by
    rw [decide_eq_false (by omega), decide_eq_false (by omega)]
    rfl
  rw [unsigned, Int.natAbs_natCast, Int.natAbs_natCast] at ceiling
  obtain ⟨interval, whole⟩ : ∃ interval : Nat, max 1 c = interval := ⟨(max 1 c).toNat, by omega⟩
  refine ⟨interval, by omega, by rw [whole], fun exact => ?_, fun exact => ?_⟩
  · have share := Binary64.ceiling_le (show polls ≠ 0 by omega) exact ceiling
    omega
  obtain ⟨c', ceiling', enough⟩ := Binary64.le_mul_ceiling (show polls ≠ 0 by omega) exact
  obtain rfl : c' = c := Except.ok.inj (ceiling'.symm.trans ceiling)
  rw [whole] at enough
  exact_mod_cast enough

/-- A wait with a plan that can be counted takes its course, and has asked as often as the course says. -/
theorem course_of_run (timeless : Timeless ask) {time interval : Nat}
    (countable : (WaitPlan.ofWhole (some (time : Int)) interval).Countable) (patience : Nat) (w : ω) :
    ∃ q, Course ask (gap interval) (micros (some (time : Int)))
      (questions (gap interval) patience (micros (some (time : Int)))) w q
      (forget (run (.ofWhole (some (time : Int)) interval) patience (Logged.ask ask) ⟨w, #[]⟩)) ∧
      (run (.ofWhole (some (time : Int)) interval) patience (Logged.ask ask) ⟨w, #[]⟩).2.asked.size = q := by
  obtain ⟨q, course⟩ := run_course (timeless_logged timeless) countable patience ⟨w, #[]⟩
  obtain ⟨course, asked⟩ := course.forget timeless
  exact ⟨q, course, by rw [← Array.length_toList, asked, List.length_map, List.length_range]⟩

/-- **For a brief time the clock makes no difference** to how many questions fit. -/
theorem questionsWithin_on_clock {time interval : Nat} (positive : 0 < interval)
    (within : interval ≤ time + 1) (brief : (time + 1) * 1000 < 2 ^ 52) :
    (WaitPlan.ofWhole (some (time : Int)) interval).Countable ∧
      questionsWithin (Quantity.whole time).microseconds.toNat (gap interval)
        = questionsWithin time interval := by
  have short : ∀ n ∈ (interval : Int) :: (some (time : Int)).toList, n.natAbs * 1000 < 2 ^ 52 := by
    simp only [Option.toList_some, List.mem_cons, List.not_mem_nil, or_false]
    rintro n (rfl | rfl)
    · exact (Nat.mul_le_mul_right 1000 within).trans_lt brief
    · exact (Nat.mul_le_mul_right 1000 (Nat.le_succ time)).trans_lt brief
  obtain ⟨gap_eq, -⟩ := clock_of_lt short
  have time_eq := Quantity.microseconds_eq (n := time)
    (short time (List.mem_cons_of_mem _ List.mem_cons_self))
  refine ⟨WaitPlan.countable_of_lt (k := 52) (fun n hn => ?_) (by decide), ?_⟩
  · exact (Nat.le_mul_of_pos_right _ (by decide)).trans_lt (short n hn)
  · rw [gap_eq, time_eq, show ((interval : Int) * 1000).toNat = interval * 1000 by omega,
      show ((time : Int) * 1000).toNat = time * 1000 by omega]
    exact questionsWithin_scale (by decide) positive time

/-- **How many questions a wait has whose questions are spread over its time.**  Take a number of
milliseconds, a positive number of questions, and a question that takes no time.  If there is a plan, then
it has a whole positive interval, and the wait has no more questions than are asked within its time at this
interval, both as they are on the clock; it has as many when the answer is always no.  For times below
`2 ^ 52` microseconds the clock makes no difference.  There are more questions than the plan was made for if
and only if the intervals between so many questions do not add up to the time, and there is at most one more.

There is a plan unless the time is too large, and for such a time rounding may lead to more questions. -/
theorem questions_of_spread (timeless : Timeless ask) (time : Nat) {polls : Nat} (positive : 0 < polls)
    (patience : Nat) (w : ω) :
    (time < 2 ^ 1023 → ∃ plan, WaitPlan.spread (.whole time) (.whole polls) = .ok plan) ∧
    ∀ plan, WaitPlan.spread (.whole time) (.whole polls) = .ok plan → ∃ interval : Nat,
      0 < interval ∧ plan = .ofWhole (some (time : Int)) interval ∧
      (run plan patience (Logged.ask ask) ⟨w, #[]⟩).2.asked.size
        ≤ questionsWithin (Quantity.whole time).microseconds.toNat (gap interval) ∧
      (plan.Countable → (∀ u, (ask u).1 = false) →
        (run plan patience (Logged.ask ask) ⟨w, #[]⟩).2.asked.size
          = questionsWithin (Quantity.whole time).microseconds.toNat (gap interval)) ∧
      ((time + 1) * 1000 < 2 ^ 52 → plan.Countable ∧
        questionsWithin (Quantity.whole time).microseconds.toNat (gap interval)
          = questionsWithin time interval) ∧
      (polls < questionsWithin time interval ↔ (polls - 1) * interval < time) ∧
      (time < 2 ^ 53 → questionsWithin time interval ≤ polls + 1) := by
  refine ⟨fun small => exists_spread positive small (Nat.le_refl _), fun plan planned => ?_⟩
  obtain ⟨interval, advances, rfl, within, enough⟩ := exists_interval_of_spread positive planned
  refine ⟨interval, advances, rfl, ?_, fun countable never => ?_,
    fun brief => questionsWithin_on_clock advances (within (by omega)) brief, ?_, fun exact => ?_⟩
  · by_cases countable : (WaitPlan.ofWhole (some (time : Int)) interval).Countable
    · obtain ⟨q, course, asked⟩ := course_of_run timeless countable patience w
      rw [asked]
      exact course.le_questionsWithin (gap_pos (by omega) countable)
    · obtain ⟨e, refused⟩ := run_refused (Logged.ask ask) countable patience ⟨w, #[]⟩
      rw [refused]
      exact Nat.zero_le _
  · obtain ⟨q, course, asked⟩ := course_of_run timeless countable patience w
    rw [asked]
    exact course.eq_questionsWithin (gap_pos (by omega) countable) never
  · rw [← lt_questionsWithin advances, Nat.sub_add_cancel positive]
  · refine Nat.le_of_not_lt fun more => ?_
    have short := (lt_questionsWithin advances polls).1 more
    exact absurd (enough exact) (by omega)

/-- Six questions are spread over ten milliseconds: one every two milliseconds, and the last one at the
deadline. -/
theorem questions_of_spread_sixInTen :
    let ask : Nat → Bool × Nat := fun t => (false, t)
    let r := run (.ofWhole (some 10) 2) 1 (Logged.ask ask) ⟨0, #[]⟩
    Timeless ask ∧ 0 < 6 ∧ WaitPlan.spread (.whole 10) (.whole 6) = .ok (.ofWhole (some 10) 2) ∧
      r.2.asked = #[0, 2000, 4000, 6000, 8000, 10000] ∧ r.2.asked.size ≤ 6 := by
  intro ask
  have timeless : Timeless ask := ⟨fun _ => rfl, fun _ _ => rfl⟩
  have planned : WaitPlan.spread (.whole 10) (.whole 6) = .ok (.ofWhole (some 10) 2) := by decide +kernel
  obtain ⟨-, spread⟩ := questions_of_spread timeless 10 (show 0 < 6 by decide) 1 0
  obtain ⟨interval, -, plan_eq, within, -, clock, more, -⟩ := spread _ planned
  obtain rfl : 2 = interval := Int.ofNat.inj (Quantity.whole.inj (WaitPlan.mk.inj plan_eq).2)
  have enough := Nat.le_of_not_lt fun h => absurd (more.1 h) (by decide)
  rw [(clock (by decide)).2] at within
  exact ⟨timeless, by decide, planned, by decide +kernel, within.trans enough⟩

/-- Three questions are meant to be spread over a second, but four are asked: the interval is rounded up to
334 ms, and two of them do not reach the deadline. -/
theorem one_question_too_many :
    let ask : Nat → Bool × Nat := fun t => (false, t)
    let r := run (.ofWhole (some 1000) 334) 1 (Logged.ask ask) ⟨0, #[]⟩
    WaitPlan.spread (.whole 1000) (.whole 3) = .ok (.ofWhole (some 1000) 334) ∧
      r.2.asked = #[0, 334000, 668000, 1000000] ∧ r.1 = .timedOut ∧ 3 < r.2.asked.size := by
  decide +kernel

end Sweep.Wait
