import Sweep.Proofs.Polling
import Sweep.Proofs.Seconds

/-!
# Waits keep their schedule

A question that takes no time is asked at the instants of the schedule of its wait, at each of them once,
until the answer is yes or the deadline is reached, and the deadline itself is the last instant.

* `WaitPlan.Countable`, `countable_of_lt` — a time that is counted in seconds must not be too long;
* `WaitPlan.eq_ofWhole_of_spread` — the plan that spreads questions over a time;
* `Timeless` — asking takes no time, and a sleep takes as long as it is meant to;
* `scene` — the world in which a wait asks its question of some number, if it comes to it;
* `ComesTo`, `comesTo_succ` — the answers so far were no, and the deadline was not reached;
* `Course`, `untilDeadline_course` — how a wait goes, with the number of its questions, and
  `Course.forget`, when it remembers its questions;
* `run_course`, `run_refused` — the same for a plan in whole milliseconds, which is refused before the first
  question when its time cannot be counted in seconds;
* `Course.last_question` — the end of a wait with such a plan;
* `run_on_schedule` — the instants, the answers and the ends of all waits with such a plan.
-/

namespace Sweep

namespace WaitPlan

/-- The numbers of milliseconds of a plan are small enough to be counted in seconds. -/
def Countable (p : WaitPlan) : Prop :=
  ∀ q ∈ p.interval :: p.duration.toList, ∃ x, inSeconds q = .ok x

/-- A plan in whole milliseconds. -/
def ofWhole (duration : Option Int) (interval : Int) : WaitPlan :=
  ⟨duration.map .whole, .whole interval⟩

theorem inSeconds_of_lt {n : Int} {k : Nat} (small : n.natAbs < 2 ^ k) (hk : k ≤ 1032) :
    ∃ x, inSeconds (.whole n) = .ok x := by
  obtain ⟨x, counted⟩ := Quantity.exists_seconds small hk
  exact ⟨x, by rw [inSeconds, counted]; rfl⟩

/-- **Numbers below a large bound can be counted.** -/
theorem countable_of_lt {duration : Option Int} {interval : Int} {k : Nat}
    (small : ∀ n ∈ interval :: duration.toList, n.natAbs < 2 ^ k) (hk : k ≤ 1032) :
    (ofWhole duration interval).Countable := by
  intro q hq
  cases duration with
  | none =>
    obtain rfl := List.mem_singleton.1 hq
    exact inSeconds_of_lt (small interval List.mem_cons_self) hk
  | some n =>
    rcases List.mem_cons.1 hq with rfl | hq
    · exact inSeconds_of_lt (small interval List.mem_cons_self) hk
    · obtain rfl := List.mem_singleton.1 hq
      exact inSeconds_of_lt (small n (List.mem_cons_of_mem _ List.mem_cons_self)) hk

/-- A plan that spreads questions over a time has the quotient, rounded up, for its interval. -/
theorem eq_ofWhole_of_spread {time polls : Int} {plan : WaitPlan}
    (planned : spread (.whole time) (.whole polls) = .ok plan) :
    0 < polls ∧ ∃ c, (Binary64.ofFraction (decide (time < 0) != decide (polls < 0)) time.natAbs
        polls.natAbs).ceiling = .ok c ∧
      plan = ofWhole (some time) (max 1 c) := by
  rw [spread, Quantity.divide] at planned
  split at planned
  · cases planned
  · next positive =>
    refine ⟨by simpa [Quantity.isAtMostZero] using positive, ?_⟩
    generalize Binary64.ofFraction _ _ _ = quotient at planned ⊢
    cases quotient with
    | infinite sign => cases planned
    | undefined => cases planned
    | finite sign m e =>
      cases planned
      exact ⟨_, rfl, rfl⟩

end WaitPlan

namespace Wait

variable {ω : Type} [Clocked ω] {ask : ω → Bool × ω} {interval : Nat} {length : Option Int} {w : ω}

/-- Asking takes no time, and a sleep takes as long as it is meant to. -/
structure Timeless (ask : ω → Bool × ω) : Prop where
  ask : ∀ w, Clocked.now (ask w).2 = Clocked.now w
  sleep : ∀ d (w : ω), Clocked.now (Clocked.sleep d w) = Clocked.now w + d

/-- The world in which a wait asks its question of some number, if it comes to it: the world that the
question before has left behind, after the sleep between their two instants. -/
def scene (ask : ω → Bool × ω) (interval : Nat) (length : Option Int) (w : ω) : Nat → ω
  | 0 => w
  | k + 1 =>
    Clocked.sleep
      (instant (Clocked.now w) interval length (k + 1) - instant (Clocked.now w) interval length k)
      (ask (scene ask interval length w k)).2

/-- **Questions are asked at their instants.** -/
theorem now_scene (timeless : Timeless ask) (interval : Nat) (length : Option Int) (w : ω) (k : Nat) :
    Clocked.now (scene ask interval length w k) = instant (Clocked.now w) interval length k := by
  induction k with
  | zero => rw [scene, instant_zero]
  | succ k ih =>
    have mono := instant_mono (Clocked.now w) interval length (Nat.le_add_right k 1)
    rw [scene, timeless.sleep, timeless.ask, ih]
    omega

/-- The answers to all questions before that of a number were no, and they were asked before the
deadline. -/
structure ComesTo (ask : ω → Bool × ω) (interval : Nat) (length : Option Int) (w : ω) (m : Nat) :
    Prop where
  no : ∀ k < m, (ask (scene ask interval length w k)).1 = false
  early : ∀ k < m, ∀ n, length = some n → ((k * interval : Nat) : Int) < n

theorem comesTo_zero : ComesTo ask interval length w 0 :=
  ⟨fun _ h => absurd h (Nat.not_lt_zero _), fun _ h => absurd h (Nat.not_lt_zero _)⟩

theorem ComesTo.earlier {k m : Nat} (h : ComesTo ask interval length w m) (le : k ≤ m) :
    ComesTo ask interval length w k :=
  ⟨fun j hj => h.no j (Nat.lt_of_lt_of_le hj le), fun j hj => h.early j (Nat.lt_of_lt_of_le hj le)⟩

theorem comesTo_succ {m : Nat} (h : ComesTo ask interval length w m)
    (no : (ask (scene ask interval length w m)).1 = false)
    (early : ∀ n, length = some n → ((m * interval : Nat) : Int) < n) :
    ComesTo ask interval length w (m + 1) where
  no k hk := by
    rcases Nat.lt_succ_iff_lt_or_eq.1 hk with hk | rfl
    · exact h.no k hk
    · exact no
  early k hk := by
    rcases Nat.lt_succ_iff_lt_or_eq.1 hk with hk | rfl
    · exact h.early k hk
    · exact early

/-- How a wait with a budget goes, with the number of its questions. -/
inductive Course (ask : ω → Bool × ω) (interval : Nat) (length : Option Int) (budget : Nat) (w : ω) :
    Nat → WaitResult × ω → Prop where
  | done {m : Nat} {u : ω} (comes : ComesTo ask interval length w m)
      (yes : ask (scene ask interval length w m) = (true, u)) :
      Course ask interval length budget w (m + 1) (.done, u)
  /-- The last question was asked at the deadline. -/
  | timedOut {m : Nat} {n : Int} {u : ω} (comes : ComesTo ask interval length w m)
      (limited : length = some n) (late : n ≤ ((m * interval : Nat) : Int))
      (no : ask (scene ask interval length w m) = (false, u)) :
      Course ask interval length budget w (m + 1) (.timedOut, u)
  | unfinished (comes : ComesTo ask interval length w budget) :
      Course ask interval length budget w budget (.unfinished, scene ask interval length w budget)

theorem untilDeadline_course (timeless : Timeless ask) (interval : Nat) (length : Option Int) (w : ω)
    (budget : Nat) :
    ∃ q, Course ask interval length budget w q
      (untilDeadline ask interval (length.map (Clocked.now w + ·)) budget w) := by
  -- the induction is on the questions that are left, from the scene of question `m` on
  suffices h : ∀ left m, m + left = budget → ComesTo ask interval length w m →
      ∃ q, Course ask interval length budget w q
        (untilDeadline ask interval (length.map (Clocked.now w + ·)) left
          (scene ask interval length w m)) from
    h budget 0 (Nat.zero_add _) comesTo_zero
  intro left
  induction left with
  | zero =>
    intro m all comes
    obtain rfl : m = budget := all
    exact ⟨m, .unfinished comes⟩
  | succ left ih =>
    intro m all comes
    have step : (m + 1) * interval = m * interval + interval := Nat.succ_mul m interval
    rw [untilDeadline]
    rcases answer : ask (scene ask interval length w m) with ⟨_ | _, u⟩
    · have no : (ask (scene ask interval length w m)).1 = false := by rw [answer]
      have now_u : Clocked.now u = instant (Clocked.now w) interval length m := by
        have kept := timeless.ask (scene ask interval length w m)
        rwa [answer, now_scene timeless] at kept
      -- a sleep until the next instant leads to the next scene
      have next {d : Nat} (hd : d = instant (Clocked.now w) interval length (m + 1)
          - instant (Clocked.now w) interval length m) :
          Clocked.sleep d u = scene ask interval length w (m + 1) := by
        rw [scene, answer, hd]
      cases length with
      | none =>
        dsimp only [Option.map_none]
        rw [next (by simp only [instant]; omega)]
        exact ih (m + 1) (by omega) (comesTo_succ comes no fun n hn => by cases hn)
      | some n =>
        dsimp only [Option.map_some]
        have now_u : Clocked.now u = Clocked.now w + min (m * interval) n.toNat := now_u
        split
        · next ended => exact ⟨m + 1, .timedOut comes rfl (by omega) answer⟩
        · next more =>
          rw [next (by simp only [instant]; omega)]
          refine ih (m + 1) (by omega) (comesTo_succ comes no fun k hk => ?_)
          obtain rfl : n = k := Option.some.inj hk
          omega
    · exact ⟨m + 1, .done comes answer⟩

/-! ### Remembered questions -/

theorem timeless_logged (timeless : Timeless ask) : Timeless (Logged.ask ask) where
  ask v := timeless.ask v.world
  sleep d v := timeless.sleep d v.world

/-- A wait that remembers when it was asked comes to the same worlds, at the instants of its schedule. -/
theorem scene_logged (timeless : Timeless ask) (interval : Nat) (length : Option Int) (w : ω) (k : Nat) :
    (scene (Logged.ask ask) interval length ⟨w, #[]⟩ k).world = scene ask interval length w k ∧
      (scene (Logged.ask ask) interval length ⟨w, #[]⟩ k).asked.toList
        = (List.range k).map (instant (Clocked.now w) interval length) := by
  induction k with
  | zero => exact ⟨rfl, rfl⟩
  | succ k ih =>
    obtain ⟨world, asked⟩ := ih
    constructor
    · rw [scene, scene, ← world]
      rfl
    · have pushed : (scene (Logged.ask ask) interval length ⟨w, #[]⟩ (k + 1)).asked
          = (scene (Logged.ask ask) interval length ⟨w, #[]⟩ k).asked.push
            (instant (Clocked.now w) interval length k) := by
        rw [← now_scene timeless, ← world]
        rfl
      rw [pushed, Array.toList_push, asked, List.range_succ, List.map_append]
      rfl

/-- What is remembered of a question, and the same question without memory. -/
theorem answer_logged (timeless : Timeless ask) {m : Nat} {b : Bool} {u : Logged ω}
    (h : Logged.ask ask (scene (Logged.ask ask) interval length ⟨w, #[]⟩ m) = (b, u)) :
    ask (scene ask interval length w m) = (b, u.world) ∧
      u.asked.toList = (List.range (m + 1)).map (instant (Clocked.now w) interval length) := by
  obtain ⟨world, -⟩ := scene_logged timeless interval length w m
  obtain ⟨-, asked⟩ := scene_logged timeless interval length w (m + 1)
  have after : u = (Logged.ask ask (scene (Logged.ask ask) interval length ⟨w, #[]⟩ m)).2 := by
    rw [h]
  have answer : (ask (scene ask interval length w m)).1 = b := by
    rw [← world]
    exact congrArg Prod.fst h
  refine ⟨?_, ?_⟩
  · rw [after, ← answer, ← world]
    rfl
  · rw [after]
    exact asked

/-- The instants of the questions are different from each other. -/
theorem ComesTo.instant_lt {m k : Nat} (h : ComesTo ask interval length w m) (positive : 0 < interval)
    (hk : k < m) (start : Nat) : instant start interval length k < instant start interval length (k + 1) := by
  have next : (k + 1) * interval = k * interval + interval := Nat.succ_mul k interval
  cases length with
  | none =>
    simp only [instant]
    omega
  | some n =>
    have early := h.early k hk n rfl
    simp only [instant]
    omega

/-- **A wait that remembers when it was asked goes as it does without memory**, and it remembers the first
instants of its schedule. -/
theorem Course.forget (timeless : Timeless ask) {budget q : Nat} {r : WaitResult × Logged ω}
    (h : Course (Logged.ask ask) interval length budget ⟨w, #[]⟩ q r) :
    Course ask interval length budget w q (Wait.forget r) ∧
      r.2.asked.toList = (List.range q).map (instant (Clocked.now w) interval length) := by
  have comes {m : Nat} (h : ComesTo (Logged.ask ask) interval length ⟨w, #[]⟩ m) :
      ComesTo ask interval length w m := by
    refine ⟨fun k hk => ?_, h.early⟩
    rw [← (scene_logged timeless interval length w k).1]
    exact h.no k hk
  cases h with
  | done comes_to yes =>
    obtain ⟨yes, asked⟩ := answer_logged timeless yes
    exact ⟨.done (comes comes_to) yes, asked⟩
  | timedOut comes_to limited late no =>
    obtain ⟨no, asked⟩ := answer_logged timeless no
    exact ⟨.timedOut (comes comes_to) limited late no, asked⟩
  | unfinished comes_to =>
    obtain ⟨world, asked⟩ := scene_logged timeless interval length w budget
    refine ⟨?_, asked⟩
    rw [Wait.forget, world]
    exact .unfinished (comes comes_to)

/-! ### Plans in whole milliseconds -/

/-- So many milliseconds on the clock, if there is a number. -/
def micros (duration : Option Int) : Option Int := duration.map fun n => (Quantity.whole n).microseconds

/-- The time between two questions on the clock. -/
def gap (s : Int) : Nat := (Quantity.whole s).microseconds.toNat

/-- **Times below `2 ^ 52` microseconds are the same on the clock.** -/
theorem clock_of_lt {duration : Option Int} {s : Int}
    (small : ∀ n ∈ s :: duration.toList, n.natAbs * 1000 < 2 ^ 52) :
    gap s = (s * 1000).toNat ∧ micros duration = duration.map (· * 1000) := by
  refine ⟨by rw [gap, Quantity.microseconds_eq (small s List.mem_cons_self)], ?_⟩
  cases duration with
  | none => rfl
  | some n =>
    exact congrArg some (Quantity.microseconds_eq (small n (List.mem_cons_of_mem _ List.mem_cons_self)))

theorem gap_pos {duration : Option Int} {s : Int} (positive : 0 < s)
    (countable : (WaitPlan.ofWhole duration s).Countable) : 0 < gap s := by
  obtain ⟨x, counted⟩ := countable (.whole s) List.mem_cons_self
  have later := Quantity.microseconds_pos positive (WaitPlan.seconds_of_inSeconds counted)
  rw [gap]
  omega

theorem deadline_of_countable {duration : Option Int} {s : Int}
    (countable : (WaitPlan.ofWhole duration s).Countable) (now : Nat) :
    (WaitPlan.ofWhole duration s).deadline now = .ok ((micros duration).map ((now : Int) + ·)) := by
  obtain ⟨x, hx⟩ := countable (.whole s) List.mem_cons_self
  cases duration with
  | none =>
    simp only [WaitPlan.deadline, WaitPlan.ofWhole, hx, Option.map_none]
    rfl
  | some n =>
    obtain ⟨y, hy⟩ := countable (.whole n) (List.mem_cons_of_mem _ List.mem_cons_self)
    simp only [WaitPlan.deadline, WaitPlan.ofWhole, hx, hy, Option.map_some]
    rfl

theorem deadline_of_not_countable {duration : Option Int} {s : Int}
    (uncountable : ¬ (WaitPlan.ofWhole duration s).Countable) (now : Nat) :
    ∃ e, (WaitPlan.ofWhole duration s).deadline now = .error e := by
  cases hs : WaitPlan.inSeconds (.whole s) with
  | error e =>
    refine ⟨e, ?_⟩
    simp only [WaitPlan.deadline, WaitPlan.ofWhole, hs]
    rfl
  | ok x =>
    cases duration with
    | none =>
      refine absurd (fun q hq => ?_) uncountable
      rw [List.mem_singleton.1 hq]
      exact ⟨x, hs⟩
    | some n =>
      cases hn : WaitPlan.inSeconds (.whole n) with
      | error e =>
        refine ⟨e, ?_⟩
        simp only [WaitPlan.deadline, WaitPlan.ofWhole, hs, hn, Option.map_some]
        rfl
      | ok y =>
        refine absurd (fun q hq => ?_) uncountable
        rcases List.mem_cons.1 hq with rfl | hq
        · exact ⟨x, hs⟩
        · rw [List.mem_singleton.1 hq]
          exact ⟨y, hn⟩

theorem run_course (timeless : Timeless ask) {duration : Option Int} {s : Int}
    (countable : (WaitPlan.ofWhole duration s).Countable) (patience : Nat) (w : ω) :
    ∃ q, Course ask (gap s) (micros duration)
      (questions (gap s) patience (micros duration)) w q
      (run (.ofWhole duration s) patience ask w) := by
  have length : ((micros duration).map ((Clocked.now w : Int) + ·)).map (· - (Clocked.now w : Int))
      = micros duration := by
    cases duration with
    | none => rfl
    | some n =>
      simp only [micros, Option.map_some, Option.some.injEq]
      omega
  have pause : (WaitPlan.ofWhole duration s).pause (micros duration) = .ok (gap s) := by
    cases duration <;> rfl
  rw [run, deadline_of_countable countable]
  dsimp only
  rw [length, pause]
  exact untilDeadline_course timeless _ _ _ _

/-- A wait whose time cannot be counted is refused before its first question. -/
theorem run_refused (ask : ω → Bool × ω) {duration : Option Int} {s : Int}
    (uncountable : ¬ (WaitPlan.ofWhole duration s).Countable) (patience : Nat) (w : ω) :
    ∃ e, run (.ofWhole duration s) patience ask w = (.refused e, w) := by
  obtain ⟨e, he⟩ := deadline_of_not_countable uncountable (Clocked.now w)
  exact ⟨e, by rw [run, he]⟩

/-- A wait with a deadline has questions enough to reach it. -/
theorem reach_of_questions {interval patience : Nat} (positive : 0 < interval) {n : Int}
    (h : ∀ k < questions interval patience (some n), ((k * interval : Nat) : Int) < n) : False := by
  have reach := Nat.lt_div_mul_add (a := n.toNat) positive
  have early := h (n.toNat / interval + 1) (by
    rw [questions, if_neg (Nat.ne_of_gt positive)]
    omega)
  rw [Nat.succ_mul] at early
  omega

/-- The last question of a wait with a positive interval, and the end that the wait comes to with it. -/
theorem Course.last_question {duration : Option Int} {s : Int} (advances : 0 < gap s) {patience : Nat}
    (patient : 0 < patience) {q : Nat} {r : WaitResult × ω}
    (h : Course ask (gap s) (micros duration)
      (questions (gap s) patience (micros duration)) w q r) :
    ∃ m, q = m + 1 ∧ ComesTo ask (gap s) (micros duration) w m ∧
      (r.1 = .done ∧ ask (scene ask (gap s) (micros duration) w m) = (true, r.2) ∨
        r.1 = .timedOut ∧ ask (scene ask (gap s) (micros duration) w m) = (false, r.2) ∧
          (∃ n, duration = some n ∧
            instant (Clocked.now w) (gap s) (micros duration) m
              = Clocked.now w + (Quantity.whole n).microseconds.toNat) ∨
        r.1 = .unfinished ∧ (ask (scene ask (gap s) (micros duration) w m)).1 = false ∧
          duration = none ∧ m + 1 = patience) := by
  cases h with
  | @done m u comes yes => exact ⟨m, rfl, comes, .inl ⟨rfl, yes⟩⟩
  | @timedOut m n u comes limited late no =>
    cases duration with
    | none => cases limited
    | some d =>
      obtain rfl : (Quantity.whole d).microseconds = n := Option.some.inj limited
      refine ⟨m, rfl, comes, .inr (.inl ⟨rfl, no, d, rfl, ?_⟩)⟩
      show Clocked.now w + min (m * (gap s)) (Quantity.whole d).microseconds.toNat = _
      omega
  | unfinished comes =>
    cases duration with
    | some d => exact (reach_of_questions advances fun k hk => comes.early k hk _ rfl).elim
    | none =>
      have all : patience - 1 + 1 = patience := Nat.succ_pred_eq_of_pos patient
      have comes : ComesTo ask (gap s) (micros none) w patience := comes
      exact ⟨patience - 1, all.symm, comes.earlier (Nat.sub_le patience 1),
        .inr (.inr ⟨rfl, comes.no _ (by omega), rfl, all⟩)⟩

/-- **Waits keep their schedule.**  Take a question that takes no time, a number of milliseconds or none
for the time of the wait, a positive number of milliseconds between two questions, and a world to start
in.  There is a plan for this wait, and if its numbers can be counted in seconds, then

* the wait asks at the first instants of its schedule, which are different from each other, and in the
  worlds that its sleeps from instant to instant lead to;
* the answer to each question but the last one is no;
* the wait is done at the instant of its last question when the answer is yes, and its time is over when
  the answer is no and the instant is the deadline; there is no other end, but that a wait without a
  deadline goes on as long as it is watched.

All numbers below a large bound can be counted in seconds, and if they are below `2 ^ 52` microseconds then
the schedule has just these times.  If one of them cannot be counted, then the wait is refused before its
first question. -/
theorem run_on_schedule (timeless : Timeless ask) (duration : Option Int) {s : Int} (positive : 0 < s)
    {patience : Nat} (patient : 0 < patience) (w : ω) :
    let plan := WaitPlan.ofWhole duration s
    let moment := instant (Clocked.now w) (gap s) (micros duration)
    let world := scene ask (gap s) (micros duration) w
    let r := run plan patience (Logged.ask ask) ⟨w, #[]⟩
    WaitPlan.every (duration.map .whole) (.whole s) = .ok plan ∧
    forget r = run plan patience ask w ∧
    (plan.Countable → ∃ m,
      r.2.asked.toList = (List.range (m + 1)).map moment ∧
      (∀ k < m, moment k < moment (k + 1)) ∧
      (∀ k ≤ m, Clocked.now (world k) = moment k) ∧
      (∀ k < m, (ask (world k)).1 = false) ∧
      (r.1 = .done ∧ ask (world m) = (true, r.2.world) ∧ Clocked.now r.2.world = moment m ∨
        r.1 = .timedOut ∧ ask (world m) = (false, r.2.world) ∧ Clocked.now r.2.world = moment m ∧
          (∃ n, duration = some n ∧ moment m = Clocked.now w + (Quantity.whole n).microseconds.toNat) ∨
        r.1 = .unfinished ∧ (ask (world m)).1 = false ∧ duration = none ∧ m + 1 = patience)) ∧
    ((∀ n ∈ s :: duration.toList, n.natAbs < 2 ^ 1032) → plan.Countable) ∧
    ((∀ n ∈ s :: duration.toList, n.natAbs * 1000 < 2 ^ 52) →
      gap s = (s * 1000).toNat ∧ micros duration = duration.map (· * 1000)) ∧
    (¬ plan.Countable → ∃ e, r = (.refused e, ⟨w, #[]⟩)) := by
  intro plan moment world r
  have planned : WaitPlan.every (duration.map .whole) (.whole s) = .ok plan := by
    have fits : (Quantity.whole s).isAtMostZero = false := decide_eq_false (by omega)
    rw [WaitPlan.every, fits]
    rfl
  refine ⟨planned, run_logged plan patience ask ⟨w, #[]⟩, fun countable => ?_,
    fun small => WaitPlan.countable_of_lt small (Nat.le_refl _), clock_of_lt,
    fun uncountable => run_refused _ uncountable patience _⟩
  obtain ⟨q, course⟩ := run_course (timeless_logged timeless) countable patience ⟨w, #[]⟩
  obtain ⟨course, asked⟩ := course.forget timeless
  change Course _ _ _ _ _ q (forget r) at course
  change r.2.asked.toList = (List.range q).map moment at asked
  have every_moment (k : Nat) : Clocked.now (world k) = moment k := now_scene timeless _ _ _ k
  have now_after {m : Nat} {b : Bool} {u : ω} (h : ask (world m) = (b, u)) :
      Clocked.now u = moment m := by
    have kept := timeless.ask (world m)
    rw [h] at kept
    exact kept.trans (every_moment m)
  obtain ⟨m, rfl, comes, ended⟩ := course.last_question (gap_pos positive countable) patient
  refine ⟨m, asked, fun k hk => comes.instant_lt (gap_pos positive countable) hk _, fun k _ => every_moment k, comes.no, ?_⟩
  rcases ended with ⟨done, yes⟩ | ⟨late, no, last⟩ | unfinished
  · exact .inl ⟨done, yes, now_after yes⟩
  · exact .inr (.inl ⟨late, no, now_after no, last⟩)
  · exact .inr (.inr unfinished)

/-- The answer turns to yes at the deadline of one second, which the interval does not divide: the last
sleep is cut short, and the wait is done. -/
theorem run_on_schedule_shortLastSleep :
    let ask : Nat → Bool × Nat := fun t => (decide (1000000 ≤ t), t)
    let moment := instant (Clocked.now 0) (gap 300) (micros (some 1000))
    let r := run (.ofWhole (some 1000) 300) 1 (Logged.ask ask) ⟨0, #[]⟩
    Timeless ask ∧ (0 : Int) < 300 ∧ 0 < 1 ∧ (WaitPlan.ofWhole (some 1000) 300).Countable ∧
      r.1 = .done ∧ r.2.asked.toList = [0, 300000, 600000, 900000, 1000000] ∧
      ∃ m, r.2.asked.toList = (List.range (m + 1)).map moment ∧ Clocked.now r.2.world = moment m := by
  intro ask
  have timeless : Timeless ask := ⟨fun _ => rfl, fun _ _ => rfl⟩
  obtain ⟨-, -, schedule, small, -, -⟩ :=
    run_on_schedule timeless (some 1000) (show (0 : Int) < 300 by decide) (show 0 < 1 by decide) 0
  have countable := small (by decide +kernel)
  obtain ⟨m, asked, -, -, -, ⟨done, -, now⟩ | ⟨late, -⟩ | ⟨more, -⟩⟩ := schedule countable
  · exact ⟨timeless, by decide, by decide, countable, done, by decide +kernel, m, asked, now⟩
  · exact absurd late (by decide +kernel)
  · exact absurd more (by decide +kernel)

/-- The milliseconds of a wait are too many to be counted in seconds, so nothing is asked, though the answer
would be yes at once. -/
theorem not_asked_of_hugeDuration :
    let ask : Nat → Bool × Nat := fun t => (true, t)
    let r := run (.ofWhole (some (10 ^ 400)) 1) 1 (Logged.ask ask) ⟨0, #[]⟩
    r.1 = .refused (.number .quotientTooLarge) ∧ r.2.asked = #[] := by
  decide +kernel

end Wait

end Sweep
