import Sweep.Proofs.Asking
import Sweep.Wait.Schedule

/-!
# Waits that notice something

A wait sees what goes on around it only when it asks.  If from some instants on its question is answered
with yes, then it is over with the first question at such an instant.

* `run_logged` — a wait that remembers when it was asked is the same wait;
* `Notices` — at some instants the question is answered with yes;
* `run_told` — such an instant is the last one at which the wait asks;
* `run_ne_unfinished` — the wait comes to an end, once there are such instants only;
* `Prompt`, `prompt_of_notices` — all of this about one wait.
-/

namespace Sweep

namespace WaitPlan

theorem seconds_of_inSeconds {q : Quantity} {x : Binary64} (h : inSeconds q = .ok x) :
    q.seconds = .ok x := by
  rw [inSeconds] at h
  cases counted : q.seconds with
  | error e =>
    rw [counted] at h
    cases h
  | ok y =>
    rw [counted] at h
    cases h
    rfl

/-- The interval of a wait that has begun is a number of seconds. -/
theorem exists_seconds_of_deadline {p : WaitPlan} {now : Nat} {deadline : Option Int}
    (known : p.deadline now = .ok deadline) : ∃ x, p.interval.seconds = .ok x := by
  cases counted : inSeconds p.interval with
  | error e =>
    rw [WaitPlan.deadline, counted] at known
    cases known
  | ok x => exact ⟨x, seconds_of_inSeconds counted⟩

end WaitPlan

namespace Wait

variable {ω : Type} [Clocked ω] {ask : ω → Bool × ω} {P : ω → Prop} {up : Nat → Bool}

/-! ### Remembering -/

/-- A wait with its log left out. -/
def forget (r : WaitResult × Logged ω) : WaitResult × ω := (r.1, r.2.world)

theorem untilDeadline_logged (ask : ω → Bool × ω) (interval : Nat) (deadline : Option Int)
    (budget : Nat) (v : Logged ω) :
    forget (untilDeadline (Logged.ask ask) interval deadline budget v)
      = untilDeadline ask interval deadline budget v.world := by
  induction budget generalizing v with
  | zero => rfl
  | succ budget ih =>
    rw [untilDeadline, untilDeadline, Logged.ask]
    rcases ask v.world with ⟨_ | _, w⟩
    · cases deadline with
      | none => exact ih _
      | some d =>
        dsimp only [Clocked.now]
        split
        · rfl
        · exact ih _
    · rfl

theorem once_logged (ask : ω → Bool × ω) (deadline : Option Int) (e : NumberError) (v : Logged ω) :
    forget (once (Logged.ask ask) deadline e v) = once ask deadline e v.world := by
  rw [once, once, Logged.ask]
  rcases ask v.world with ⟨_ | _, w⟩
  · dsimp only [Clocked.now]
    split
    · rfl
    · rfl
  · rfl

/-- **Remembering changes nothing.** -/
theorem run_logged (plan : WaitPlan) (patience : Nat) (ask : ω → Bool × ω) (v : Logged ω) :
    forget (run plan patience (Logged.ask ask) v) = run plan patience ask v.world := by
  rw [run, run]
  dsimp only [Clocked.now]
  split
  · rfl
  · split
    · exact once_logged _ _ _ _
    · exact untilDeadline_logged _ _ _ _ _

/-! ### Questions that are answered with yes -/

/-- At some instants, a question in a world with the property is answered with yes. -/
structure Notices (ask : ω → Bool × ω) (P : ω → Prop) (up : Nat → Bool) : Prop where
  keeps : Keeps ask P
  yes : ∀ w, P w → up (Clocked.now w) = true → (ask w).1 = true

/-- Only the last instant may be one of them, and then the wait is done. -/
def Told (up : Nat → Bool) (r : WaitResult) (instants : List Nat) : Prop :=
  ∀ k t, instants[k]? = some t → up t = true → k + 1 = instants.length ∧ r = .done

theorem told_nil (up : Nat → Bool) (r : WaitResult) : Told up r [] := nofun

theorem told_done (up : Nat → Bool) (t : Nat) : Told up .done [t] := by
  intro k u hu _
  cases k with
  | zero => exact ⟨rfl, rfl⟩
  | succ k => cases hu

theorem Told.cons {r : WaitResult} {instants : List Nat} (h : Told up r instants) {t : Nat}
    (down : up t = false) : Told up r (t :: instants) := by
  intro k u hu yes
  cases k with
  | zero =>
    obtain rfl : t = u := Option.some.inj hu
    rw [down] at yes
    cases yes
  | succ k =>
    obtain ⟨last, done⟩ := h k u hu yes
    exact ⟨by rw [List.length_cons, last], done⟩

/-- A no says that the instant is none of them. -/
theorem Notices.down (n : Notices ask P up) {w w' : ω} (h : P w) (no : ask w = (false, w')) :
    up (Clocked.now w) = false := by
  cases hup : up (Clocked.now w) with
  | false => rfl
  | true =>
    have yes := n.yes w h hup
    rw [no] at yes
    cases yes

/-- The instants that are added to a log. -/
def Adds (v : Logged ω) (instants : List Nat) (r : WaitResult × Logged ω) : Prop :=
  r.2.asked.toList = v.asked.toList ++ instants

omit [Clocked ω] in
theorem Adds.cons {v v' : Logged ω} {instants : List Nat} {r : WaitResult × Logged ω}
    (h : Adds v' instants r) {t : Nat} (asked : v'.asked = v.asked.push t) :
    Adds v (t :: instants) r := by
  rw [Adds, h, asked, Array.toList_push, List.append_assoc]
  rfl

theorem untilDeadline_told (n : Notices ask P up) (interval : Nat) (deadline : Option Int)
    (budget : Nat) {v : Logged ω} (h : P v.world) :
    ∃ instants, Adds v instants (untilDeadline (Logged.ask ask) interval deadline budget v) ∧
      Told up (untilDeadline (Logged.ask ask) interval deadline budget v).1 instants := by
  induction budget generalizing v with
  | zero => exact ⟨[], (List.append_nil _).symm, told_nil _ _⟩
  | succ budget ih =>
    have kept := n.keeps.ask v.world h
    rw [untilDeadline, Logged.ask]
    rcases answer : ask v.world with ⟨_ | _, w⟩
    · have down := n.down h answer
      rw [answer] at kept
      -- the wait sleeps for a while and goes on
      have later (d : Nat) := ih (v := Clocked.sleep d ⟨w, v.asked.push (Clocked.now v.world)⟩)
        (n.keeps.sleep d w kept)
      cases deadline with
      | none =>
        obtain ⟨instants, adds, told⟩ := later interval
        exact ⟨_, adds.cons rfl, told.cons down⟩
      | some d =>
        dsimp only
        split
        · exact ⟨[Clocked.now v.world], Array.toList_push, (told_nil _ _).cons down⟩
        · obtain ⟨instants, adds, told⟩ := later _
          exact ⟨_, adds.cons rfl, told.cons down⟩
    · exact ⟨[Clocked.now v.world], Array.toList_push, told_done _ _⟩

theorem once_told (n : Notices ask P up) (deadline : Option Int) (e : NumberError) {v : Logged ω}
    (h : P v.world) :
    ∃ instants, Adds v instants (once (Logged.ask ask) deadline e v) ∧
      Told up (once (Logged.ask ask) deadline e v).1 instants := by
  refine ⟨[Clocked.now v.world], ?_⟩
  rw [once, Logged.ask]
  rcases answer : ask v.world with ⟨_ | _, w⟩
  · have down := n.down h answer
    dsimp only
    split
    · exact ⟨Array.toList_push, (told_nil _ _).cons down⟩
    · exact ⟨Array.toList_push, (told_nil _ _).cons down⟩
  · exact ⟨Array.toList_push, told_done _ _⟩

/-- **The first such instant at which a wait asks is its last one.** -/
theorem run_told (n : Notices ask P up) (plan : WaitPlan) (patience : Nat) {v : Logged ω}
    (h : P v.world) :
    ∃ instants, Adds v instants (run plan patience (Logged.ask ask) v) ∧
      Told up (run plan patience (Logged.ask ask) v).1 instants := by
  rw [run]
  split
  · exact ⟨[], (List.append_nil _).symm, told_nil _ _⟩
  · dsimp only
    split
    · exact once_told n _ _ h
    · exact untilDeadline_told n _ _ _ h

/-! ### Waits that come to an end -/

/-- Asking does not turn back the clock, and sleeping moves it. -/
structure Steady (ask : ω → Bool × ω) : Prop where
  onward : ∀ w, Clocked.now w ≤ Clocked.now (ask w).2
  tick : ∀ d (w : ω), Clocked.now (Clocked.sleep d w) = Clocked.now w + d

/-- A wait without a deadline is over when the answer has turned to yes for good. -/
theorem untilDeadline_none_ne_unfinished (n : Notices ask P up) (steady : Steady ask)
    {interval : Nat} (positive : 0 < interval) {moment : Nat} (yes : ∀ t, moment ≤ t → up t = true)
    {budget : Nat} {w : ω} (h : P w) (enough : moment - Clocked.now w < budget) :
    (untilDeadline ask interval none budget w).1 ≠ .unfinished := by
  induction budget generalizing w with
  | zero => omega
  | succ budget ih =>
    have kept := n.keeps.ask w h
    have onward := steady.onward w
    rw [untilDeadline]
    rcases answer : ask w with ⟨_ | _, w'⟩
    · have early : Clocked.now w < moment := by
        refine Nat.lt_of_not_le fun late => ?_
        have down := n.down h answer
        rw [yes _ late] at down
        cases down
      rw [answer] at kept onward
      refine ih (n.keeps.sleep _ _ kept) ?_
      rw [steady.tick]
      dsimp only at onward
      omega
    · exact fun h => by cases h

/-- A wait is over at its deadline, as soon as that is no further away than its questions reach. -/
theorem untilDeadline_some_ne_unfinished (steady : Steady ask) (interval : Nat) {deadline : Int}
    {more : Nat} {w : ω} (reach : deadline ≤ (Clocked.now w + more * interval : Nat)) :
    (untilDeadline ask interval (some deadline) (more + 1) w).1 ≠ .unfinished := by
  induction more generalizing w with
  | zero =>
    have onward := steady.onward w
    rw [untilDeadline]
    rcases answer : ask w with ⟨_ | _, w'⟩
    · rw [answer] at onward
      dsimp only at onward ⊢
      rw [if_pos (by omega)]
      exact fun h => by cases h
    · exact fun h => by cases h
  | succ more ih =>
    have onward := steady.onward w
    rw [untilDeadline]
    rcases answer : ask w with ⟨_ | _, w'⟩
    · rw [answer] at onward
      dsimp only at onward ⊢
      split
      · exact fun h => by cases h
      · refine ih ?_
        rw [Nat.succ_mul] at reach
        rw [steady.tick]
        omega
    · exact fun h => by cases h

theorem once_ne_unfinished (ask : ω → Bool × ω) (deadline : Option Int) (e : NumberError) (w : ω) :
    (once ask deadline e w).1 ≠ .unfinished := by
  rw [once]
  split
  · exact fun h => by cases h
  · split
    · exact fun h => by cases h
    · exact fun h => by cases h

/-- The time between two questions of a plan is not zero, if it is a number of seconds. -/
def Advances (plan : WaitPlan) : Prop :=
  ∀ x, plan.interval.seconds = .ok x → ∀ length n, plan.pause length = .ok n → 0 < n

/-- **A wait comes to an end** when it has a deadline, or patience enough until the answer has turned
to yes for good. -/
theorem run_ne_unfinished (n : Notices ask P up) (steady : Steady ask) {plan : WaitPlan}
    (advances : Advances plan) {moment : Nat} (yes : ∀ t, moment ≤ t → up t = true) {patience : Nat}
    {w : ω} (h : P w) (enough : moment - Clocked.now w < patience) :
    (run plan patience ask w).1 ≠ .unfinished := by
  rw [run]
  split
  · exact fun h => by cases h
  · next deadline known =>
    obtain ⟨x, counted⟩ := WaitPlan.exists_seconds_of_deadline known
    dsimp only
    split
    · exact once_ne_unfinished _ _ _ _
    · next interval pause_eq =>
      have positive := advances x counted _ _ pause_eq
      cases deadline with
      | none => exact untilDeadline_none_ne_unfinished n steady positive yes h enough
      | some d =>
        have count : questions interval patience ((some d).map (· - (Clocked.now w : Int)))
            = (d - Clocked.now w).toNat / interval + 1 + 1 := by
          rw [Option.map_some, questions, if_neg (Nat.ne_of_gt positive)]
        rw [count]
        refine untilDeadline_some_ne_unfinished steady interval ?_
        have reach := Nat.lt_div_mul_add (a := (d - Clocked.now w).toNat) positive
        rw [Nat.succ_mul]
        omega

/-! ### Prompt waits -/

/-- A wait that notices in time when the answer has turned to yes.  The instants at which it asks are
those in the log of the same wait that remembers them. -/
structure Prompt (plan : WaitPlan) (patience : Nat) (ask : ω → Bool × ω) (up : Nat → Bool) (w : ω) :
    Prop where
  same : forget (run plan patience (Logged.ask ask) ⟨w, #[]⟩) = run plan patience ask w
  last : Told up (run plan patience ask w).1
    (run plan patience (Logged.ask ask) ⟨w, #[]⟩).2.asked.toList
  ends : ∀ moment, (∀ t, moment ≤ t → up t = true) → moment - Clocked.now w < patience →
    (run plan patience ask w).1 ≠ .unfinished

theorem prompt_of_notices (n : Notices ask P up) (steady : Steady ask) {plan : WaitPlan}
    (advances : Advances plan) (patience : Nat) {w : ω} (h : P w) : Prompt plan patience ask up w where
  same := run_logged plan patience ask ⟨w, #[]⟩
  last := by
    have same := run_logged plan patience ask ⟨w, #[]⟩
    obtain ⟨instants, adds, told⟩ := run_told n plan patience (v := ⟨w, #[]⟩) h
    rw [show (run plan patience ask w).1 = _ from (congrArg Prod.fst same).symm]
    rwa [show _ = instants from adds]
  ends _ yes enough := run_ne_unfinished n steady advances yes h enough

end Wait

end Sweep
