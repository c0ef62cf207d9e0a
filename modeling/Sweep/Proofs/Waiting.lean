import Sweep.Proofs.Cancellation
import Sweep.Proofs.Felling
import Sweep.Proofs.Punctuality

/-!
# Waiting for all children

A wait for all tracked children polls them at the instants of its schedule.  It is over at the first of them
at which all have exited.  If its time is over before, then the children that are left are killed one after
the other.

* `Child.Answers`, `Child.Pending.seen_eq` — as long as the system does not refuse to tell, a look at a child
  finds whether it has exited;
* `Undisturbed`, `AllPending` — what is asked of the time and of the children of a wait;
* `Watched`, `Watched.polled` — what polling makes of a crew, and how one poll goes on from there;
* `moment`, `poised`, `polled_poised` — so the poll at an instant of the schedule sees who has exited by
  then;
* `planOf_int` — the plan of a wait whose time and polls are whole numbers;
* `WaitedOut` — what has become of the children and of the time when the wait is over;
* `waitedOut_of_allExited`, `waitedOut_of_late` — this is so whether or not all have exited in time;
* `waitedOut_of_done`, `waitedOut_of_timedOut` — and so at either end of the schedule;
* `waitAll_concludes` — what every wait comes to.
-/

namespace Sweep

namespace Child

variable {c : Child} {t t' : Nat}

/-- A child that was seen to have exited. -/
def exited (c : Child) : Child := c.settle (.ofExit c.script.code)

/-- The system does not refuse to tell about the child until after an instant. -/
def Answers (c : Child) (t : Nat) : Prop := ∀ fault ∈ c.script.pollFault, t - c.started < fault.1

theorem Answers.earlier (h : c.Answers t') (le : t ≤ t') : c.Answers t := by
  intro fault hfault
  have late := h fault hfault
  omega

theorem hasExited_mono (h : t ≤ t') (exited : c.hasExited t = true) : c.hasExited t' = true := by
  rw [hasExited] at exited ⊢
  cases exit : c.script.exit with
  | none =>
    rw [exit] at exited
    cases exited
  | some n =>
    rw [exit] at exited
    have early : n ≤ t - c.started := of_decide_eq_true exited
    exact decide_eq_true (by omega)

/-- What is found about a child that nobody has killed is whether it has exited. -/
theorem Pending.poll_eq (h : c.Pending) (answers : c.Answers t) :
    c.poll t = .ok (if c.hasExited t then some c.script.code else none) := by
  rw [poll]
  split
  · next e refused =>
    split at refused
    · next start e fault =>
      rw [if_neg (Nat.not_le_of_lt (answers _ fault))] at refused
      cases refused
    · cases refused
  · rw [h.killed, if_neg Bool.false_ne_true, hasExited]
    split <;> rfl

theorem Pending.seen_eq (h : c.Pending) (answers : c.Answers t) :
    c.seen t = if c.hasExited t then c.exited else c := by
  rw [seen, h.poll_eq answers]
  cases c.hasExited t <;> rfl

theorem Pending.isFinal_seen (h : c.Pending) (answers : c.Answers t) :
    (c.seen t).status.isFinal = c.hasExited t := by
  rw [h.seen_eq answers]
  cases c.hasExited t with
  | true => exact c.isFinal_settle (isFinal_ofExit _)
  | false => exact (congrArg Status.isFinal h.status : _)

theorem Pending.status_exited (h : c.Pending) : c.exited.status = .ofExit c.script.code := by
  rw [exited, World.settle_of_running (by rw [h.status]; nofun)]

/-- How a child ends that is killed: it has its exit state if it has exited by then. -/
theorem Pending.status_felled (h : c.Pending) (answers : c.Answers t) :
    (c.felled t).status = if c.hasExited t then .ofExit c.script.code else c.sentence := by
  rw [felled, h.isFinal_seen answers, h.seen_eq answers]
  cases c.hasExited t with
  | true => exact h.status_exited
  | false => exact status_struck h.status

end Child

namespace World

variable {w : World} {t t' i : Nat} {c : Child}

/-- The child of that number has exited by an instant. -/
def exitedBy (w : World) (t i : Nat) : Bool := w.children[i]?.any (·.hasExited t)

theorem exitedBy_eq (hc : w.children[i]? = some c) (t : Nat) : w.exitedBy t i = c.hasExited t := by
  rw [exitedBy, hc, Option.any_some]

theorem exitedBy_mono (h : t ≤ t') (exited : w.exitedBy t i = true) : w.exitedBy t' i = true := by
  rw [exitedBy] at exited ⊢
  cases hc : w.children[i]? with
  | none =>
    rw [hc] at exited
    cases exited
  | some c =>
    rw [hc, Option.any_some] at exited
    exact Child.hasExited_mono h exited

theorem isCancelledAt_earlier (h : t ≤ t') (down : w.isCancelledAt t' 0 = false) :
    w.isCancelledAt t 0 = false := by
  cases up : w.isCancelledAt t 0 with
  | false => rfl
  | true =>
    rw [← down]
    exact (isCancelledAt_of_isCancelled (w := { w with now := t }) up h 0).symm

end World

namespace Supervision

open World

variable {v u : Supervision} {t t' : Nat}

/-! ### Polling all children -/

/-- The children of a list are looked at one after the other. -/
theorem sweepChildren_seen {is : List Nat} (distinct : is.Nodup) (w : World) :
    (sweepChildren is w).1 = is.filter (fun i => !(w.check i).1) ∧
      (∀ j, (sweepChildren is w).2.children[j]?
        = if j ∈ is then w.children[j]?.map (Child.seen w.now) else w.children[j]?) ∧
      (sweepChildren is w).2.kills = w.kills := by
  induction is generalizing w with
  | nil => exact ⟨rfl, fun _ => rfl, rfl⟩
  | cons i rest ih =>
    obtain ⟨fresh, distinct⟩ := List.nodup_cons.1 distinct
    have children := w.getElem?_check i
    have now := (w.quiet_check i).no_time
    have other {j : Nat} (hj : j ∈ rest) : i ≠ j := fun same => fresh (same ▸ hj)
    have answers : rest.filter (fun j => !((w.check i).2.check j).1)
        = rest.filter fun j => !(w.check j).1 :=
      List.filter_congr fun j hj => by
        rw [check_congr ((children j).trans (if_neg (other hj))) now]
    have step : sweepChildren (i :: rest) w
        = (if (w.check i).1 then (sweepChildren rest (w.check i).2).1
            else i :: (sweepChildren rest (w.check i).2).1, (sweepChildren rest (w.check i).2).2) := by
      rw [sweepChildren]
      split
      · next heq => rw [heq]; rfl
      · next heq => rw [heq]; rfl
    obtain ⟨left, after, kills⟩ := ih distinct (w.check i).2
    rw [step]
    refine ⟨?_, fun j => ?_, kills.trans (w.kills_check i)⟩
    · dsimp only
      rw [left, answers, List.filter_cons]
      cases (w.check i).1 <;> rfl
    · dsimp only
      rw [after, now, children]
      by_cases same : i = j
      · subst same
        rw [if_neg fresh, if_pos rfl, if_pos List.mem_cons_self]
      · rw [if_neg same]
        simp only [List.mem_cons, Ne.symm same, false_or]

theorem timeless_poll (threshold : Nat) : Wait.Timeless (poll threshold) where
  ask v := by
    show (poll threshold v).2.world.now = v.world.now
    rw [poll]
    split
    · rfl
    · exact (sweepChildren_spec v.crew.tracked v.world).1.no_time
  sleep _ _ := rfl

/-- The tracked children are different from each other, and run as far as anybody knows. -/
structure AllPending (v : Supervision) : Prop where
  distinct : v.crew.tracked.Nodup
  pending : ∀ i ∈ v.crew.tracked, ∃ c, v.world.children[i]? = some c ∧ c.Pending

theorem AllPending.of_found (h : v.AllPending) {i : Nat} (hi : i ∈ v.crew.tracked) {c : Child}
    (hc : v.world.children[i]? = some c) : c.Pending := by
  obtain ⟨d, hd, pending⟩ := h.pending i hi
  obtain rfl := Option.some.inj (hc.symm.trans hd)
  exact pending

/-- Until after an instant, the flag does not go up, and the system does not refuse to tell about the
tracked children. -/
structure Undisturbed (v : Supervision) (t : Nat) : Prop where
  down : v.world.isCancelledAt t 0 = false
  answers : ∀ i ∈ v.crew.tracked, ∀ c, v.world.children[i]? = some c → c.Answers t

theorem Undisturbed.earlier (h : v.Undisturbed t') (le : t ≤ t') : v.Undisturbed t where
  down := isCancelledAt_earlier le h.down
  answers i hi c hc := (h.answers i hi c hc).earlier le

/-- What polling has made of a crew: some children were seen to have exited, and are not tracked any more,
and the others are as before. -/
structure Watched (v : Supervision) (seen : Nat → Bool) (u : Supervision) : Prop where
  onward : v.world.Onward u.world
  kills : u.world.kills = v.world.kills
  tracked : u.crew.tracked = v.crew.tracked.filter fun i => !seen i
  running : ∀ i ∈ v.crew.tracked, seen i = false → u.world.children[i]? = v.world.children[i]?
  gone : ∀ i ∈ v.crew.tracked, seen i = true → v.world.exitedBy u.world.now i = true ∧
    u.world.children[i]? = v.world.children[i]?.map Child.exited

theorem watched_refl (v : Supervision) : Watched v (fun _ => false) v where
  onward := .refl v.world
  kills := rfl
  tracked := (List.filter_eq_self.2 fun _ _ => rfl).symm
  running _ _ _ := rfl
  gone _ _ h := by cases h

namespace Watched

variable {seen : Nat → Bool} {i : Nat}

theorem sleep (h : Watched v seen u) (d : Nat) : Watched v seen (Clocked.sleep d u) where
  onward := h.onward.trans (u.world.onward_sleep d)
  kills := h.kills
  tracked := h.tracked
  running := h.running
  gone i hi hs := ⟨exitedBy_mono (Nat.le_add_right _ d) (h.gone i hi hs).1, (h.gone i hi hs).2⟩

theorem mem_tracked (h : Watched v seen u) (i : Nat) :
    i ∈ u.crew.tracked ↔ i ∈ v.crew.tracked ∧ seen i = false := by
  rw [h.tracked, List.mem_filter, Bool.not_eq_true']

/-- A child that was not seen to have exited is as it was. -/
theorem exists_pending (pending : v.AllPending) (h : Watched v seen u) (calm : v.Undisturbed t)
    (hi : i ∈ v.crew.tracked) (alive : seen i = false) :
    ∃ c, v.world.children[i]? = some c ∧ u.world.children[i]? = some c ∧ c.Pending ∧ c.Answers t := by
  obtain ⟨c, hc, pending⟩ := pending.pending i hi
  exact ⟨c, hc, (h.running i hi alive).trans hc, pending, calm.answers i hi c hc⟩

/-- Those are left that have not exited. -/
theorem left_eq (pending : v.AllPending) (h : Watched v seen u) (calm : v.Undisturbed u.world.now) :
    u.crew.tracked.filter (fun i => !(u.world.check i).1)
      = v.crew.tracked.filter fun i => !v.world.exitedBy u.world.now i := by
  rw [h.tracked, List.filter_filter]
  refine List.filter_congr fun i hi => ?_
  cases hs : seen i with
  | true => rw [(h.gone i hi hs).1, Bool.not_true, Bool.and_false]
  | false =>
    obtain ⟨c, hc, found, pending, answers⟩ := h.exists_pending pending calm hi hs
    rw [check_answer found, pending.isFinal_seen answers, exitedBy_eq hc, Bool.not_false, Bool.and_true]

/-- A look at the children that are left finds what has become of all of them. -/
theorem look_eq (pending : v.AllPending) (h : Watched v seen u) (calm : v.Undisturbed u.world.now)
    (hi : i ∈ v.crew.tracked) :
    (if i ∈ u.crew.tracked then u.world.children[i]?.map (Child.seen u.world.now)
      else u.world.children[i]?)
      = if v.world.exitedBy u.world.now i then v.world.children[i]?.map Child.exited
        else v.world.children[i]? := by
  cases hs : seen i with
  | true =>
    have gone : i ∉ u.crew.tracked := by
      rw [h.mem_tracked, hs]
      exact fun h => Bool.noConfusion h.2
    rw [if_neg gone, if_pos (h.gone i hi hs).1, (h.gone i hi hs).2]
  | false =>
    obtain ⟨c, hc, found, pending, answers⟩ := h.exists_pending pending calm hi hs
    rw [if_pos ((h.mem_tracked i).2 ⟨hi, hs⟩), found, hc, exitedBy_eq hc, Option.map_some,
      pending.seen_eq answers]
    split <;> rfl

/-- **A poll sees who has exited.** -/
theorem polled (pending : v.AllPending) (h : Watched v seen u) (calm : v.Undisturbed u.world.now) :
    Watched v (v.world.exitedBy u.world.now) (poll 1 u).2 ∧
      (poll 1 u).1 = v.crew.tracked.all (v.world.exitedBy u.world.now) := by
  have down : u.world.isCancelled = false := (isCancelled_of_onward h.onward).trans calm.down
  have quiet := (sweepChildren_spec u.crew.tracked u.world).1
  have distinct : u.crew.tracked.Nodup := by
    rw [h.tracked]
    exact pending.distinct.filter _
  obtain ⟨left, after, kills⟩ := sweepChildren_seen distinct u.world
  rw [h.left_eq pending calm] at left
  have swept {i : Nat} (hi : i ∈ v.crew.tracked) := (after i).trans (h.look_eq pending calm hi)
  have eq : poll 1 u = (decide ((sweepChildren u.crew.tracked u.world).1.length < 1),
      { crew := { u.crew with tracked := (sweepChildren u.crew.tracked u.world).1 }
        world := (sweepChildren u.crew.tracked u.world).2 }) := by
    rw [poll, if_neg (by rw [down]; exact Bool.false_ne_true)]
  rw [eq]
  constructor
  · exact {
      onward := h.onward.trans quiet.toOnward
      kills := kills.trans h.kills
      tracked := left
      running := fun i hi alive => (swept hi).trans (if_neg (by rw [alive]; exact Bool.false_ne_true))
      gone := fun i hi exited => ⟨quiet.no_time ▸ exited, (swept hi).trans (if_pos exited)⟩ }
  · dsimp only
    rw [left, Bool.eq_iff_iff, decide_eq_true_eq, Nat.lt_one_iff, List.length_eq_zero_iff,
      List.filter_eq_nil_iff, List.all_eq_true]
    simp only [Bool.not_eq_true', Bool.not_eq_false]

end Watched

/-! ### The schedule -/

/-- All tracked children have exited by an instant. -/
def AllExited (v : Supervision) (t : Nat) : Prop := ∀ i ∈ v.crew.tracked, v.world.exitedBy t i = true

theorem AllExited.later (h : v.AllExited t) (le : t ≤ t') : v.AllExited t' :=
  fun i hi => exitedBy_mono le (h i hi)

/-- When a wait of so many milliseconds is over that begins now. -/
def deadline (v : Supervision) (n : Int) : Nat := v.world.now + (Quantity.whole n).microseconds.toNat

/-- When a wait that begins now polls: after every interval, and at the deadline. -/
def moment (v : Supervision) (timeout : Option Int) (interval k : Nat) : Nat :=
  Wait.instant v.world.now (Wait.gap interval) (Wait.micros timeout) k

/-- The crew before the poll of a number. -/
def poised (v : Supervision) (timeout : Option Int) (interval k : Nat) : Supervision :=
  Wait.scene (poll 1) (Wait.gap interval) (Wait.micros timeout) v k

section Schedule

variable (v) (timeout : Option Int) (interval : Nat)

theorem moment_mono {k m : Nat} (h : k ≤ m) : v.moment timeout interval k ≤ v.moment timeout interval m :=
  Wait.instant_mono _ _ _ h

theorem now_poised (k : Nat) : (v.poised timeout interval k).world.now = v.moment timeout interval k :=
  Wait.now_scene (timeless_poll 1) _ _ v k

theorem now_polled (k : Nat) :
    (poll 1 (v.poised timeout interval k)).2.world.now = v.moment timeout interval k :=
  ((timeless_poll 1).ask _).trans (v.now_poised timeout interval k)

end Schedule

/-- **Times below `2 ^ 52` microseconds are the same on the clock**, and so is the schedule. -/
theorem schedule_of_lt {timeout : Option Int} {interval : Nat} (v : Supervision)
    (small : ∀ n ∈ (interval : Int) :: timeout.toList, n.natAbs * 1000 < 2 ^ 52) :
    (∀ n ∈ timeout, v.deadline n = v.world.now + (n * 1000).toNat) ∧
      ∀ k, v.moment timeout interval k
        = Wait.instant v.world.now (interval * 1000) (timeout.map (· * 1000)) k := by
  obtain ⟨gap_eq, micros_eq⟩ := Wait.clock_of_lt small
  refine ⟨fun n hn => ?_, fun k => ?_⟩
  · have short := small n (List.mem_cons_of_mem _ (Option.mem_toList.2 hn))
    rw [deadline, Quantity.microseconds_eq short]
  · rw [moment, gap_eq, micros_eq, show ((interval : Int) * 1000).toNat = interval * 1000 by omega]

section Polls

variable {timeout : Option Int} {interval k : Nat}

/-- Until a poll, the polls before it have made something of the crew. -/
theorem watched_poised (pending : v.AllPending) (calm : v.Undisturbed (v.moment timeout interval k)) :
    ∃ seen, Watched v seen (v.poised timeout interval k) := by
  induction k with
  | zero => exact ⟨_, watched_refl v⟩
  | succ k ih =>
    have calm := calm.earlier (v.moment_mono timeout interval (Nat.le_add_right k 1))
    obtain ⟨seen, watched⟩ := ih calm
    exact ⟨_, (watched.polled pending (by rwa [now_poised])).1.sleep _⟩

/-- **A poll at an instant of the schedule sees who has exited by then.** -/
theorem polled_poised (pending : v.AllPending) (calm : v.Undisturbed (v.moment timeout interval k)) :
    Watched v (v.world.exitedBy (v.moment timeout interval k)) (poll 1 (v.poised timeout interval k)).2 ∧
      ((poll 1 (v.poised timeout interval k)).1 = true ↔ v.AllExited (v.moment timeout interval k)) := by
  obtain ⟨seen, watched⟩ := watched_poised pending calm
  have polled := watched.polled pending (by rwa [now_poised])
  rw [now_poised] at polled
  exact ⟨polled.1, by rw [polled.2, List.all_eq_true, AllExited]⟩

end Polls

/-! ### The plan -/

/-- The time of a wait, if it has one, is short enough to be counted exactly. -/
def Brief (timeout : Option Int) : Prop := ∀ n ∈ timeout, (n.natAbs + 1) * 1000 < 2 ^ 52

/-- A wait has a plan in whole milliseconds, unless its polls cannot be spread over its time.  The interval of
a brief wait is as brief. -/
theorem planOf_int (timeout polls : Option Int) :
    (∃ interval : Nat, 0 < interval ∧
      planOf (timeout.map .int) (polls.map .int) = .ok (.ofWhole timeout interval) ∧
      (Brief timeout → interval * 1000 < 2 ^ 52)) ∨
    plansFirst (timeout.map .int) (polls.map .int) = true ∧
      ∃ e, planOf (timeout.map .int) (polls.map .int) = .error (.plan e) := by
  cases timeout with
  | none => exact .inl ⟨100, by decide, rfl, fun _ => by decide⟩
  | some time =>
    cases polls with
    | none => exact .inl ⟨100, by decide, rfl, fun _ => by decide⟩
    | some count =>
      have planned : planOf (some (.int time)) (some (.int count))
          = (WaitPlan.spread (.whole time) (.whole count)).mapError .plan := rfl
      rw [Option.map_some, Option.map_some, planned]
      cases spread : WaitPlan.spread (.whole time) (.whole count) with
      | error e => exact .inr ⟨rfl, e, rfl⟩
      | ok plan =>
        obtain ⟨positive, c, ceiling, rfl⟩ := WaitPlan.eq_ofWhole_of_spread spread
        refine .inl ⟨(max 1 c).toNat, by omega, ?_, fun brief => ?_⟩
        · rw [show ((max 1 c).toNat : Int) = max 1 c by omega]
          rfl
        · have short := brief time rfl
          have share := Binary64.ceiling_le (show count.natAbs ≠ 0 by omega) (by omega) ceiling
          have moderate : (max 1 c).toNat ≤ time.natAbs + 1 := by omega
          exact (Nat.mul_le_mul_right 1000 moderate).trans_lt short

/-! ### The end of the wait -/

/-- The children that have not exited by the deadline, if there is one. -/
def late (v : Supervision) : (timeout : Option Int) → List Nat
  | none => []
  | some n => v.crew.tracked.filter fun i => !v.world.exitedBy (v.deadline n) i

/-- What a wait for all children has come to, in a time of so many milliseconds if there is a limit, and
with so many milliseconds between two polls.  Some children were struck, each at an instant. -/
structure WaitedOut (v : Supervision) (timeout : Option Int) (interval : Nat)
    (struck : List (Nat × Nat)) (u : Supervision) : Prop where
  untracked : u.crew.tracked = []
  /-- Nobody is killed but children that are late, and each of them at most once. -/
  kills : u.world.kills = v.world.kills ++ struck.map fun k => (k.1, v.world.pidOf k.2)
  once : (struck.map Prod.snd).Sublist (v.late timeout)
  /-- Who has exited in time has its exit state. -/
  inTime : ∀ i ∈ v.crew.tracked, i ∉ v.late timeout → ∀ c, v.world.children[i]? = some c →
    i ∉ struck.map Prod.snd ∧
      ∃ d, u.world.children[i]? = some d ∧ d.status = .ofExit c.script.code
  /-- Who is late is killed at its turn, unless it has exited by then, while other children were given time
  to go away. -/
  afterwards : ∀ n, timeout = some n → ∀ i ∈ v.late timeout, ∀ c, v.world.children[i]? = some c →
    let turn := turn (v.deadline n) (v.late timeout) u.world i
    ∃ d, u.world.children[i]? = some d ∧
      if c.hasExited turn then d.status = .ofExit c.script.code ∧ i ∉ struck.map Prod.snd
      else d.status = c.sentence ∧ (turn, i) ∈ struck
  /-- The wait is over at the first poll at which all have exited; otherwise it takes its time, and the time
  that children were given to go away. -/
  now : (∃ k, v.AllExited (v.moment timeout interval k) ∧
      (∀ j < k, ¬ v.AllExited (v.moment timeout interval j)) ∧
      u.world.now = v.moment timeout interval k) ∨
    ∃ n, timeout = some n ∧
      (∀ k, ¬ v.AllExited (v.moment timeout interval k)) ∧
      u.world.now = v.deadline n + killGrace * (v.late timeout).countP u.world.lingers

theorem mem_late {n : Int} {i : Nat} : i ∈ v.late (some n) ↔
    i ∈ v.crew.tracked ∧ v.world.exitedBy (v.deadline n) i = false := by
  rw [late, List.mem_filter, Bool.not_eq_true']

theorem late_eq_nil {timeout : Option Int} {interval k : Nat}
    (all : v.AllExited (v.moment timeout interval k)) : v.late timeout = [] := by
  cases timeout with
  | none => rfl
  | some n =>
    refine List.eq_nil_iff_forall_not_mem.2 fun i hi => ?_
    obtain ⟨hi, alive⟩ := mem_late.1 hi
    have gone : v.world.exitedBy (v.deadline n) i = true :=
      exitedBy_mono (Wait.instant_le_deadline _ _ _ k) (all i hi)
    rw [gone] at alive
    cases alive

/-- Who was seen to have exited has its exit state. -/
theorem Watched.exit_state {seen : Nat → Bool} (pending : v.AllPending) (h : Watched v seen u) {i : Nat}
    (hi : i ∈ v.crew.tracked) (exited : seen i = true) {c : Child}
    (hc : v.world.children[i]? = some c) :
    ∃ d, u.world.children[i]? = some d ∧ d.status = .ofExit c.script.code :=
  ⟨c.exited, by rw [(h.gone i hi exited).2, hc, Option.map_some], (pending.of_found hi hc).status_exited⟩

/-- All have exited when they are polled. -/
theorem waitedOut_of_allExited {timeout : Option Int} {interval k : Nat} (pending : v.AllPending)
    (watched : Watched v (v.world.exitedBy (v.moment timeout interval k)) u)
    (all : v.AllExited (v.moment timeout interval k))
    (first : ∀ j < k, ¬ v.AllExited (v.moment timeout interval j))
    (now : u.world.now = v.moment timeout interval k) :
    WaitedOut v timeout interval [] u where
  untracked := by
    refine List.eq_nil_iff_forall_not_mem.2 fun i hi => ?_
    obtain ⟨hi, alive⟩ := (watched.mem_tracked i).1 hi
    rw [all i hi] at alive
    cases alive
  kills := watched.kills.trans (List.append_nil _).symm
  once := List.nil_sublist _
  inTime i hi _ c hc := ⟨List.not_mem_nil, watched.exit_state pending hi (all i hi) hc⟩
  afterwards n hn i hi := by
    rw [late_eq_nil all] at hi
    cases hi
  now := .inl ⟨k, all, first, now⟩

/-- How a child ends that is killed at its turn. -/
theorem state_of_felled {w w' : World} {is : List Nat} {struck : List (Nat × Nat)} {i : Nat} {c : Child}
    (felled : Felled w is struck w') (hi : i ∈ is) (hc : w.children[i]? = some c) (pending : c.Pending)
    (answers : c.Answers w'.now) :
    ∃ d, w'.children[i]? = some d ∧
      if c.hasExited (turn w.now is w' i) then d.status = .ofExit c.script.code ∧ i ∉ struck.map Prod.snd
      else d.status = c.sentence ∧ (turn w.now is w' i, i) ∈ struck := by
  have answers := answers.earlier (felled.turn_le i)
  obtain ⟨found, fate⟩ := felled.child i hi c hc
  refine ⟨_, found, ?_⟩
  rw [pending.status_felled answers]
  rw [pending.isFinal_seen answers] at fate
  split at fate
  · next exited =>
    rw [if_pos exited, if_pos exited]
    exact ⟨rfl, fate⟩
  · next alive =>
    rw [if_neg alive, if_neg alive]
    exact ⟨rfl, fate⟩

/-- Some have not exited at the deadline, and are killed one after the other. -/
theorem waitedOut_of_late {n : Int} {interval : Nat} {w : World} (pending : v.AllPending)
    (watched : Watched v (v.world.exitedBy (v.deadline n)) u) (some_late : ¬ v.AllExited (v.deadline n))
    (start : w.now = v.deadline n) (children : w.children = u.world.children)
    (kills : w.kills = u.world.kills)
    (calm : v.Undisturbed (killTracked { u with world := w }).world.now) :
    ∃ struck, WaitedOut v (some n) interval struck (killTracked { u with world := w }) := by
  have left (i : Nat) (hi : i ∈ v.late (some n)) : w.children[i]? = v.world.children[i]? := by
    rw [children, watched.running i (mem_late.1 hi).1 (mem_late.1 hi).2]
  obtain ⟨struck, felled⟩ := felled_killAll (show (v.late (some n)).Nodup from pending.distinct.filter _) w
    fun i hi => by
      obtain ⟨c, hc, status, -⟩ := pending.pending i (mem_late.1 hi).1
      exact ⟨c, (left i hi).trans hc, status⟩
  have world : (killTracked { u with world := w }).world
      = (v.late (some n)).foldl (fun w i => w.kill i) w := by
    rw [killTracked, show u.crew.tracked = v.late (some n) from watched.tracked]
  rw [← world] at felled
  refine ⟨struck, rfl, ?_, felled.once, fun i hi timely c hc => ⟨fun h => timely (felled.once.subset h), ?_⟩,
    fun m hm i hi c hc => ?_, .inr ⟨n, rfl, fun k all => ?_, ?_⟩⟩
  · rw [felled.kills, map_pidOf_congr felled.once left, kills, watched.kills]
  · have exited : v.world.exitedBy (v.deadline n) i = true := by
      rw [mem_late, not_and, Bool.not_eq_false] at timely
      exact timely hi
    rw [felled.others i timely, children]
    exact watched.exit_state pending hi exited hc
  · obtain rfl := Option.some.inj hm
    have hv := (mem_late.1 hi).1
    have state := state_of_felled felled hi ((left i hi).trans hc) (pending.of_found hv hc)
      (calm.answers i hv c hc)
    rwa [start] at state
  · exact some_late (all.later (Wait.instant_le_deadline _ _ _ k))
  · rw [felled.now, start]

/-! ### The course of the wait -/

section Course

variable {timeout : Option Int} {interval m : Nat}

/-- The polls before found that not all have exited. -/
theorem not_allExited (pending : v.AllPending) (calm : v.Undisturbed (v.moment timeout interval m))
    (comes : Wait.ComesTo (poll 1) (Wait.gap interval) (Wait.micros timeout) v m) {k : Nat} (hk : k < m) :
    ¬ v.AllExited (v.moment timeout interval k) := by
  intro all
  have calm := calm.earlier (v.moment_mono timeout interval (Nat.le_of_lt hk))
  have told := (polled_poised pending calm).2.2 all
  rw [poised, comes.no k hk] at told
  cases told

/-- The last poll found that all have exited. -/
theorem waitedOut_of_done (pending : v.AllPending) (calm : v.Undisturbed (v.moment timeout interval m))
    (comes : Wait.ComesTo (poll 1) (Wait.gap interval) (Wait.micros timeout) v m)
    (yes : poll 1 (v.poised timeout interval m) = (true, u)) :
    u.world.isCancelled = false ∧ WaitedOut v timeout interval [] u := by
  have now := v.now_polled timeout interval m
  obtain ⟨watched, told⟩ := polled_poised pending calm
  rw [yes] at now watched told
  refine ⟨?_, waitedOut_of_allExited pending watched (told.1 rfl)
    (fun k hk => not_allExited pending calm comes hk) now⟩
  rw [isCancelled_of_onward watched.onward, show u.world.now = _ from now]
  exact calm.down

/-- The last poll was at the deadline, and found that not all have exited. -/
theorem waitedOut_of_timedOut {n : Int} (pending : v.AllPending)
    (reached : (Quantity.whole n).microseconds ≤ ((m * Wait.gap interval : Nat) : Int))
    (no : poll 1 (v.poised (some n) interval m) = (false, u)) {level : Level} {source message : String}
    {labels : List (String × Document)}
    (calm : v.Undisturbed
      (killTracked { u with world := u.world.record level source message labels }).world.now) :
    ∃ struck, WaitedOut v (some n) interval struck
      (killTracked { u with world := u.world.record level source message labels }) := by
  have last : v.moment (some n) interval m = v.deadline n := by
    show v.world.now + min (m * Wait.gap interval) (Quantity.whole n).microseconds.toNat
      = v.world.now + (Quantity.whole n).microseconds.toNat
    omega
  have now := v.now_polled (some n) interval m
  rw [no] at now
  have start : (u.world.record level source message labels).now = v.deadline n :=
    (now_record ..).trans (now.trans last)
  have calm_then : v.Undisturbed (v.moment (some n) interval m) := by
    refine calm.earlier ?_
    rw [last, ← start]
    exact (routine_onward.killAll u.crew.tracked _).now
  obtain ⟨watched, told⟩ := polled_poised pending calm_then
  rw [no, last] at watched told
  exact waitedOut_of_late pending watched (fun all => Bool.false_ne_true (told.2 all)) start
    (children_record ..) (kills_record ..) calm

end Course

/-- **How a wait goes that has a plan**, and what it has come to when it is over. -/
theorem waitFor_concludes (pending : v.AllPending) {timeout : Option Int} {interval : Nat}
    (positive : 0 < interval) (countable : (WaitPlan.ofWhole timeout interval).Countable)
    (patience : Nat) {r : Except Crash Unit × Supervision}
    (wait_eq : v.waitFor (timeout.map .int) (.ofWhole timeout interval) 1 patience = r)
    (calm : v.Undisturbed r.2.world.now) :
    (r.1 = .ok () ∧ ∃ struck, WaitedOut v timeout interval struck r.2) ∨
      (r.1 = .error .endless ∧ timeout = none ∧
        ∀ k < patience, ¬ v.AllExited (v.moment none interval k)) := by
  obtain ⟨q, course⟩ := Wait.run_course (timeless_poll 1) countable patience v
  generalize run_eq : Wait.run (.ofWhole timeout interval) patience (poll 1) v = f at course
  rw [waitFor, run_eq] at wait_eq
  cases course with
  | @done m u comes yes =>
    have now := v.now_polled timeout interval m
    rw [poised, yes] at now
    -- a wait that is done may stop its children, which leads further on
    have calm_then : v.Undisturbed (v.moment timeout interval m) := by
      refine calm.earlier ?_
      rw [← now, ← wait_eq]
      dsimp only
      split
      · exact (routine_onward.stopAll u).now
      · exact Nat.le_refl _
    obtain ⟨down, waited⟩ := waitedOut_of_done pending calm_then comes yes
    dsimp only at wait_eq
    rw [if_neg (by rw [down]; exact Bool.false_ne_true)] at wait_eq
    subst wait_eq
    exact .inl ⟨rfl, [], waited⟩
  | timedOut comes limited late no =>
    cases timeout with
    | none => cases limited
    | some d =>
      obtain rfl := Option.some.inj limited
      dsimp only at wait_eq
      subst wait_eq
      exact .inl ⟨rfl, waitedOut_of_timedOut pending late no calm⟩
  | unfinished comes =>
    dsimp only at wait_eq
    subst wait_eq
    cases timeout with
    | some d => exact (Wait.reach_of_questions (Wait.gap_pos (by omega) countable) fun k hk => comes.early k hk _ rfl).elim
    | none =>
      have now : (v.poised none interval patience).world.now = v.moment none interval patience :=
        v.now_poised none interval patience
      exact .inr ⟨rfl, rfl, fun k hk => not_allExited pending (now ▸ calm) comes hk⟩

/-- Nobody is waited for. -/
theorem waitedOut_of_nil (empty : v.crew.tracked = []) (timeout : Option Int) (interval : Nat) :
    WaitedOut v timeout interval [] v where
  untracked := empty
  kills := (List.append_nil _).symm
  once := List.nil_sublist _
  inTime i hi := by
    rw [empty] at hi
    cases hi
  afterwards n hn i hi := by
    rw [hn, late, empty] at hi
    cases hi
  now := by
    have all (t : Nat) : v.AllExited t := by
      intro i hi
      rw [empty] at hi
      cases hi
    exact .inl ⟨0, all _, fun j hj => absurd hj (Nat.not_lt_zero j), (Wait.instant_zero _ _ _).symm⟩

/-- Four tracked children: one exits in time, one never exits and does not go away when it is killed, one
exits later, and one never exits and cannot be killed. -/
def fourChildren : Supervision :=
  let child (pid : Nat) (script : Script) : Child :=
    { order := { command := "a" }, pid, script, started := 0, line := { label := "a" } }
  { crew := { tracked := [0, 1, 2, 3] }
    world :=
      { children := #[child 1001 { exit := some 150000 }, child 1002 { exit := none, stubborn := true },
          child 1003 { exit := some 900000, code := 3 },
          child 1004 { exit := none, killFault := some ⟨1, "x"⟩ }] } }

end Supervision

end Sweep
