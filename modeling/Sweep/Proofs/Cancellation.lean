import Sweep.Proofs.Fates
import Sweep.Proofs.Polling
import Sweep.Proofs.Seconds
import Sweep.Proofs.Tracking

/-!
# The flag goes up

The flag may go up at any instant: at a time of the clock, with the attempts to start a child, or
because somebody raises it between two instructions.  Raising it in the middle of an instruction, where
nothing moves but the clock, is going up at a time of the clock.  From then on no child is started, a
wait is over with the next question that it asks, and a run that returns leaves no child running.

* `World.isCancelledAt` — whether the flag is up at an instant, after so many more attempts;
* `World.Timely` — the attempts between two worlds were all made while the flag was down;
* `leads_timely` — so are those of a run, which looks at the flag before every instruction, and in a
  start command again after the wait for room;
* `prompt_poll`, `prompt_checkOrKill` — both kinds of waits notice the flag when they ask;
* `Reached` — the moments of a run at which the flag may be raised;
* `flag_is_heeded` — what is true of the rest of the run from each of these moments on.
-/

namespace Sweep

namespace World

variable {w w' w'' : World} {made more : List (Nat × Order)}

/-- The flag is up at an instant, when so many more attempts to start a child were made. -/
def isCancelledAt (w : World) (t more : Nat) : Bool :=
  { w with now := t, attempts := w.attempts + more }.isCancelled

theorem isCancelledAt_now (w : World) : w.isCancelledAt w.now 0 = w.isCancelled := rfl

theorem isCancelledAt_of_later (later : w.Later w') {n : Nat}
    (attempts : w'.attempts = w.attempts + n) (t k : Nat) :
    w'.isCancelledAt t k = w.isCancelledAt t (n + k) := by
  simp only [isCancelledAt, isCancelled, later.raised, later.cancelAt, later.cancelAtAttempt,
    attempts, Nat.add_assoc]

/-- A flag that is up stays up. -/
theorem isCancelledAt_of_isCancelled (up : w.isCancelled = true) {t : Nat} (late : w.now ≤ t)
    (k : Nat) : w.isCancelledAt t k = true :=
  Later.isCancelled ⟨late, Nat.le_add_right _ _, rfl, rfl, rfl, fun _ c h => ⟨c, h, .refl c⟩⟩ up

/-- Between two worlds attempts to start a child were made, and the flag was down at each of them. -/
structure Timely (w : World) (made : List (Nat × Order)) (w' : World) : Prop extends Later w w' where
  starts : w'.starts = w.starts ++ made
  counted : w'.attempts = w.attempts + made.length
  punctual : ∀ k t o, made[k]? = some (t, o) → w.now ≤ t ∧ w.isCancelledAt t k = false

namespace Timely

theorem of_onward (h : w.Onward w' ∧ w'.starts = w.starts) : Timely w [] w' where
  toLater := h.1.toLater
  starts := h.2.trans (List.append_nil _).symm
  counted := h.1.no_attempt
  punctual _ _ _ := nofun

/-- One attempt is made with the flag down. -/
theorem single {o : Order} (later : w.Later w') (starts : w'.starts = w.starts ++ [(w.now, o)])
    (counted : w'.attempts = w.attempts + 1) (down : w.isCancelled = false) :
    Timely w [(w.now, o)] w' where
  toLater := later
  starts := starts
  counted := counted
  punctual k t o h := by
    cases k with
    | zero =>
      obtain ⟨rfl, -⟩ := Prod.mk.inj (Option.some.inj h)
      exact ⟨Nat.le_refl _, w.isCancelledAt_now.trans down⟩
    | succ k => cases h

theorem trans (first : Timely w made w') (second : Timely w' more w'') :
    Timely w (made ++ more) w'' where
  toLater := first.toLater.trans second.toLater
  starts := by rw [second.starts, first.starts, List.append_assoc]
  counted := by rw [second.counted, first.counted, List.length_append, Nat.add_assoc]
  punctual k t o h := by
    rw [List.getElem?_append] at h
    split at h
    · exact first.punctual k t o h
    · next beyond =>
      obtain ⟨late, down⟩ := second.punctual _ t o h
      rw [isCancelledAt_of_later first.toLater first.counted, Nat.add_sub_cancel' (by omega)] at down
      exact ⟨Nat.le_trans first.now late, down⟩

/-- After the flag has gone up there are no attempts. -/
theorem eq_nil (h : Timely w made w') (up : w.isCancelled = true) : made = [] := by
  cases made with
  | nil => rfl
  | cons first rest =>
    obtain ⟨late, down⟩ := h.punctual 0 first.1 first.2 rfl
    rw [isCancelledAt_of_isCancelled up late] at down
    cases down

end Timely

/-- Time goes by without any attempt. -/
theorem routine_idle : Routine fun w w' => w.Onward w' ∧ w'.starts = w.starts :=
  routine_onward.and routine_starts

end World

namespace Supervision

open Machine

variable {v v' : Supervision}

/-! ### Attempts -/

theorem timely_startChild (o : Order) (down : v.world.isCancelled = false) :
    v.world.Timely [(v.world.now, o)] (startChild o v).world := by
  have attempted := startChild_attempted o v
  have starts := World.starts_of_launched id (World.routine_starts.startChild o v)
  exact .single attempted.later starts attempted.one_attempt down

/-- A command that begins with the flag down makes its attempts with the flag down. -/
theorem timely_execute (patience : Nat) (c : Command) (s : Scopes)
    (down : v.world.isCancelled = false) :
    ∃ made, v.world.Timely made (execute patience c s v).2.world := by
  have idle := World.routine_idle
  cases c with
  | limit n => exact ⟨[], .of_onward (idle.refl v.world)⟩
  | sleep ms =>
    rw [execute_sleep]
    exact ⟨[], .of_onward (idle.pause ms v.world)⟩
  | wait timeout polls =>
    rw [execute_wait]
    exact ⟨[], .of_onward (idle.waitAll timeout polls 0 patience v)⟩
  | spawn l =>
    have runs := spawn_runs idle l s patience v
    change ∃ made, v.world.Timely made (spawn l s patience v).2.world
    generalize spawn l s patience v = r at runs ⊢
    cases runs with
    | crashed after | calledOff up after | unevaluated cause after => exact ⟨[], .of_onward after⟩
    | @attempted o u eval_eq before still =>
      exact ⟨_, (World.Timely.of_onward before).trans (timely_startChild o (still down))⟩

/-- **Every attempt is made with the flag down.** -/
theorem leads_timely (names : NameTable) (patience : Nat) :
    (executor names patience).LeadsUnder (fun v => v.world.isCancelled)
      fun v v' => ∃ made, v.world.Timely made v'.world where
  refl v := ⟨[], .of_onward (World.routine_idle.refl v.world)⟩
  trans := by
    rintro v v' v'' ⟨made, first⟩ ⟨more, second⟩
    exact ⟨made ++ more, first.trans second⟩
  execute c s v down := timely_execute patience c s down
  visit x position value s v _ :=
    ⟨[], .of_onward (World.routine_idle.visit names x position value s v)⟩
  finish _ v := ⟨[], .of_onward (World.routine_idle.finish patience v)⟩
  stop position v := ⟨[], .of_onward (World.routine_idle.stop names patience position v)⟩

/-! ### Waits -/

/-- Where nobody tries to start a child, the clock alone decides whether the flag is up. -/
theorem isCancelled_of_onward {w w' : World} (h : w.Onward w') :
    w'.isCancelled = w.isCancelledAt w'.now 0 :=
  World.isCancelledAt_of_later (n := 0) h.toLater h.no_attempt w'.now 0

/-- A wait for several children notices the flag. -/
theorem notices_poll (threshold : Nat) (v : Supervision) :
    Wait.Notices (poll threshold) (fun u => v.world.Onward u.world)
      (fun t => v.world.isCancelledAt t 0) where
  keeps := World.routine_onward.keeps_poll threshold v
  yes u onward up := by
    rw [poll, if_pos ((isCancelled_of_onward onward).trans up)]

/-- A wait for one child notices the flag. -/
theorem notices_checkOrKill (i : Nat) (w : World) :
    Wait.Notices (World.checkOrKill i) w.Onward (fun t => w.isCancelledAt t 0) where
  keeps := w.keeps_checkOrKill i
  yes u onward up := by
    rw [World.checkOrKill, if_pos ((isCancelled_of_onward onward).trans up)]

theorem steady_poll (threshold : Nat) : Wait.Steady (poll threshold) where
  onward v := (subsides_poll threshold v).world.now
  tick _ _ := rfl

theorem steady_checkOrKill (i : Nat) : Wait.Steady (World.checkOrKill i) where
  onward w := (w.onward_checkOrKill i).now
  tick _ _ := rfl

/-- A positive number of milliseconds between two questions lets time go by. -/
theorem advances_of_whole {duration : Option Quantity} {n : Int} (positive : 0 < n) :
    Wait.Advances ⟨duration, .whole n⟩ := by
  intro x counted length k h
  have later := Quantity.microseconds_pos positive counted
  have hk : (Quantity.whole n).microseconds.toNat = k := by
    cases length with
    | none | some => exact Except.ok.inj h
  omega

theorem advances_lasting (duration : Option Quantity) : Wait.Advances (.lasting duration) :=
  advances_of_whole (by decide)

theorem advances_spread {duration polls : Quantity} {plan : WaitPlan}
    (h : WaitPlan.spread duration polls = .ok plan) : Wait.Advances plan := by
  rw [WaitPlan.spread] at h
  split at h
  · cases h
  · split at h
    · obtain rfl := Except.ok.inj h
      exact advances_of_whole (by omega)
    · cases h

/-- Time goes by between two questions of every wait command. -/
theorem advances_of_planOf {timeout polls : Option Document} {plan : WaitPlan}
    (planned : planOf timeout polls = .ok plan) : Wait.Advances plan := by
  cases timeout with
  | none =>
    obtain rfl := Except.ok.inj planned
    exact advances_lasting _
  | some t =>
    cases polls with
    | none =>
      simp only [planOf] at planned
      split at planned
      · cases planned
      · obtain rfl := Except.ok.inj planned
        exact advances_lasting _
    | some n =>
      simp only [planOf] at planned
      split at planned
      · next time count _ _ =>
        cases spread : WaitPlan.spread time count with
        | error e =>
          rw [spread] at planned
          cases planned
        | ok p =>
          rw [spread] at planned
          obtain rfl := Except.ok.inj planned
          exact advances_spread spread
      · cases planned

/-- **A wait for several children ends with its first question after the flag has gone up.** -/
theorem prompt_poll {timeout polls : Option Document} {plan : WaitPlan}
    (planned : planOf timeout polls = .ok plan) (threshold patience : Nat) (v : Supervision) :
    Wait.Prompt plan patience (poll threshold) (fun t => v.world.isCancelledAt t 0) v :=
  Wait.prompt_of_notices (notices_poll threshold v) (steady_poll threshold)
    (advances_of_planOf planned) patience (.refl v.world)

/-- **So does a wait for one child.** -/
theorem prompt_checkOrKill (i patience : Nat) (w : World) :
    Wait.Prompt (.lasting none) patience (World.checkOrKill i) (fun t => w.isCancelledAt t 0) w :=
  Wait.prompt_of_notices (notices_checkOrKill i w) (steady_checkOrKill i)
    (advances_lasting none) patience (.refl w)

/-! ### Children of a run -/

/-- The children that are registered in the meantime are new. -/
theorem Moves.fresh (m : v.Moves v') :
    v.world.children.size ≤ v'.world.children.size ∧
      ∀ i ∈ v'.crew.spawned, i ∈ v.crew.spawned ∨ v.world.children.size ≤ i := by
  induction m with
  | refl => exact ⟨Nat.le_refl _, fun _ => .inl⟩
  | tail _ last ih =>
    obtain ⟨size, fresh⟩ := ih
    cases last with
    | subsides after =>
      refine ⟨after.world.no_child ▸ size, fun i hi => fresh i ?_⟩
      rwa [after.spawned] at hi
    | limited | raised => exact ⟨size, fresh⟩
    | renewed => exact ⟨size, nofun⟩
    | attempted after =>
      cases after with
      | refused world => exact ⟨Nat.le_trans size world.size_le, fresh⟩
      | stray cause world => exact ⟨Nat.le_trans size world.size_le, fresh⟩
      | registered world =>
        refine ⟨Nat.le_trans size world.size_le, fun i hi => ?_⟩
        rcases List.mem_append.1 hi with hi | hi
        · exact fresh i hi
        · rw [List.mem_singleton.1 hi, world.number]
          exact .inr size

/-- The crew is in order, and of each of its children it is known how it came to its end. -/
structure Sound (v : Supervision) : Prop where
  inOrder : v.InOrder
  fated : ∀ i ∈ v.crew.spawned, v.world.FatedAt i

theorem Sound.later (h : v.Sound) (moves : v.Moves v')
    (fates : ∀ i, v.world.FatedAt i → v'.world.FatedAt i) : v'.Sound where
  inOrder := h.inOrder.moves moves
  fated i hi := fates i ((moves.fresh.2 i hi).elim (h.fated i) World.fatedAt_of_size_le)

/-- A child that is over came to its end by the last look at it. -/
theorem Sound.concluded (h : v.Sound) {i : Nat} (hi : i ∈ v.crew.spawned) (gone : v.world.IsOver i) :
    ∃ c t, v.world.children[i]? = some c ∧ c.status.isFinal = true ∧ t ≤ v.world.now ∧
      c.Concluded v.world.events t := by
  obtain ⟨c, hc, final⟩ := gone
  rcases h.fated i hi c hc with pending | ⟨t, early, concluded⟩
  · rw [pending.status] at final
    cases final
  · exact ⟨c, t, hc, final, early, concluded⟩

/-- The moments that a run of a new crew comes to, between two instructions.  At each of them the flag
may be raised. -/
inductive Reached (names : NameTable) (patience : Nat) (p : Program Command) :
    Config Supervision → Prop where
  | start (s : Scopes) {v : Supervision} (tracked : v.crew.tracked = [])
      (spawned : v.crew.spawned = []) : Reached names patience p ⟨0, s, v⟩
  | step {c d : Config Supervision} (before : Reached names patience p c)
      (down : c.world.world.isCancelled = false) (next : Step (executor names patience) p c d) :
      Reached names patience p d
  | raised {c : Config Supervision} (before : Reached names patience p c) :
      Reached names patience p
        { c with world := { c.world with world := c.world.world.raise } }

variable {names : NameTable} {patience : Nat} {p : Program Command}

theorem Reached.sound {c : Config Supervision} (h : Reached names patience p c) : c.world.Sound := by
  induction h with
  | start s tracked spawned =>
    refine ⟨inOrder_of_nil tracked spawned, fun i hi => ?_⟩
    rw [spawned] at hi
    cases hi
  | step _ _ next ih =>
    exact ih.later (leads_of_trail (leads_executor names patience) (.single next))
      (leads_of_trail (World.leads_fates names patience) (.single next))
  | raised _ ih => exact ih.later (.single (.raised _)) fun _ => id

/-- **A run that returns has given up all its children.** -/
theorem tracked_eq_nil_of_returns {flag : Nat → Supervision → Bool} {budget taken : Nat} {pc : Int}
    {s s' : Scopes} {o : Outcome}
    (run_eq : runFrom (executor names patience) flag p budget taken pc s v = (o, s', v'))
    (returns : o = .finished ∨ o = .stopped) : v'.crew.tracked = [] := by
  obtain ⟨cs, d, -, ends⟩ :=
    exists_trail_of_runFrom (executor names patience) flag p budget taken ⟨pc, s, v⟩
  rw [run_eq] at ends
  cases ends with
  | finished out finish_eq =>
    obtain ⟨ok, rest⟩ := Prod.mk.inj finish_eq
    obtain ⟨-, rfl⟩ := Prod.mk.inj rest
    exact tracked_eq_nil_of_finish (Prod.ext ok rfl)
  | stopped up => rfl
  | @failed line f hat hstep => cases f <;> rcases returns with h | h <;> cases h
  | unfinished | astray | exhausted => rcases returns with h | h <;> cases h

/-- **The flag is heeded**, whenever it goes up.  Take any moment that a run of a new crew comes to, on
any scopes and in any world, and the rest of the run from there on, whatever its budget.

* All attempts to start a child in the rest of the run are made while the flag is down, and there are
  none if it is up already.
* Every wait on children ends with its first question after the flag has gone up: among the instants
  at which it asks, one with the flag up can only be the last, and then the wait is done; and there is
  such an instant if its patience lasts until then.
* If the run returns, no child is tracked, and every registered child is over and has its state from
  the last look at it, at some instant so far.  If it had exited by then, it has its exit state, or
  else the system refused to tell; it was killed only if it was still running. -/
theorem flag_is_heeded (names : NameTable) (patience : Nat) {p : Program Command}
    {c : Config Supervision} (reached : Reached names patience p c) (budget taken : Nat)
    {r : Outcome × Scopes × Supervision}
    (run_eq : runFrom (executor names patience) (fun _ v => v.world.isCancelled) p budget taken c.pc
      c.scopes c.world = r) :
    (∃ made, r.2.2.world.starts = c.world.world.starts ++ made ∧
      (c.world.world.isCancelled = true → made = []) ∧
      ∀ k t o, made[k]? = some (t, o) → c.world.world.isCancelledAt t k = false) ∧
    (∀ timeout polls plan, planOf timeout polls = .ok plan → ∀ threshold u,
      Wait.Prompt plan patience (poll threshold) (fun t => u.world.isCancelledAt t 0) u) ∧
    (∀ i w, Wait.Prompt (.lasting none) patience (World.checkOrKill i)
      (fun t => w.isCancelledAt t 0) w) ∧
    (r.1 = .finished ∨ r.1 = .stopped → r.2.2.crew.tracked = [] ∧ ∀ i ∈ r.2.2.crew.spawned,
      ∃ d t, r.2.2.world.children[i]? = some d ∧ d.status.isFinal = true ∧
        t ≤ r.2.2.world.now ∧ d.Concluded r.2.2.world.events t ∧
        (d.hasExited t = true → d.status = .ofExit d.script.code ∨
          ∃ e, d.answer t = .error e ∧ d.status = .error (some e.message))) := by
  subst run_eq
  obtain ⟨made, timely⟩ := leads_under_of_runFrom (leads_timely names patience) p budget taken c.pc
    c.scopes c.world
  have sound := reached.sound.later
    (leads_of_runFrom (leads_executor names patience) (fun _ v => v.world.isCancelled) p budget taken
      c.pc c.scopes c.world)
    (leads_of_runFrom (World.leads_fates names patience) (fun _ v => v.world.isCancelled) p budget
      taken c.pc c.scopes c.world)
  refine ⟨⟨made, timely.starts, timely.eq_nil, fun k t o h => (timely.punctual k t o h).2⟩,
    fun timeout polls plan planned threshold u => prompt_poll planned threshold patience u,
    fun i w => prompt_checkOrKill i patience w, fun returns => ?_⟩
  have given_up := tracked_eq_nil_of_returns rfl returns
  refine ⟨given_up, fun i hi => ?_⟩
  have gone := sound.inOrder.gone i hi (given_up ▸ List.not_mem_nil)
  obtain ⟨d, t, hd, final, early, concluded⟩ := sound.concluded hi gone
  exact ⟨d, t, hd, final, early, concluded, concluded.status_of_exited⟩

/-- Two children are started and waited for, and then a third one. -/
def waitBetween : Program Command :=
  [⟨.command (.spawn { command := [.literal "a"] }), none⟩,
    ⟨.command (.spawn { command := [.literal "b"] }), none⟩, ⟨.command (.wait none none), none⟩,
    ⟨.command (.spawn { command := [.literal "c"] }), none⟩]

/-- The flag goes up while the program waits for two children, of which the first one exits a little
earlier and the second one never.  The second one is killed, and the third one is not started. -/
theorem flag_is_heeded_waitBetween :
    let w : World :=
      { scripts := [{ exit := some 30000 }, { exit := none }], cancelAt := some 50000 }
    let r := runFrom (executor {} 10) (fun _ v => v.world.isCancelled) waitBetween 10 0 0 [] ⟨{}, w⟩
    r.1 = .stopped ∧ r.2.2.world.starts.length = 2 ∧
      r.2.2.world.children.map (·.status) = #[.finished, .killed] ∧ r.2.2.crew.tracked = [] ∧
      r.2.2.crew.spawned = [0, 1] ∧ ∀ i ∈ [0, 1],
        ∃ d t, r.2.2.world.children[i]? = some d ∧ d.Concluded r.2.2.world.events t := by
  intro w r
  have stopped : r.1 = .stopped := by decide +kernel
  have spawned : r.2.2.crew.spawned = [0, 1] := by decide +kernel
  have begun : Reached {} 10 waitBetween ⟨0, [], ⟨{}, w⟩⟩ := .start [] rfl rfl
  obtain ⟨-, -, -, returns⟩ := flag_is_heeded {} 10 begun 10 0 (r := r) rfl
  obtain ⟨given_up, ended⟩ := returns (.inr stopped)
  refine ⟨stopped, by decide +kernel, by decide +kernel, given_up, spawned, fun i hi => ?_⟩
  obtain ⟨d, t, hd, -, -, concluded, -⟩ := ended i (spawned ▸ hi)
  exact ⟨d, t, hd, concluded⟩

/-- A program that starts one child. -/
def oneChild : Program Command := [⟨.command (.spawn { command := [.literal "a"] }), none⟩]

/-- A child exits after 20 ms, but from 10 ms on the system refuses to tell.  The run looks at it at
once and after 100 ms, and then returns.  So the child had exited when it was looked at for the last
time, and yet it has no exit state. -/
theorem exitState_lost_of_refusedPoll :
    let w : World :=
      { scripts := [{ exit := some 20000, pollFault := some (10000, ⟨5, "x"⟩) }]
        cancelAt := some 50000 }
    let v := (execute 10 (.spawn { command := [.literal "a"] }) [] ⟨{}, w⟩).2
    let wait := Wait.run (.lasting none) 10 (Logged.ask (World.checkOrKill 0)) ⟨v.world, #[]⟩
    let r := run (executor {} 10) (fun _ v => v.world.isCancelled) 10 oneChild false [] ⟨{}, w⟩
    wait.1 = .done ∧ wait.2.asked = #[0, 100000] ∧ r.1 = .finished ∧ r.2.2.crew.spawned = [0] ∧
      ∃ c, r.2.2.world.children[0]? = some c ∧ c.hasExited 100000 = true ∧
        c.status = .error (some "[Errno 5] x") ∧ c.status ≠ .ofExit c.script.code := by
  intro w v wait r
  have seen : r.2.2.world.children[0]?.any fun c => c.hasExited 100000 = true ∧
      c.status = .error (some "[Errno 5] x") ∧ c.status ≠ .ofExit c.script.code := by
    decide +kernel
  obtain ⟨c, hc, lost⟩ := Option.any_eq_true _ _ |>.1 seen
  exact ⟨by decide +kernel, by decide +kernel, by decide +kernel, by decide +kernel, c, hc,
    of_decide_eq_true lost⟩

end Supervision

end Sweep
