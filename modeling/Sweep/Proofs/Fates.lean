import Sweep.Proofs.Routine

/-!
# How children come to their ends

A child that was started runs until a look at it gets an answer from the system, an exit code or a
refusal, or until it is killed.  Whoever kills it has looked at it in the same instant, and then it was
still running.  So the state of a child that is over tells what was found when it was looked at for
the last time.

* `Child.answer` — what the system says about a child that nobody has killed;
* `Child.Concluded` — the state of a child fits to the answer that there was at an instant;
* `World.FatedAt` — a child still runs, or has come to such an end;
* `fatedAt_check`, `fatedAt_kill` — seeing and killing keep this, and so does everything that runs
  command programs (`leads_fates`).
-/

namespace Sweep

namespace Child

/-- What the system says at an instant about a child that nobody has killed. -/
def answer (c : Child) (t : Nat) : Except SystemError (Option Int) :=
  { c with killed := false }.poll t

/-- The child has exited by an instant. -/
def hasExited (c : Child) (t : Nat) : Bool := c.script.exit.any (· ≤ t - c.started)

/-- The child runs, as far as anybody knows. -/
structure Pending (c : Child) : Prop where
  status : c.status = .running
  killed : c.killed = false

/-- The child has its state from the look that was had at it at an instant: either the system
answered then, or the child was running and was killed at once. -/
inductive Concluded (c : Child) (events : Array (Nat × Event)) (t : Nat) : Prop where
  | exited {code : Int} (answer : c.answer t = .ok (some code)) (status : c.status = .ofExit code)
  | unanswered {e : SystemError} (answer : c.answer t = .error e)
      (status : c.status = .error (some e.message))
  | killed (answer : c.answer t = .ok none) (noted : (t, .kill c.pid) ∈ events)
      (fault : c.script.killFault = none) (status : c.status = .killed)
  /-- The system refused to kill the child. -/
  | unkilled {e : SystemError} (answer : c.answer t = .ok none)
      (noted : (t, .kill c.pid) ∈ events) (fault : c.script.killFault = some e)
      (status : c.status = .error (some e.message))

variable {c d : Child} {events events' : Array (Nat × Event)} {t : Nat}

theorem answer_congr (script : d.script = c.script) (started : d.started = c.started) (t : Nat) :
    d.answer t = c.answer t := by
  rw [answer, answer, poll, poll]
  dsimp only
  rw [script, started]

/-- Nobody has killed a child that runs. -/
theorem Pending.answer_eq (h : c.Pending) (t : Nat) : c.answer t = c.poll t := by
  rw [answer, poll, poll, h.killed]

/-- What is found about a child that has exited is its exit code, unless the system refuses. -/
theorem answer_of_exited (exited : c.hasExited t = true) :
    c.answer t = .ok (some c.script.code) ∨ ∃ e, c.answer t = .error e := by
  rw [answer, poll]
  split
  · exact .inr ⟨_, rfl⟩
  · rw [if_neg Bool.false_ne_true]
    exact .inl (if_pos exited)

namespace Concluded

theorem isFinal (h : c.Concluded events t) : c.status.isFinal = true := by
  cases h with
  | exited answer status =>
    rw [status]
    exact isFinal_ofExit _
  | unanswered answer status | killed answer noted fault status
  | unkilled answer noted fault status =>
    rw [status]
    rfl

/-- It stays so while more is noted. -/
theorem later (h : c.Concluded events t) (same : c.Same d) (more : ∀ e ∈ events, e ∈ events') :
    d.Concluded events' t := by
  have eq := answer_congr same.script same.started t
  have noted_pid (noted : (t, Event.kill c.pid) ∈ events) : (t, Event.kill d.pid) ∈ events' :=
    same.pid ▸ more _ noted
  cases h with
  | exited answer status => exact .exited (eq.trans answer) (same.status.trans status)
  | unanswered answer status => exact .unanswered (eq.trans answer) (same.status.trans status)
  | killed answer noted fault status =>
    exact .killed (eq.trans answer) (noted_pid noted) (same.script ▸ fault)
      (same.status.trans status)
  | unkilled answer noted fault status =>
    exact .unkilled (eq.trans answer) (noted_pid noted) (same.script ▸ fault)
      (same.status.trans status)

/-- **A child that had exited when it was looked at for the last time has its exit state**, unless the
system refused to tell. -/
theorem status_of_exited (h : c.Concluded events t) (exited : c.hasExited t = true) :
    c.status = .ofExit c.script.code ∨
      ∃ e, c.answer t = .error e ∧ c.status = .error (some e.message) := by
  have found := answer_of_exited exited
  cases h with
  | exited answer status =>
    rw [answer] at found
    rcases found with found | ⟨e, found⟩
    · obtain rfl := Option.some.inj (Except.ok.inj found)
      exact .inl status
    · cases found
  | unanswered answer status => exact .inr ⟨_, answer, status⟩
  | killed answer noted fault status | unkilled answer noted fault status =>
    rw [answer] at found
    rcases found with found | ⟨e, found⟩ <;> cases found

end Concluded

end Child

namespace World

variable {w w' : World} {i j : Nat} {c : Child}

/-- If there is a child of that number, it runs or has come to its end at some instant so far. -/
def FatedAt (w : World) (i : Nat) : Prop :=
  ∀ c, w.children[i]? = some c → c.Pending ∨ ∃ t, t ≤ w.now ∧ c.Concluded w.events t

namespace FatedAt

/-- The children stay as they are, but for what is shown of them. -/
theorem later (h : w.FatedAt i) (now : w.now ≤ w'.now) (more : ∀ e ∈ w.events, e ∈ w'.events)
    (before : ∀ d, w'.children[i]? = some d → ∃ c, w.children[i]? = some c ∧ c.Same d) :
    w'.FatedAt i := by
  intro d hd
  obtain ⟨c, hc, same⟩ := before d hd
  rcases h c hc with pending | ⟨t, early, concluded⟩
  · exact .inl ⟨same.status.trans pending.status, same.killed.trans pending.killed⟩
  · exact .inr ⟨t, Nat.le_trans early now, concluded.later same more⟩

/-- The children stay as they are. -/
theorem same (h : w.FatedAt i) (now : w.now ≤ w'.now) (more : ∀ e ∈ w.events, e ∈ w'.events)
    (children : w'.children = w.children) : w'.FatedAt i :=
  h.later now more fun d hd => ⟨d, children ▸ hd, ⟨rfl, rfl, rfl, rfl, rfl, rfl⟩⟩

theorem happen (h : w.FatedAt i) (e : Event) : (w.happen e).FatedAt i :=
  h.same (Nat.le_refl _) (fun _ he => Array.mem_push_of_mem _ he) rfl

/-- Something happens, and may be kept on the disk. -/
theorem note (h : w.FatedAt i) (e : Event) (disk : Disk) :
    FatedAt { w.happen e with disk } i := h.happen e

/-- A child that is not over yet comes to its end. -/
theorem modify (h : w.FatedAt j) (hc : w.children[i]? = some c) (running : ¬ c.status.isFinal = true)
    {f : Child → Child} (ends : c.Pending → (f c).Concluded w.events w.now) :
    (w.modifyChild i f).FatedAt j := by
  intro d hd
  rw [getElem?_modifyChild] at hd
  split at hd
  · next same =>
    subst same
    rw [hc] at hd
    obtain rfl := Option.some.inj hd
    rcases h c hc with pending | ⟨t, -, concluded⟩
    · exact .inr ⟨w.now, Nat.le_refl _, ends pending⟩
    · exact absurd concluded.isFinal running
  · exact h d hd

end FatedAt

/-! ### Seeing and killing -/

theorem settle_of_running (running : ¬ c.status.isFinal = true) (s : Status) :
    c.settle s = { c with status := s, line := c.line.settle s } := if_neg running

/-- What the system says about a child that nobody has killed is the answer that there was. -/
theorem Asked.answer {r : Except SystemError (Option Int)} (asked : w.Asked i c r)
    (pending : c.Pending) : c.answer w.now = r :=
  (pending.answer_eq w.now).trans asked.answer_eq

theorem fatedAt_check (i : Nat) (h : w.FatedAt j) : (w.check i).2.FatedAt j := by
  have ends := w.check_ends i
  generalize w.check i = r at ends ⊢
  cases ends with
  | known | running => exact h
  | refused asked =>
    refine h.modify asked.found asked.running fun pending => ?_
    rw [settle_of_running asked.running]
    exact .unanswered (asked.answer pending) rfl
  | exited asked =>
    refine FatedAt.note (h.modify asked.found asked.running fun pending => ?_) _ _
    rw [settle_of_running asked.running]
    exact .exited (asked.answer pending) rfl

theorem fatedAt_kill (i : Nat) (h : w.FatedAt j) : (w.kill i).FatedAt j := by
  have ends := w.kill_ends i
  generalize w.kill i = u at ends ⊢
  have noted (c : Child) : (w.now, Event.kill c.pid) ∈ (w.happen (.kill c.pid)).events :=
    Array.mem_push_self
  have struck {c : Child} (asked : w.Asked i c (.ok none)) (fault : c.script.killFault = none) :
      (w.strike i c).FatedAt j := by
    refine (h.happen (.kill c.pid)).modify asked.found asked.running fun pending => ?_
    rw [settle_of_running (c := { c with killed := true }) asked.running]
    exact .killed (asked.answer pending) (noted c) fault rfl
  cases ends with
  | seen => exact fatedAt_check i h
  | @refused c e r disk asked fault =>
    refine ((h.happen (.kill c.pid)).note (.record r) disk).modify asked.found asked.running
      fun pending => ?_
    rw [settle_of_running asked.running]
    exact .unkilled (asked.answer pending) (Array.mem_push_of_mem _ (noted c)) fault rfl
  | obeyed asked fault => exact (struck asked fault).note _ _
  | stubborn asked fault =>
    refine FatedAt.note ?_ _ _
    exact ((struck asked fault).note _ _).same (Nat.le_add_right _ _) (fun _ => id) rfl

/-! ### Everything else -/

/-- **What is known about a child stays true.** -/
theorem routine_fates : Routine fun w w' => ∀ i, w.FatedAt i → w'.FatedAt i where
  refl _ _ := id
  trans first second i := second i ∘ first i
  disk _ _ _ h := h
  happen _ e _ _ h := h.happen e
  sleep _ _ _ h := h.same (Nat.le_add_right _ _) (fun _ => id) rfl
  retouch w i f hf j h := h.later (Nat.le_refl _) (fun _ => id) fun d hd => by
    rw [getElem?_modifyChild] at hd
    split at hd
    · obtain ⟨c, hc, rfl⟩ := Option.map_eq_some_iff.1 hd
      exact ⟨c, hc, hf c⟩
    · exact ⟨d, hd, ⟨rfl, rfl, rfl, rfl, rfl, rfl⟩⟩
  check i _ _ h := fatedAt_check i h
  kill i _ _ h := fatedAt_kill i h

/-- A child that is new runs. -/
theorem FatedAt.adopt (h : w.FatedAt i) (running : c.status = .running) (alive : c.killed = false) :
    (w.adopt c).FatedAt i := by
  intro d hd
  rw [World.adopt, Array.getElem?_push] at hd
  split at hd
  · obtain rfl := Option.some.inj hd
    exact .inl ⟨running, alive⟩
  · exact h d hd

/-- There is nothing to say about a child that is not there yet. -/
theorem fatedAt_of_size_le (h : w.children.size ≤ i) : w.FatedAt i := by
  intro c hc
  rw [Array.getElem?_eq_none h] at hc
  cases hc

/-- **What runs command programs brings every child to such an end**, if to any. -/
theorem leads_fates (names : NameTable) (patience : Nat) :
    (Supervision.executor names patience).Leads
      fun v v' => ∀ i, v.world.FatedAt i → v'.world.FatedAt i :=
  routine_fates.leads (fun _ o _ h => h.happen (.spawn o))
    (fun _ _ running alive _ h => h.adopt running alive) names patience

end World

end Sweep
