import Sweep.Proofs.Metering
import Sweep.Proofs.Starting

/-!
# What a crew does to its children

A crew may stop tracking a child only when the child is over.  Children leave the tracked ones in five
places: when a wait sees that they are over, when the time of a wait is over, when the crew is stopped,
at the end of a program, and between two programs.  All of these are cases of one relation.

* `Supervision.Subsides` — no child was started, and the children that are no longer tracked are over;
* one lemma for each operation that starts no child, from killing up to waiting and finishing;
* `length_lt_of_waitAll`, `tracked_eq_nil_of_finish` — how few children are tracked after a wait, and
  that none is after a program;
* `Untimely`, `crash_of_waitAll` — a wait that crashes has no end, or a time that cannot be counted;
* `Reports` — bringing the progress file up to date, which takes no time;
* `Attempted`, `startChild_attempted` — what an attempt to start a child makes of the crew;
* `SpawnEnded`, `spawn_ended` — a start command ends without an attempt, or with one attempt that is
  made when the limit has room for it.
-/

namespace Sweep.Supervision

variable {v v' v'' : Supervision}

/-- No child was started, and the children that are no longer tracked are over. -/
structure Subsides (v v' : Supervision) : Prop where
  world : v.world.Onward v'.world
  limit : v'.crew.limit = v.crew.limit
  spawned : v'.crew.spawned = v.crew.spawned
  spawnFailures : v'.crew.spawnFailures = v.crew.spawnFailures
  progress : v.crew.progress = .none → v'.crew.progress = .none
  tracked : v'.crew.tracked.Sublist v.crew.tracked
  gone : ∀ i ∈ v.crew.tracked, i < v.world.children.size → i ∉ v'.crew.tracked → v'.world.IsOver i

namespace Subsides

theorem refl (v : Supervision) : v.Subsides v where
  world := .refl _
  limit := rfl
  spawned := rfl
  spawnFailures := rfl
  progress := id
  tracked := .refl _
  gone _ hi _ hn := absurd hi hn

theorem trans (h₁ : v.Subsides v') (h₂ : v'.Subsides v'') : v.Subsides v'' where
  world := h₁.world.trans h₂.world
  limit := h₂.limit.trans h₁.limit
  spawned := h₂.spawned.trans h₁.spawned
  spawnFailures := h₂.spawnFailures.trans h₁.spawnFailures
  progress h := h₂.progress (h₁.progress h)
  tracked := h₂.tracked.trans h₁.tracked
  gone i hi hlt hn := by
    by_cases mid : i ∈ v'.crew.tracked
    · exact h₂.gone i mid (h₁.world.no_child ▸ hlt) hn
    · exact (h₁.gone i hi hlt mid).later h₂.world.toLater

/-- The world goes on, and the crew stays as it is. -/
theorem of_onward {w : World} (h : v.world.Onward w) : v.Subsides { v with world := w } where
  world := h
  limit := rfl
  spawned := rfl
  spawnFailures := rfl
  progress := id
  tracked := .refl _
  gone _ hi _ hn := absurd hi hn

/-- No child is tracked any more, since all of them are over. -/
theorem of_all_over {w : World} (h : v.world.Onward w)
    (gone : ∀ i ∈ v.crew.tracked, i < v.world.children.size → w.IsOver i)
    (meters : List (NameId × Meter)) (stopped : Bool) :
    v.Subsides { crew := { v.crew with tracked := [], meters, stopped }, world := w } where
  world := h
  limit := rfl
  spawned := rfl
  spawnFailures := rfl
  progress := id
  tracked := List.nil_sublist _
  gone i hi hlt _ := gone i hi hlt

end Subsides

/-! ### Stopping -/

/-- Killing several children brings each of them to its end. -/
theorem onward_killAll (is : List Nat) (w : World) :
    w.Onward (is.foldl (fun w i => w.kill i) w) ∧
    ∀ i ∈ is, i < w.children.size → (is.foldl (fun w i => w.kill i) w).IsOver i := by
  induction is generalizing w with
  | nil => exact ⟨.refl w, nofun⟩
  | cons j rest ih =>
    have first := w.onward_kill j
    obtain ⟨onward, gone⟩ := ih (w.kill j)
    refine ⟨first.trans onward, fun i hi hlt => ?_⟩
    rcases List.mem_cons.1 hi with rfl | hi
    · exact (World.isOver_kill hlt).later onward.toLater
    · exact gone i hi (first.no_child ▸ hlt)

theorem subsides_killTracked (v : Supervision) : v.Subsides v.killTracked := by
  obtain ⟨onward, gone⟩ := onward_killAll v.crew.tracked v.world
  exact .of_all_over onward gone _ _

theorem subsides_stopAll (v : Supervision) : v.Subsides v.stopAll := by
  obtain ⟨onward, gone⟩ := onward_killAll v.crew.tracked v.world
  rw [stopAll]
  dsimp only
  split
  · exact .of_all_over onward gone [] true
  · have noted := World.quiet_record v.killTracked.world .info Source.supervision
      "Supervisor shut down" [("event", .text "shutdown")]
    exact .of_all_over (onward.trans noted.toOnward)
      (fun i hi hlt => (gone i hi hlt).later noted.toLater) [] true

/-! ### Pauses and waits -/

theorem onward_sleepUntil (moment slices : Nat) (w : World) :
    w.Onward (sleepUntil moment slices w) := by
  induction slices generalizing w with
  | zero => exact .refl w
  | succ slices ih =>
    rw [sleepUntil]
    split
    · exact .refl w
    · exact (w.onward_sleepUnlessCancelled _).trans (ih _)

theorem onward_pause (ms : Nat) (w : World) : w.Onward (pause ms w).2 := by
  rw [pause]
  split
  · exact .refl w
  · exact onward_sleepUntil _ _ _

/-- A look at several children takes no time, and those that are found to be running no more are over. -/
theorem sweepChildren_spec (is : List Nat) (w : World) :
    w.Quiet (sweepChildren is w).2 ∧ (sweepChildren is w).1.Sublist is ∧
    ∀ i ∈ is, i < w.children.size → i ∉ (sweepChildren is w).1 → (sweepChildren is w).2.IsOver i := by
  induction is generalizing w with
  | nil => exact ⟨.refl w, .refl _, nofun⟩
  | cons j rest ih =>
    have quiet := w.quiet_check j
    have seen := World.isOver_of_check (w := w) (i := j)
    rw [sweepChildren]
    split
    · next u heq =>
      rw [heq] at quiet seen
      obtain ⟨after, sub, gone⟩ := ih u
      refine ⟨quiet.trans after, sub.cons j, fun i hi hlt hn => ?_⟩
      rcases List.mem_cons.1 hi with rfl | hi
      · exact (seen hlt rfl).later after.toLater
      · exact gone i hi (quiet.no_child ▸ hlt) hn
    · next u heq =>
      rw [heq] at quiet
      obtain ⟨after, sub, gone⟩ := ih u
      refine ⟨quiet.trans after, sub.cons_cons j, fun i hi hlt hn => ?_⟩
      rw [List.mem_cons, not_or] at hn
      exact gone i ((List.mem_cons.1 hi).resolve_left hn.1) (quiet.no_child ▸ hlt) hn.2

theorem subsides_poll (threshold : Nat) (v : Supervision) : v.Subsides (poll threshold v).2 := by
  rw [poll]
  split
  · exact .refl v
  · obtain ⟨quiet, sub, gone⟩ := sweepChildren_spec v.crew.tracked v.world
    exact ⟨quiet.toOnward, rfl, rfl, rfl, id, sub, gone⟩

/-- A yes to the question of a wait: the flag is up, or few enough children are tracked. -/
theorem length_lt_of_poll {threshold : Nat} (h : poll threshold v = (true, v'))
    (down : v'.world.isCancelled = false) : v'.crew.tracked.length < threshold := by
  rw [poll] at h
  split at h
  · next up =>
    obtain ⟨-, rfl⟩ := Prod.mk.inj h
    rw [up] at down
    cases down
  · obtain ⟨few, rfl⟩ := Prod.mk.inj h
    exact of_decide_eq_true few

theorem keeps_poll (threshold : Nat) (v : Supervision) : Wait.Keeps (poll threshold) (v.Subsides ·) where
  ask u hu := hu.trans (subsides_poll threshold u)
  sleep d u hu := hu.trans (.of_onward (u.world.onward_sleep d))

theorem subsides_waitFor (timeout : Option Document) (plan : WaitPlan) (threshold patience : Nat)
    (v : Supervision) : v.Subsides (waitFor timeout plan threshold patience v).2 := by
  have kept := Wait.run_keeps (keeps_poll threshold v) plan patience (.refl v)
  rw [waitFor]
  split
  · next u heq =>
    rw [heq] at kept
    dsimp only
    split
    · exact kept.trans u.subsides_stopAll
    · exact kept
  · next u heq =>
    rw [heq] at kept
    refine .trans ?_ (subsides_killTracked _)
    exact kept.trans (.of_onward (u.world.quiet_record _ _ _ _).toOnward)
  · next heq => rwa [heq] at kept
  · next heq => rwa [heq] at kept

theorem subsides_waitAll (timeout polls : Option Document) (remaining patience : Nat)
    (v : Supervision) : v.Subsides (v.waitAll timeout polls remaining patience).2 := by
  rw [waitAll]
  split
  · split
    · exact .refl v
    · exact .refl v
  · split
    · exact .refl v
    · exact subsides_waitFor _ _ _ _ _

/-- **After a wait that returns, few enough children are tracked.** -/
theorem length_lt_of_waitAll {timeout polls : Option Document} {remaining patience : Nat}
    (h : v.waitAll timeout polls remaining patience = (.ok (), v')) :
    v'.crew.tracked.length < max remaining 1 := by
  have none_left {u : Supervision} (empty : u.crew.tracked = []) :
      u.crew.tracked.length < max remaining 1 := by
    rw [empty, List.length_nil]
    omega
  have at_once {b : Bool} (hb : (b && v.crew.tracked.isEmpty && !v.world.isCancelled) = true) :
      v.crew.tracked = [] := by
    simp only [Bool.and_eq_true] at hb
    exact List.isEmpty_iff.1 hb.1.2
  rw [waitAll] at h
  split at h
  · split at h
    · next hb =>
      obtain ⟨-, rfl⟩ := Prod.mk.inj h
      exact none_left (at_once hb)
    · cases h
  · split at h
    · next hb =>
      obtain ⟨-, rfl⟩ := Prod.mk.inj h
      exact none_left (at_once (b := true) (by rwa [Bool.true_and]))
    · next plan _ _ =>
      have ended := Wait.run_ended (keeps_poll (max remaining 1) v) plan patience (.refl v)
      rw [waitFor] at h
      split at h
      · next u heq =>
        obtain ⟨-, rfl⟩ := Prod.mk.inj h
        split
        · exact none_left rfl
        · next down =>
          rw [heq] at ended
          cases ended with
          | done before answer => exact length_lt_of_poll answer (Bool.not_eq_true _ ▸ down)
      · obtain ⟨-, rfl⟩ := Prod.mk.inj h
        exact none_left rfl
      · cases h
      · cases h

/-- **After a wait for all children that returns, none is tracked.** -/
theorem tracked_eq_nil_of_waitAll {timeout polls : Option Document} {patience : Nat}
    (h : v.waitAll timeout polls 0 patience = (.ok (), v')) : v'.crew.tracked = [] := by
  have few := length_lt_of_waitAll h
  exact List.length_eq_zero_iff.1 (by omega)

/-- A command whose time cannot be counted, and the crash in which it ends. -/
inductive Untimely : Command → Crash → Prop where
  | unplanned {timeout polls : Option Document} {c : Crash} (plan : planOf timeout polls = .error c) :
      Untimely (.wait timeout polls) c
  | refused {timeout polls : Option Document} {plan : WaitPlan} {e : PlanError}
      (planned : planOf timeout polls = .ok plan)
      (cause : (∃ now, plan.deadline now = .error e) ∨ ∃ length n, plan.pause length = .error n) :
      Untimely (.wait timeout polls) (.plan e)
  | sleep {ms : Nat} {e : NumberError} (long : (Quantity.whole ms).divide (.whole 1000) = .error e) :
      Untimely (.sleep ms) (.number e)

/-- A wait crashes when it has no end, or for its time. -/
theorem crash_of_waitAll {timeout polls : Option Document} {remaining patience : Nat} {c : Crash}
    (h : v.waitAll timeout polls remaining patience = (.error c, v')) :
    c = .endless ∨ Untimely (.wait timeout polls) c := by
  rw [waitAll] at h
  split at h
  · next plan =>
    split at h
    · cases h
    · obtain ⟨hc, -⟩ := Prod.mk.inj h
      exact .inr (.unplanned (Except.error.inj hc ▸ plan))
  · next plan planned =>
    split at h
    · cases h
    · rw [waitFor] at h
      split at h
      · cases h
      · cases h
      · next heq =>
        obtain ⟨hc, -⟩ := Prod.mk.inj h
        obtain rfl := Except.error.inj hc
        have refused := Wait.deadline_or_pause_of_refused (congrArg Prod.fst heq)
        exact .inr (.refused planned (refused.imp (fun e => ⟨_, e⟩) id))
      · obtain ⟨hc, -⟩ := Prod.mk.inj h
        exact .inl (Except.error.inj hc).symm

/-- A wait without a time crashes only when it has no end. -/
theorem endless_of_waitAll {c : Crash} {remaining patience : Nat}
    (h : v.waitAll none none remaining patience = (.error c, v')) : c = .endless := by
  rcases crash_of_waitAll h with endless | untimely
  · exact endless
  · cases untimely with
    | unplanned plan => cases plan
    | refused planned cause =>
      obtain rfl := Except.ok.inj planned
      exact (Wait.lasting_none_feasible cause).elim

/-! ### Progress -/

/-- No time went by, and of the crew only the progress file differs. -/
structure Reports (v v' : Supervision) : Prop where
  world : v.world.Quiet v'.world
  crew : ∃ progress, v'.crew = { v.crew with progress } ∧ (v.crew.progress = .none → progress = .none)

theorem Reports.subsides (h : v.Reports v') : v.Subsides v' := by
  obtain ⟨progress, crew, idle⟩ := h.crew
  have tracked : v'.crew.tracked = v.crew.tracked := by rw [crew]
  exact {
    world := h.world.toOnward
    limit := by rw [crew]
    spawned := by rw [crew]
    spawnFailures := by rw [crew]
    progress := fun none => by rw [crew]; exact idle none
    tracked := tracked ▸ .refl _
    gone := fun i hi _ hn => absurd (tracked ▸ hi) hn }

theorem reports_openProgress (v : Supervision) : v.Reports v.openProgress := by
  rw [openProgress]
  split
  · next path closed =>
    have never (h : v.crew.progress = .none) : False := by
      rw [closed] at h
      cases h
    have made := v.world.quiet_disk (v.world.disk.makeDirectories path.parent).2
    dsimp only
    split
    · exact ⟨made.trans (World.quiet_disk _ _), _, rfl, fun h => (never h).elim⟩
    · exact ⟨made.trans (World.quiet_record _ _ _ _ _), _, rfl, fun _ => rfl⟩
  · exact ⟨.refl _, _, rfl, id⟩

theorem reports_writeProgress (v : Supervision) : v.Reports v.writeProgress.2 := by
  have opened := v.reports_openProgress
  rw [writeProgress]
  dsimp only
  split
  · split
    · exact opened
    · split
      · exact ⟨opened.world.trans (World.quiet_disk _ _), opened.crew⟩
      · exact opened
  · exact opened

theorem subsides_visit (names : NameTable) (x : NameId) (position : Int) (value : Value)
    (s : Scopes) (v : Supervision) : v.Subsides (visit names x position value s v).2 := by
  have kept (meters : List (NameId × Meter)) {w : World} (h : v.world.Onward w) :
      v.Subsides { crew := { v.crew with meters }, world := w } :=
    ⟨h, rfl, rfl, rfl, id, .refl _, fun _ hi _ hn => absurd hi hn⟩
  rw [visit]
  dsimp only
  split
  · exact kept _ (.refl _)
  · exact kept _ (v.world.quiet_happen _).toOnward

/-! ### The end of a program -/

/-- Waiting for several children lets the world go on, and when it succeeds they all are over. -/
theorem drain_spec (patience : Nat) (is : List Nat) (w : World) :
    w.Onward (drain patience is w).2 ∧
    ((drain patience is w).1 = .ok () →
      ∀ i ∈ is, i < w.children.size → (drain patience is w).2.IsOver i) := by
  induction is generalizing w with
  | nil => exact ⟨.refl w, fun _ => nofun⟩
  | cons j rest ih =>
    have first := w.onward_await j (.lasting none) patience
    have waited := @World.isOver_of_await w j (.lasting none) patience
    rw [drain]
    split
    · next heq =>
      rw [heq] at first
      exact ⟨first, nofun⟩
    · next heq =>
      rw [heq] at first
      exact ⟨first, nofun⟩
    · next r u refused unfinished heq =>
      rw [heq] at first waited
      obtain ⟨onward, gone⟩ := ih u
      refine ⟨first.trans onward, fun ok i hi hlt => ?_⟩
      rcases List.mem_cons.1 hi with rfl | hi
      · have ended : r = .done ∨ r = .timedOut := by
          cases r with
          | done => exact .inl rfl
          | timedOut => exact .inr rfl
          | unfinished => exact (unfinished rfl).elim
          | refused e => exact (refused e rfl).elim
        exact (waited hlt ended).later onward.toLater
      · exact gone ok i hi (first.no_child ▸ hlt)

theorem subsides_finish (patience : Nat) (v : Supervision) : v.Subsides (finish patience v).2 := by
  obtain ⟨onward, gone⟩ := drain_spec patience v.crew.tracked v.world
  rw [finish]
  split
  · next heq =>
    rw [heq] at onward
    exact .of_onward onward
  · next w heq =>
    rw [heq] at onward gone
    have drained := gone rfl
    dsimp only
    split
    · have stopped := subsides_stopAll { v with world := w }
      refine (Subsides.of_onward onward).trans (stopped.trans ?_)
      exact .of_all_over (.refl _) (fun _ hi _ => absurd hi List.not_mem_nil) _ _
    · exact .of_all_over onward drained _ _

/-- **After a program that was finished, no child is tracked.** -/
theorem tracked_eq_nil_of_finish {patience : Nat} (h : finish patience v = (.ok (), v')) :
    v'.crew.tracked = [] := by
  rw [finish] at h
  split at h
  · cases h
  · obtain ⟨-, rfl⟩ := Prod.mk.inj h
    rfl

/-! ### Start commands -/

/-- What an attempt to start a child by an order makes of the crew. -/
inductive Attempted (o : Order) (v : Supervision) : Supervision → Prop where
  /-- There is no new child. -/
  | refused {w : World} (world : v.world.Refused w) :
      Attempted o v ⟨{ v.crew with spawnFailures := v.crew.spawnFailures + 1 }, w⟩
  /-- There is a new child, and it is registered. -/
  | registered {i : Nat} {w : World} (world : v.world.Started w o i) :
      Attempted o v ⟨{ v.crew with tracked := v.crew.tracked ++ [i], spawned := v.crew.spawned ++ [i] }, w⟩
  /-- There is a new child, and it is not registered. -/
  | stray {i : Nat} {w : World} (cause : o.isUnroutable = true) (world : v.world.Started w o i) :
      Attempted o v ⟨{ v.crew with spawnFailures := v.crew.spawnFailures + 1 }, w⟩

theorem startChild_attempted (o : Order) (v : Supervision) : Attempted o v (startChild o v) := by
  have ended := World.start_ended o v.crew.labelArguments v.world
  have told (w : World) (message : String) : w.Quiet ((w.record .error Source.supervision message
      [("event", .text "spawn_failed")]).print message) :=
    (w.quiet_record _ _ _ _).trans (World.quiet_happen _ _)
  rw [startChild]
  cases hr : v.world.start o v.crew.labelArguments with
  | mk r w =>
    rw [hr] at ended
    cases ended with
    | refused cause after => exact .refused (after.quiet (told w _))
    | started after => exact .registered after
    | unrouted cause after => exact .stray cause (after.quiet (told w _))

theorem Attempted.limit {o : Order} (h : Attempted o v v') : v'.crew.limit = v.crew.limit := by
  cases h <;> rfl

theorem Attempted.later {o : Order} (h : Attempted o v v') : v.world.Later v'.world := by
  cases h with
  | refused world => exact world.toLater
  | registered world => exact world.toLater
  | stray cause world => exact world.toLater

theorem Attempted.no_time {o : Order} (h : Attempted o v v') : v'.world.now = v.world.now := by
  cases h with
  | refused world => exact world.no_time
  | registered world => exact world.no_time
  | stray cause world => exact world.no_time

theorem Attempted.one_attempt {o : Order} (h : Attempted o v v') :
    v'.world.attempts = v.world.attempts + 1 := by
  cases h with
  | refused world => exact world.one_attempt
  | registered world => exact world.one_attempt
  | stray cause world => exact world.one_attempt

/-- The limit, if there is one, admits one more child. -/
def HasRoom (v : Supervision) : Prop := ∀ n, v.crew.limit = some n → v.crew.tracked.length < max n 1

/-- Failures of the progress file: the estimator fails, a number of a meter cannot be written, or the system
refuses to write. -/
inductive ProgressFault : Crash → Prop where
  | foreign (e : Foreign) : ProgressFault (.foreign e)
  | number (e : NumberError) : ProgressFault (.number e)
  | refused (code : Int) (text : String) : ProgressFault (.refused code text)

/-- How a start command ends: without an attempt to start a child, or with one attempt that is made
when the limit has room for it. -/
inductive SpawnEnded (l : Launch) (s : Scopes) (v : Supervision) :
    Except Failure Unit × Supervision → Prop where
  /-- The wait for room has no end, or the progress file cannot be written. -/
  | crashed {c : Crash} {v' : Supervision}
      (cause : c = .endless ∨ v.crew.progress ≠ .none ∧ ProgressFault c) (after : v.Subsides v') :
      SpawnEnded l s v (.error (.crash c), v')
  /-- The flag went up in the wait for room. -/
  | calledOff {v' : Supervision} (cause : v'.world.isCancelled = true) (after : v.Subsides v') :
      SpawnEnded l s v (.ok (), v')
  /-- The child cannot be evaluated. -/
  | unevaluated {e : ReadError} {v' : Supervision} (cause : l.eval s = .error e)
      (after : v.Subsides v') : SpawnEnded l s v (.error (.ofRead e), v')
  | attempted {o : Order} {u : Supervision} (eval_eq : l.eval s = .ok o) (before : v.Subsides u)
      (room : u.HasRoom) : SpawnEnded l s v (.ok (), startChild o u)

/-- A start command leaves the limit alone. -/
theorem SpawnEnded.limit {l : Launch} {s : Scopes} {r : Except Failure Unit × Supervision}
    (h : SpawnEnded l s v r) : r.2.crew.limit = v.crew.limit := by
  cases h with
  | crashed cause after => exact after.limit
  | calledOff cause after => exact after.limit
  | unevaluated cause after => exact after.limit
  | attempted eval_eq before room => exact (startChild_attempted _ _).limit.trans before.limit

/-- Why a meter has no line. -/
theorem progressFault_of_mute {e : Estimator} {m : Meter} {now : Nat} {c : Crash} (h : m.Mute e now c) :
    ProgressFault c := by
  cases h with
  | left | taken => exact .foreign _
  | count | duration => exact .number _

theorem progressFault_of_writeProgress {c : Crash} (h : v.writeProgress = (.error c, v')) :
    v.crew.progress ≠ .none ∧ ProgressFault c := by
  have idle : v.crew.progress = .none → v.openProgress.crew.progress = .none :=
    v.reports_openProgress.subsides.progress
  rw [writeProgress] at h
  dsimp only at h
  split at h
  · next handle opened =>
    refine ⟨fun none => ?_, ?_⟩
    · rw [idle none] at opened
      cases opened
    · split at h
      · next c' untold =>
        obtain ⟨hc, -⟩ := Prod.mk.inj h
        obtain rfl := Except.error.inj hc
        obtain ⟨m, -, -, mute⟩ := Crew.mute_of_progressText untold
        exact progressFault_of_mute mute
      · split at h
        · cases h
        · obtain ⟨hc, -⟩ := Prod.mk.inj h
          obtain rfl := Except.error.inj hc
          exact .refused _ _
  · cases h

theorem launch_ended (l : Launch) (s : Scopes) {u : Supervision} (before : v.Subsides u)
    (room : u.HasRoom) : SpawnEnded l s v (launch l s u) := by
  have written := u.reports_writeProgress.subsides
  rw [launch]
  split
  · next c v' heq =>
    rw [heq] at written
    obtain ⟨progress, fault⟩ := progressFault_of_writeProgress heq
    exact .crashed (.inr ⟨fun none => progress (before.progress none), fault⟩) (before.trans written)
  · next v' heq =>
    rw [heq] at written
    have after := before.trans written
    split
    · next e cause => exact .unevaluated cause after
    · next o eval_eq =>
      have room' : v'.HasRoom := by
        intro n hn
        rw [written.limit] at hn
        exact Nat.lt_of_le_of_lt written.tracked.length_le (room n hn)
      exact .attempted eval_eq after room'

/-- **How a start command ends.** -/
theorem spawn_ended (l : Launch) (s : Scopes) (patience : Nat) (v : Supervision) :
    SpawnEnded l s v (spawn l s patience v) := by
  rw [spawn]
  split
  · have waited := v.subsides_waitAll none none (v.crew.limit.getD 0) patience
    split
    · next c u heq =>
      rw [heq] at waited
      exact .crashed (.inl (endless_of_waitAll heq)) waited
    · next u heq =>
      rw [heq] at waited
      split
      · next up => exact .calledOff up waited
      · refine launch_ended l s waited fun n hn => ?_
        have few := length_lt_of_waitAll heq
        rw [waited.limit] at hn
        rwa [hn, Option.getD_some] at few
  · next free =>
    refine launch_ended l s (.refl v) fun n hn => ?_
    rw [isFull, hn, Option.any_some, decide_eq_true_eq] at free
    omega

/-! ### Other commands -/

/-- A pause changes nothing but the world. -/
theorem execute_sleep (ms patience : Nat) (s : Scopes) (v : Supervision) :
    (execute patience (.sleep ms) s v).2 = { v with world := (pause ms v.world).2 } := by
  rw [execute]
  split <;> simp only [*]

theorem execute_wait (timeout polls : Option Document) (patience : Nat) (s : Scopes)
    (v : Supervision) :
    (execute patience (.wait timeout polls) s v).2 = (v.waitAll timeout polls 0 patience).2 := by
  rw [execute]
  split <;> simp only [*]

end Sweep.Supervision
