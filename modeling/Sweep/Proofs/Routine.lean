import Sweep.Proofs.Answering
import Sweep.Proofs.Crews

/-!
# What goes on between two starts

Apart from the attempts to start a child, everything that a supervisor does to its world is made of
a few operations: it lets time go by, changes the disk, notes events, writes on status lines, and
sees or kills children.  A relation between worlds that these keep is kept by everything else.

* `World.Routine` — the relation is kept by each of these operations;
* `Routine.await`, `Routine.waitAll`, `Routine.finish`, … — so it is kept by waits, pauses, the
  progress file and the end of a program;
* `World.Launched`, `Routine.start` — an attempt is noted once, then a child may be added, and the
  rest is routine;
* `SpawnRuns`, `spawn_runs` — a start command is routine up to its attempt, if it makes one;
* `Routine.leads` — so what attempts keep as well is kept in every run;
* `World.starts` — the attempts so far with their times, which nothing but an attempt adds to
  (`routine_starts`, `starts_of_launched`).
-/

namespace Sweep

/-- The order of an attempt to start a child, if the event is one. -/
def Event.order? : Event → Option Order
  | spawn o => some o
  | _ => none

/-- The same child in the same state; only what is shown of it may differ. -/
structure Child.Same (c d : Child) : Prop where
  order : d.order = c.order
  pid : d.pid = c.pid
  script : d.script = c.script
  started : d.started = c.started
  killed : d.killed = c.killed
  status : d.status = c.status

namespace World

/-- A relation between worlds that everything keeps but attempts to start a child. -/
structure Routine (R : World → World → Prop) : Prop where
  refl : ∀ w, R w w
  trans : ∀ {w w' w''}, R w w' → R w' w'' → R w w''
  disk : ∀ w disk, R w { w with disk }
  happen : ∀ w e, e.order? = none → R w (w.happen e)
  sleep : ∀ d w, R w (Clocked.sleep d w)
  retouch : ∀ w i f, (∀ c : Child, c.Same (f c)) → R w (w.modifyChild i f)
  check : ∀ i w, R w (w.check i).2
  kill : ∀ i w, R w (w.kill i)

/-- Everything lets the world go on. -/
theorem routine_onward : Routine Onward where
  refl := .refl
  trans := .trans
  disk w d := (w.quiet_disk d).toOnward
  happen w e _ := (w.quiet_happen e).toOnward
  sleep d w := w.onward_sleep d
  retouch w i _ hf := (w.quiet_modifyChild i fun c =>
    ⟨(hf c).order, (hf c).script, (hf c).started, fun killed => (hf c).killed ▸ killed,
      fun _ => (hf c).status⟩).toOnward
  check i w := (w.quiet_check i).toOnward
  kill i w := w.onward_kill i

namespace Routine

variable {R S : World → World → Prop} (h : Routine R)

/-- Two relations at once. -/
theorem and (hR : Routine R) (hS : Routine S) : Routine fun w w' => R w w' ∧ S w w' where
  refl w := ⟨hR.refl w, hS.refl w⟩
  trans first second := ⟨hR.trans first.1 second.1, hS.trans first.2 second.2⟩
  disk w d := ⟨hR.disk w d, hS.disk w d⟩
  happen w e he := ⟨hR.happen w e he, hS.happen w e he⟩
  sleep d w := ⟨hR.sleep d w, hS.sleep d w⟩
  retouch w i f hf := ⟨hR.retouch w i f hf, hS.retouch w i f hf⟩
  check i w := ⟨hR.check i w, hS.check i w⟩
  kill i w := ⟨hR.kill i w, hS.kill i w⟩

include h

/-! ### Children -/

theorem record (w : World) (level : Level) (source message : String)
    (labels : List (String × Document)) : R w (w.record level source message labels) := by
  obtain ⟨r, disk, eq⟩ := w.record_eq level source message labels
  rw [eq]
  exact h.trans (h.happen w (.record r) rfl) (h.disk _ disk)

theorem modifyLine (w : World) (i : Nat) (f : StatusLine → StatusLine) : R w (w.modifyLine i f) :=
  h.retouch w i _ fun _ => ⟨rfl, rfl, rfl, rfl, rfl, rfl⟩

theorem sleepUnlessCancelled (w : World) (micros : Nat) : R w (w.sleepUnlessCancelled micros) := by
  rw [World.sleepUnlessCancelled]
  split
  · exact h.refl w
  · split
    · exact h.sleep _ w
    · exact h.sleep _ w

theorem checkOrKill (i : Nat) (w : World) : R w (w.checkOrKill i).2 := by
  rw [World.checkOrKill]
  split
  · exact h.kill i w
  · exact h.check i w

theorem keeps_checkOrKill (i : Nat) (w : World) : Wait.Keeps (World.checkOrKill i) (R w ·) where
  ask u hu := h.trans hu (h.checkOrKill i u)
  sleep d u hu := h.trans hu (h.sleep d u)

theorem await (i : Nat) (plan : WaitPlan) (patience : Nat) (w : World) :
    R w (w.await i plan patience).2 := by
  have kept := Wait.run_keeps (h.keeps_checkOrKill i w) plan patience (h.refl w)
  rw [World.await]
  split
  · next heq =>
    rw [heq] at kept
    exact h.trans (h.trans kept (h.record _ _ _ _ _)) (h.kill _ _)
  · exact kept

/-! ### Streams -/

theorem showStream (i : Nat) (tracker : Text.LineTracker) (stream : List Chunk) (w : World) :
    R w (World.showStream i tracker stream w) := by
  induction stream generalizing tracker w with
  | nil =>
    rw [World.showStream]
    split
    · exact h.refl w
    · exact h.modifyLine w i _
  | cons chunk rest ih =>
    cases chunk with
    | data bytes => exact h.trans (h.modifyLine w i _) (ih _ _)
    | fault e => exact h.modifyLine w i _

theorem saveStream (i : Nat) (channel : Channel) (path : Pathname) (handle : Disk.Handle)
    (stream : List Chunk) (w : World) : R w (World.saveStream i channel path handle stream w) := by
  induction stream generalizing w with
  | nil => exact h.refl w
  | cons chunk rest ih =>
    cases chunk with
    | fault e => exact h.refl w
    | data bytes =>
      rw [World.saveStream]
      split
      · exact h.trans (h.disk w _) (ih _)
      · refine h.trans ?_ (h.showStream _ _ _ _)
        exact h.trans (h.record _ _ _ _ _) (h.modifyLine _ _ _)

theorem routeToFile (i : Nat) (channel : Channel) (path : Pathname) (emptied : Bool)
    (stream : List Chunk) (w : World) : R w (w.routeToFile i channel path emptied stream).2 := by
  rw [World.routeToFile]
  split
  · exact h.refl w
  · have made := h.disk w (w.disk.makeDirectories path.parent).2
    dsimp only
    split
    · exact made
    · split
      · exact h.trans (h.trans made (h.disk _ _)) (h.saveStream _ _ _ _ _ _)
      · refine h.trans ?_ (h.showStream _ _ _ _)
        exact h.trans (h.trans made (h.record _ _ _ _ _)) (h.modifyLine _ _ _)

theorem route (i : Nat) (channel : Channel) (stream : List Chunk) (w : World)
    (r : Routing Pathname) : R w (w.route i channel stream r).2 := by
  cases r with
  | print => exact h.showStream _ _ _ _
  | create path => exact h.routeToFile _ _ _ _ _ _
  | append path => exact h.routeToFile _ _ _ _ _ _

end Routine

/-! ### Attempts -/

/-- An attempt to start a child is noted and counted. -/
def attempt (w : World) (o : Order) : World :=
  { w.happen (.spawn o) with attempts := w.attempts + 1 }

/-- A new child is there. -/
def adopt (w : World) (c : Child) : World := { w with children := w.children.push c }

/-- There was one attempt to start a child.  A child that was added to the world then was running
and had not been killed, and the rest was routine. -/
inductive Launched (R : World → World → Prop) (o : Order) (w w' : World) : Prop where
  | refused (after : R (w.attempt o) w')
  | added {c : Child} (running : c.status = .running) (alive : c.killed = false)
      (after : R ((w.attempt o).adopt c) w')

namespace Routine

variable {R : World → World → Prop} (h : Routine R)

include h

theorem launched_trans {o : Order} {w w' w'' : World} (first : Launched R o w w')
    (after : R w' w'') : Launched R o w w'' := by
  cases first with
  | refused before => exact .refused (h.trans before after)
  | added running alive before => exact .added running alive (h.trans before after)

theorem of_route {i : Nat} {channel : Channel} {stream : List Chunk} {w w' : World}
    {r : Routing Pathname} {somewhere : Bool}
    (routed : w.route i channel stream r = (somewhere, w')) : R w w' := by
  have after := h.route i channel stream w r
  rwa [routed] at after

theorem leaveUnrouted (i : Nat) (w : World) : R w (w.leaveUnrouted i).2 :=
  h.retouch w i _ fun _ => ⟨rfl, rfl, rfl, rfl, rfl, rfl⟩

/-- **An attempt is noted once**, and then everything is routine. -/
theorem start (o : Order) (shown : Option Int) (w : World) :
    Launched R o w (w.start o shown).2 := by
  rw [World.start]
  dsimp only
  split
  · exact .refused (h.refl _)
  · have added {w' : World} (after : R ((w.attempt o).adopt {
          order := o, pid := pidBase + (w.attempts + 1), script := (w.scripts[w.attempts]?).getD {}
          started := w.now, line := { label := o.label shown } }) w') : Launched R o w w' :=
      .added rfl rfl after
    split
    · next u out => exact added (h.trans (h.of_route out) (h.leaveUnrouted _ _))
    · next u out =>
      split
      · next v err =>
        have routed := h.trans (h.of_route out) (h.of_route err)
        exact added (h.trans routed (h.leaveUnrouted _ _))
      · next v err =>
        have routed := h.trans (h.of_route out) (h.of_route err)
        exact added (h.trans routed (h.record _ _ _ _ _))

end Routine

end World

/-! ### Supervision -/

namespace World.Routine

open Supervision

variable {R : World → World → Prop} (h : Routine R)

include h

theorem killAll (is : List Nat) (w : World) : R w (is.foldl (fun w i => w.kill i) w) := by
  induction is generalizing w with
  | nil => exact h.refl w
  | cons i rest ih => exact h.trans (h.kill i w) (ih _)

theorem killTracked (v : Supervision) : R v.world v.killTracked.world := h.killAll _ _

theorem stopAll (v : Supervision) : R v.world v.stopAll.world := by
  rw [Supervision.stopAll]
  dsimp only
  split
  · exact h.killTracked v
  · exact h.trans (h.killTracked v) (h.record _ _ _ _ _)

theorem sleepUntil (moment slices : Nat) (w : World) :
    R w (Supervision.sleepUntil moment slices w) := by
  induction slices generalizing w with
  | zero => exact h.refl w
  | succ slices ih =>
    rw [Supervision.sleepUntil]
    split
    · exact h.refl w
    · exact h.trans (h.sleepUnlessCancelled w _) (ih _)

theorem pause (ms : Nat) (w : World) : R w (Supervision.pause ms w).2 := by
  rw [Supervision.pause]
  split
  · exact h.refl w
  · exact h.sleepUntil _ _ _

theorem sweepChildren (is : List Nat) (w : World) : R w (Supervision.sweepChildren is w).2 := by
  induction is generalizing w with
  | nil => exact h.refl w
  | cons i rest ih =>
    have seen := h.check i w
    rw [Supervision.sweepChildren]
    split
    · next heq =>
      rw [heq] at seen
      exact h.trans seen (ih _)
    · next heq =>
      rw [heq] at seen
      exact h.trans seen (ih _)

theorem poll (threshold : Nat) (v : Supervision) : R v.world (poll threshold v).2.world := by
  rw [Supervision.poll]
  split
  · exact h.refl _
  · exact h.sweepChildren _ _

theorem keeps_poll (threshold : Nat) (v : Supervision) :
    Wait.Keeps (Supervision.poll threshold) fun u => R v.world u.world where
  ask u hu := h.trans hu (h.poll threshold u)
  sleep d u hu := h.trans hu (h.sleep d u.world)

theorem waitFor (timeout : Option Document) (plan : WaitPlan) (threshold patience : Nat)
    (v : Supervision) : R v.world (v.waitFor timeout plan threshold patience).2.world := by
  have kept := Wait.run_keeps (h.keeps_poll threshold v) plan patience (h.refl _)
  rw [Supervision.waitFor]
  split
  · next heq =>
    rw [heq] at kept
    dsimp only
    split
    · exact h.trans kept (h.stopAll _)
    · exact kept
  · next heq =>
    rw [heq] at kept
    exact h.trans (h.trans kept (h.record _ _ _ _ _)) (h.killAll _ _)
  · next heq => rwa [heq] at kept
  · next heq => rwa [heq] at kept

theorem waitAll (timeout polls : Option Document) (remaining patience : Nat) (v : Supervision) :
    R v.world (v.waitAll timeout polls remaining patience).2.world := by
  rw [Supervision.waitAll]
  split
  · split
    · exact h.refl _
    · exact h.refl _
  · split
    · exact h.refl _
    · exact h.waitFor _ _ _ _ _

theorem openProgress (v : Supervision) : R v.world v.openProgress.world := by
  rw [Supervision.openProgress]
  split
  · next path _ =>
    have made := h.disk v.world (v.world.disk.makeDirectories path.parent).2
    dsimp only
    split
    · exact h.trans made (h.disk _ _)
    · exact h.trans made (h.record _ _ _ _ _)
  · exact h.refl _

theorem writeProgress (v : Supervision) : R v.world v.writeProgress.2.world := by
  have opened := h.openProgress v
  rw [Supervision.writeProgress]
  dsimp only
  split
  · split
    · exact opened
    · split
      · exact h.trans opened (h.disk _ _)
      · exact opened
  · exact opened

theorem visit (names : NameTable) (x : NameId) (position : Int) (value : Value) (s : Scopes)
    (v : Supervision) : R v.world (v.visit names x position value s).2.world := by
  rw [Supervision.visit]
  dsimp only
  split
  · exact h.refl _
  · exact h.happen _ _ rfl

theorem drain (patience : Nat) (is : List Nat) (w : World) :
    R w (Supervision.drain patience is w).2 := by
  induction is generalizing w with
  | nil => exact h.refl w
  | cons i rest ih =>
    have waited := h.await i (.lasting none) patience w
    rw [Supervision.drain]
    split
    · next heq => rwa [heq] at waited
    · next heq => rwa [heq] at waited
    · next heq =>
      rw [heq] at waited
      exact h.trans waited (ih _)

theorem finish (patience : Nat) (v : Supervision) : R v.world (v.finish patience).2.world := by
  have drained := h.drain patience v.crew.tracked v.world
  rw [Supervision.finish]
  split
  · next heq => rwa [heq] at drained
  · next w heq =>
    rw [heq] at drained
    dsimp only
    split
    · exact h.trans drained (h.stopAll { v with world := w })
    · exact drained

theorem stop (names : NameTable) (patience : Nat) (position : Int) (v : Supervision) :
    R v.world ((executor names patience).stop position v).world :=
  h.trans (h.record v.world _ _ _ _) (h.stopAll { v with world := v.world.recordStop position })

theorem startChild (o : Order) (v : Supervision) :
    World.Launched R o v.world (v.startChild o).world := by
  have launched := h.start o v.crew.labelArguments v.world
  have told (w : World) (message : String) : R w ((w.record .error Source.supervision message
      [("event", .text "spawn_failed")]).print message) :=
    h.trans (h.record _ _ _ _ _) (h.happen _ _ rfl)
  rw [Supervision.startChild]
  split
  · next heq => rwa [heq] at launched
  · next heq =>
    rw [heq] at launched
    exact h.launched_trans launched (told _ _)
  · next heq =>
    rw [heq] at launched
    exact h.launched_trans launched (told _ _)

end World.Routine

namespace Supervision

/-- How a start command ends, with what is routine about it. -/
inductive SpawnRuns (R : World → World → Prop) (l : Launch) (s : Scopes) (v : Supervision) :
    Except Failure Unit × Supervision → Prop where
  | crashed {c : Crash} {v' : Supervision} (after : R v.world v'.world) :
      SpawnRuns R l s v (.error (.crash c), v')
  /-- The flag is up, and no child is started. -/
  | calledOff {v' : Supervision} (up : v'.world.isCancelled = true) (after : R v.world v'.world) :
      SpawnRuns R l s v (.ok (), v')
  /-- The child cannot be evaluated. -/
  | unevaluated {e : ReadError} {v' : Supervision} (cause : l.eval s = .error e)
      (after : R v.world v'.world) : SpawnRuns R l s v (.error (.ofRead e), v')
  /-- There is an attempt, and the flag was not seen to be up before it. -/
  | attempted {o : Order} {u : Supervision} (eval_eq : l.eval s = .ok o)
      (before : R v.world u.world)
      (down : v.world.isCancelled = false → u.world.isCancelled = false) :
      SpawnRuns R l s v (.ok (), startChild o u)

variable {R : World → World → Prop} {v u : Supervision}

theorem launch_runs (h : World.Routine R) (l : Launch) (s : Scopes) (before : R v.world u.world)
    (down : v.world.isCancelled = false → u.world.isCancelled = false) :
    SpawnRuns R l s v (launch l s u) := by
  have written := h.writeProgress u
  have quiet := u.reports_writeProgress.world
  rw [launch]
  split
  · next heq =>
    rw [heq] at written
    exact .crashed (h.trans before written)
  · next v' heq =>
    rw [heq] at written quiet
    have after := h.trans before written
    split
    · next e cause => exact .unevaluated cause after
    · next o eval_eq =>
      exact .attempted eval_eq after fun hv => quiet.isCancelled_eq.trans (down hv)

/-- **A start command is routine up to its attempt.** -/
theorem spawn_runs (h : World.Routine R) (l : Launch) (s : Scopes) (patience : Nat)
    (v : Supervision) : SpawnRuns R l s v (spawn l s patience v) := by
  rw [spawn]
  split
  · have waited := h.waitAll none none (v.crew.limit.getD 0) patience v
    split
    · next heq =>
      rw [heq] at waited
      exact .crashed waited
    · next u heq =>
      rw [heq] at waited
      split
      · next up => exact .calledOff up waited
      · next down => exact launch_runs h l s waited fun _ => Bool.not_eq_true _ ▸ down
  · exact launch_runs h l s (h.refl _) id

end Supervision

namespace World.Routine

open Supervision

variable {R : World → World → Prop}

/-- **What is kept by everything, the attempts included, is kept by what runs command programs.** -/
theorem leads (h : Routine R) (attempt : ∀ w o, R w (w.attempt o))
    (adopt : ∀ w c, c.status = .running → c.killed = false → R w (w.adopt c)) (names : NameTable)
    (patience : Nat) : (executor names patience).Leads fun v v' => R v.world v'.world where
  refl v := h.refl v.world
  trans := h.trans
  execute c s v := by
    show R v.world (execute patience c s v).2.world
    cases c with
    | limit n => exact h.refl v.world
    | sleep ms =>
      rw [execute_sleep]
      exact h.pause ms v.world
    | spawn l =>
      have runs := spawn_runs h l s patience v
      change R v.world (spawn l s patience v).2.world
      generalize spawn l s patience v = r at runs ⊢
      cases runs with
      | crashed after | calledOff up after | unevaluated cause after => exact after
      | @attempted o u eval_eq before down =>
        refine h.trans before ?_
        cases h.startChild o u with
        | refused after => exact h.trans (attempt _ o) after
        | added running alive after =>
          exact h.trans (attempt _ o) (h.trans (adopt _ _ running alive) after)
    | wait timeout polls =>
      rw [execute_wait]
      exact h.waitAll timeout polls 0 patience v
  visit x position value s v := h.visit names x position value s v
  finish s v := h.finish patience v
  stop position v := h.stop names patience position v

end World.Routine

/-! ### The attempts so far -/

namespace World

variable {w w' : World}

/-- The attempts to start a child so far, with their times. -/
def starts (w : World) : List (Nat × Order) :=
  w.events.toList.filterMap fun e => e.2.order?.map (e.1, ·)

theorem starts_happen (w : World) (e : Event) :
    (w.happen e).starts = w.starts ++ (e.order?.map (w.now, ·)).toList := by
  simp only [starts, happen, Array.toList_push, List.filterMap_append]
  cases h : e.order? <;> simp [h]

theorem starts_happen_of_none {e : Event} (h : e.order? = none) :
    (w.happen e).starts = w.starts := by
  rw [starts_happen, h]
  exact List.append_nil _

/-- A look at a child is no attempt to start one. -/
theorem starts_check (i : Nat) (w : World) : (w.check i).2.starts = w.starts := by
  have ends := w.check_ends i
  generalize w.check i = r at ends ⊢
  cases ends with
  | known | refused | running => rfl
  | exited => exact starts_happen_of_none rfl

/-- Killing a child is no attempt to start one. -/
theorem starts_kill (i : Nat) (w : World) : (w.kill i).starts = w.starts := by
  have ends := w.kill_ends i
  generalize w.kill i = u at ends ⊢
  have noted (c : Child) (r : Record) :
      ((w.happen (.kill c.pid)).happen (.record r)).starts = w.starts :=
    (starts_happen_of_none rfl).trans (starts_happen_of_none rfl)
  cases ends with
  | seen => exact starts_check i w
  | refused => exact noted _ _
  | obeyed => exact noted _ _
  | stubborn => exact (starts_happen_of_none rfl).trans (noted _ _)

/-- **Only attempts are noted as attempts.** -/
theorem routine_starts : Routine fun w w' => w'.starts = w.starts where
  refl _ := rfl
  trans first second := second.trans first
  disk _ _ := rfl
  happen _ _ h := starts_happen_of_none h
  sleep _ _ := rfl
  retouch _ _ _ _ := rfl
  check := starts_check
  kill := starts_kill

theorem starts_attempt (w : World) (o : Order) :
    (w.attempt o).starts = w.starts ++ [(w.now, o)] := starts_happen w (.spawn o)

/-- An attempt is noted once, with its time. -/
theorem starts_of_launched {R : World → World → Prop}
    (keeps : ∀ {w w'}, R w w' → w'.starts = w.starts) {o : Order} (h : Launched R o w w') :
    w'.starts = w.starts ++ [(w.now, o)] := by
  cases h with
  | refused after => exact (keeps after).trans (starts_attempt w o)
  | added running alive after => exact (keeps after).trans (starts_attempt w o)

end World

end Sweep
