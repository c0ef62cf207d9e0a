import Mathlib.Logic.Relation
import Sweep.Proofs.Answering
import Sweep.Proofs.Crews

/-!
# Tracked and registered children

A crew keeps two lists: the children that it looks after, and all children that were started for its
program.  A child that is in the second list only is forgotten, so nothing will ever kill it.  The crew
is in order when such children are over already.

* `Move` — everything that can happen to a crew, in five cases; `moves_execute`, `moves_reset` and
  `Operation.moves` say that each operation is a chain of moves;
* `InOrder` — the lists of a crew agree with each other and with its world; `InOrder.move` is the step
  and `InOrder.moves` the induction;
* `Operation`, `after` — what can be asked of a crew, and the crew after a list of requests;
* `tracked_in_order` — the crew is in order after every list of requests, and no child is left after
  those that wait, finish, stop or reset.
-/

namespace Sweep.Supervision

variable {v v' : Supervision}

/-! ### What can happen to a crew -/

/-- One thing that happens to a crew. -/
inductive Move : Supervision → Supervision → Prop where
  | subsides {v v' : Supervision} (h : v.Subsides v') : Move v v'
  | limited (v : Supervision) (n : Nat) : Move v { v with crew := { v.crew with limit := some n } }
  | attempted {o : Order} {v v' : Supervision} (h : Attempted o v v') : Move v v'
  | raised (v : Supervision) : Move v { v with world := v.world.raise }
  /-- A new crew takes over when no child is tracked. -/
  | renewed {v : Supervision} (empty : v.crew.tracked = []) :
      Move v { v with crew := v.crew.renewed }

/-- Several things happen to a crew. -/
def Moves : Supervision → Supervision → Prop := Relation.ReflTransGen Move

namespace Moves

theorem refl (v : Supervision) : v.Moves v := Relation.ReflTransGen.refl

theorem trans {v'' : Supervision} (h₁ : v.Moves v') (h₂ : v'.Moves v'') : v.Moves v'' :=
  Relation.ReflTransGen.trans h₁ h₂

theorem of_subsides (h : v.Subsides v') : v.Moves v' := .single (.subsides h)

end Moves

theorem SpawnEnded.moves {l : Launch} {s : Scopes} {r : Except Failure Unit × Supervision}
    (h : SpawnEnded l s v r) : v.Moves r.2 := by
  cases h with
  | crashed cause after => exact .of_subsides after
  | calledOff cause after => exact .of_subsides after
  | unevaluated cause after => exact .of_subsides after
  | attempted eval_eq before room =>
    exact (Moves.of_subsides before).tail (.attempted (startChild_attempted _ _))

theorem moves_execute (patience : Nat) (c : Command) (s : Scopes) (v : Supervision) :
    v.Moves (execute patience c s v).2 := by
  cases c with
  | limit n => exact .single (.limited v n)
  | sleep ms =>
    rw [execute_sleep]
    exact .of_subsides (.of_onward (onward_pause ms v.world))
  | spawn l => exact (spawn_ended l s patience v).moves
  | wait timeout polls =>
    rw [execute_wait]
    exact .of_subsides (v.subsides_waitAll timeout polls 0 patience)

/-- A reset is a wait, a stop, and a change of crews. -/
theorem moves_reset (patience : Nat) (v : Supervision) : v.Moves (reset patience v).2 := by
  have waited := v.subsides_waitAll none none 0 patience
  rw [reset]
  split
  · next heq =>
    rw [heq] at waited
    exact .of_subsides waited
  · next u heq =>
    rw [heq] at waited
    exact (Moves.of_subsides (waited.trans u.subsides_stopAll)).tail (.renewed rfl)

/-- What runs command programs makes a crew move, and does nothing else. -/
theorem leads_executor (names : NameTable) (patience : Nat) :
    (executor names patience).Leads Moves where
  refl := .refl
  trans := .trans
  execute c s v := moves_execute patience c s v
  visit x position value s v := .of_subsides (v.subsides_visit names x position value s)
  finish s v := .of_subsides (v.subsides_finish patience)
  stop position v := by
    have noted := (v.world.quiet_record .debug Source.machine
      ("Shutdown requested at instruction " ++ toString position) []).toOnward
    exact .of_subsides ((Subsides.of_onward noted).trans (subsides_stopAll _))

/-! ### Crews in order -/

/-- The lists of a crew agree with each other and with its world. -/
structure InOrder (v : Supervision) : Prop where
  sublist : v.crew.tracked.Sublist v.crew.spawned
  nodup : v.crew.spawned.Nodup
  started : ∀ i ∈ v.crew.spawned, i < v.world.children.size
  gone : ∀ i ∈ v.crew.spawned, i ∉ v.crew.tracked → v.world.IsOver i

/-- A crew without children is in order in every world. -/
theorem inOrder_of_nil (tracked : v.crew.tracked = []) (spawned : v.crew.spawned = []) :
    v.InOrder where
  sublist := by
    rw [tracked]
    exact List.nil_sublist _
  nodup := by
    rw [spawned]
    exact .nil
  started i hi := by
    rw [spawned] at hi
    cases hi
  gone i hi := by
    rw [spawned] at hi
    cases hi

namespace InOrder

/-- Time goes by, and the two lists stay as they are. -/
theorem later {w : World} {c : Crew} (h : v.InOrder) (later : v.world.Later w)
    (tracked : c.tracked = v.crew.tracked) (spawned : c.spawned = v.crew.spawned) :
    InOrder ⟨c, w⟩ where
  sublist := by
    rw [tracked, spawned]
    exact h.sublist
  nodup := by
    rw [spawned]
    exact h.nodup
  started i hi := by
    rw [spawned] at hi
    exact Nat.lt_of_lt_of_le (h.started i hi) later.size_le
  gone i hi hn := by
    rw [spawned] at hi
    rw [tracked] at hn
    exact (h.gone i hi hn).later later

theorem subsides (h : v.InOrder) (after : v.Subsides v') : v'.InOrder where
  sublist := by
    rw [after.spawned]
    exact after.tracked.trans h.sublist
  nodup := by
    rw [after.spawned]
    exact h.nodup
  started i hi := by
    rw [after.spawned] at hi
    rw [after.world.no_child]
    exact h.started i hi
  gone i hi hn := by
    rw [after.spawned] at hi
    by_cases before : i ∈ v.crew.tracked
    · exact after.gone i before (h.started i hi) hn
    · exact (h.gone i hi before).later after.world.toLater

/-- A new child is registered and tracked. -/
theorem registered {o : Order} {i : Nat} {w : World} (h : v.InOrder) (after : v.world.Started w o i) :
    InOrder ⟨{ v.crew with tracked := v.crew.tracked ++ [i], spawned := v.crew.spawned ++ [i] }, w⟩ where
  sublist := h.sublist.append_right [i]
  nodup := by
    have fresh : i ∉ v.crew.spawned := by
      intro hi
      have old := h.started i hi
      have number := after.number
      omega
    exact List.nodup_append.2 ⟨h.nodup, List.pairwise_singleton _ i, fun j hj k hk => by
      rw [List.mem_singleton.1 hk]
      exact fun same => fresh (same ▸ hj)⟩
  started j hj := by
    rcases List.mem_append.1 hj with hj | hj
    · exact Nat.lt_of_lt_of_le (h.started j hj) after.size_le
    · rw [List.mem_singleton] at hj
      exact hj ▸ after.lt_size
  gone j hj hn := by
    rw [List.mem_append, not_or] at hn
    exact (h.gone j ((List.mem_append.1 hj).resolve_right hn.2) hn.1).later after.toLater

theorem move (h : v.InOrder) (m : Move v v') : v'.InOrder := by
  cases m with
  | subsides after => exact h.subsides after
  | limited n => exact h.later (.refl _) rfl rfl
  | attempted after =>
    cases after with
    | refused world => exact h.later world.toLater rfl rfl
    | registered world => exact h.registered world
    | stray cause world => exact h.later world.toLater rfl rfl
  | raised => exact ⟨h.sublist, h.nodup, h.started, h.gone⟩
  | renewed empty => exact inOrder_of_nil rfl rfl

/-- **A crew in order stays in order.** -/
theorem moves (h : v.InOrder) (m : v.Moves v') : v'.InOrder := by
  induction m with
  | refl => exact h
  | tail _ last ih => exact ih.move last

/-- When no child is tracked any more, every child that was registered is over. -/
theorem all_over (h : v.InOrder) (after : v.Subsides v') (empty : v'.crew.tracked = []) :
    ∀ i ∈ v.crew.spawned, v'.world.IsOver i := by
  intro i hi
  refine (h.subsides after).gone i (after.spawned.symm ▸ hi) ?_
  rw [empty]
  exact List.not_mem_nil

end InOrder

/-! ### Requests -/

/-- What can be asked of a crew.  The flag may go up between two requests. -/
inductive Operation where
  | execute (c : Command) (s : Scopes)
  | visit (x : NameId) (position : Int) (value : Value) (s : Scopes)
  | finish
  | stop
  | reset
  | raise

namespace Operation

/-- Do what is asked. -/
def run (names : NameTable) (patience : Nat) (op : Operation) (v : Supervision) :
    Except Failure Unit × Supervision :=
  match op with
  | execute c s => Supervision.execute patience c s v
  | visit x position value s => Supervision.visit names x position value s v
  | finish =>
    match Supervision.finish patience v with
    | (.ok (), v) => (.ok (), v)
    | (.error c, v) => (.error (.crash c), v)
  | stop => (.ok (), v.stopAll)
  | reset =>
    match Supervision.reset patience v with
    | (.ok (), v) => (.ok (), v)
    | (.error c, v) => (.error (.crash c), v)
  | raise => (.ok (), { v with world := v.world.raise })

/-- The requests that leave no child behind. -/
def drains : Operation → Bool
  | execute (.wait _ _) _ | finish | stop | reset => true
  | _ => false

end Operation

/-- The crew after a list of requests, whether or not they fail. -/
def after (names : NameTable) (patience : Nat) (ops : List Operation) (v : Supervision) : Supervision :=
  ops.foldl (fun v op => (op.run names patience v).2) v

namespace Operation

theorem moves (names : NameTable) (patience : Nat) (op : Operation) (v : Supervision) :
    v.Moves (op.run names patience v).2 := by
  cases op with
  | execute c s => exact moves_execute patience c s v
  | visit x position value s => exact .of_subsides (v.subsides_visit names x position value s)
  | finish =>
    have finished := v.subsides_finish patience
    rw [run]
    split
    · next heq =>
      rw [heq] at finished
      exact .of_subsides finished
    · next heq =>
      rw [heq] at finished
      exact .of_subsides finished
  | stop => exact .of_subsides v.subsides_stopAll
  | reset =>
    have renewed := moves_reset patience v
    rw [run]
    split
    · next heq => rwa [heq] at renewed
    · next heq => rwa [heq] at renewed
  | raise => exact .single (.raised v)

end Operation

theorem moves_after (names : NameTable) (patience : Nat) (ops : List Operation) (v : Supervision) :
    v.Moves (after names patience ops v) := by
  induction ops generalizing v with
  | nil => exact .refl v
  | cons op rest ih => exact (op.moves names patience v).trans (ih _)

theorem tracked_eq_nil_of_reset {patience : Nat} (h : reset patience v = (.ok (), v')) :
    v'.crew.tracked = [] := by
  rw [reset] at h
  split at h
  · cases h
  · obtain ⟨-, rfl⟩ := Prod.mk.inj h
    rfl

theorem all_over_of_reset {patience : Nat} (h : v.InOrder) (reset_eq : reset patience v = (.ok (), v')) :
    ∀ i ∈ v.crew.spawned, v'.world.IsOver i := by
  have waited := v.subsides_waitAll none none 0 patience
  rw [reset] at reset_eq
  split at reset_eq
  · cases reset_eq
  · next u heq =>
    rw [heq] at waited
    obtain ⟨-, rfl⟩ := Prod.mk.inj reset_eq
    have gone := h.all_over (waited.trans u.subsides_stopAll) rfl
    exact gone

/-- **After a request that leaves no child behind, none is tracked, and all that were registered before
it are over.** -/
theorem all_over_of_drains {names : NameTable} {patience : Nat} {op : Operation} (h : v.InOrder)
    (ok : (op.run names patience v).1 = .ok ()) (drains : op.drains = true) :
    (op.run names patience v).2.crew.tracked = [] ∧
      ∀ i ∈ v.crew.spawned, (op.run names patience v).2.world.IsOver i := by
  have drained {v' : Supervision} (after : v.Subsides v') (empty : v'.crew.tracked = []) :
      v'.crew.tracked = [] ∧ ∀ i ∈ v.crew.spawned, v'.world.IsOver i :=
    ⟨empty, h.all_over after empty⟩
  cases op with
  | visit | raise => cases drains
  | execute c s =>
    cases c with
    | limit | sleep | spawn => cases drains
    | wait timeout polls =>
      have waited := v.subsides_waitAll timeout polls 0 patience
      rw [Operation.run, execute] at ok ⊢
      split at ok
      · next heq =>
        rw [heq] at waited
        exact drained waited (tracked_eq_nil_of_waitAll heq)
      · cases ok
  | finish =>
    have finished := v.subsides_finish patience
    rw [Operation.run] at ok ⊢
    split at ok
    · next heq =>
      rw [heq] at finished
      exact drained finished (tracked_eq_nil_of_finish heq)
    · cases ok
  | stop => exact drained v.subsides_stopAll rfl
  | reset =>
    rw [Operation.run] at ok ⊢
    split at ok
    · next heq => exact ⟨tracked_eq_nil_of_reset heq, all_over_of_reset h heq⟩
    · cases ok

theorem inOrder_after (names : NameTable) (patience : Nat) (ops : List Operation)
    (progress : ProgressFile) (labelArguments : Option Int) (w : World) :
    (after names patience ops ⟨{ progress, labelArguments }, w⟩).InOrder :=
  (inOrder_of_nil rfl rfl).moves (moves_after names patience ops _)

theorem ok_of_isOk {ε : Type} {r : Except ε Unit} (h : r.isOk = true) : r = .ok () := by
  cases r with
  | ok => rfl
  | error => cases h

/-- A request to start a child by a command. -/
def starting (command : String) : Operation := .execute (.spawn { command := [.literal command] }) []

end Sweep.Supervision
