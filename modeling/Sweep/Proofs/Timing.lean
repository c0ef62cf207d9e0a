import Sweep.Proofs.Mirroring
import Sweep.Proofs.Routine
import Sweep.Proofs.Tracking

/-!
# Timing changes nothing

Which children a command program tries to start, in which order, how it ends and which scopes it
leaves is a matter of the program and the scopes alone.  When its children exit and with what code,
what they write, which operations the system refuses, how many children may run at once and how long
the program pauses can only delay it.

* `recital` — what a program asks for, apart from all timing: the orders of its start commands;
* `mirrors_recital` — a supervisor answers as the recital does, unless it crashes or the flag goes up;
* `timing_changes_nothing` — so any two runs that are completed or fail are the same.
-/

namespace Sweep

/-- The orders of all attempts to start a child so far. -/
def World.orders (w : World) : List Order := w.starts.map Prod.snd

/-- What a start command starts. -/
def Command.launch? : Command → Option Launch
  | spawn l => some l
  | _ => none

namespace Supervision

open Machine

variable {v v' : Supervision}

/-- What a command program asks for, apart from all timing: its world are the orders so far. -/
def recital : Executor (Option Launch) (List Order) where
  execute c s orders :=
    match c with
    | none => (.ok (), s, orders)
    | some l => reading (l.eval s) s orders fun o => (.ok (), s, orders ++ [o])
  visit _ position value s orders :=
    reading (elementText s position value) s orders fun _ => (.ok (), s, orders)
  finish s orders := (.ok (), s, orders)
  stop _ orders := orders

/-- The orders in the world of a crew are those from before the run and those of the recital. -/
def Recites (before : List Order) (v : Supervision) (orders : List Order) : Prop :=
  v.world.orders = before ++ orders

theorem Recites.of_starts {before orders : List Order} (h : Recites before v orders)
    (same : v'.world.starts = v.world.starts) : Recites before v' orders := by
  rw [Recites, World.orders, same]
  exact h

/-- Whatever happens to a crew, a flag that is up stays up. -/
theorem Moves.isCancelled (m : v.Moves v') (up : v.world.isCancelled = true) :
    v'.world.isCancelled = true := by
  induction m with
  | refl => exact up
  | tail _ last ih =>
    cases last with
    | subsides after => exact after.world.isCancelled ih
    | limited | renewed => exact ih
    | attempted after => exact after.later.isCancelled ih
    | raised => simp [World.isCancelled, World.raise]

/-- **A command has the answer of the recital**, unless it crashes or the flag goes up. -/
theorem agrees_execute (patience : Nat) (c : Command) (s : Scopes) {before orders : List Order}
    (h : Recites before v orders) :
    Agrees (fun v => v.world.isCancelled = true) (Recites before)
      ((execute patience c s v).1, s, (execute patience c s v).2)
      (recital.execute c.launch? s orders) := by
  have routine := World.routine_starts
  cases c with
  | limit n => exact .same rfl rfl h
  | sleep ms =>
    have same := routine.pause ms v.world
    rw [execute]
    split
    · next heq =>
      rw [heq] at same
      exact .same rfl rfl (h.of_starts same)
    · exact .crashed rfl
  | spawn l =>
    have runs := spawn_runs routine l s patience v
    change Agrees _ _ ((spawn l s patience v).1, s, (spawn l s patience v).2) _
    generalize spawn l s patience v = r at runs ⊢
    cases runs with
    | crashed after => exact .crashed rfl
    | calledOff up after => exact .lost up
    | unevaluated cause after =>
      change Agrees _ _ _ (reading (l.eval s) s orders _)
      rw [cause]
      exact .same rfl rfl (h.of_starts after)
    | @attempted o u eval_eq same down =>
      change Agrees _ _ _ (reading (l.eval s) s orders _)
      rw [eval_eq]
      refine .same rfl rfl ?_
      have noted := World.starts_of_launched id (routine.startChild o u)
      have said : v.world.orders = before ++ orders := h
      show (startChild o u).world.orders = before ++ (orders ++ [o])
      rw [World.orders, noted, same, List.map_append, ← List.append_assoc, ← said]
      rfl
  | wait timeout polls =>
    have same := routine.waitAll timeout polls 0 patience v
    rw [execute]
    split
    · next heq =>
      rw [heq] at same
      exact .same rfl rfl (h.of_starts same)
    · exact .crashed rfl

/-- A loop variable gets the answer of the recital, also where its text cannot be read. -/
theorem agrees_visit (names : NameTable) (x : NameId) (position : Int) (value : Value) (s : Scopes)
    {before orders : List Order} (h : Recites before v orders) :
    Agrees (fun v => v.world.isCancelled = true) (Recites before)
      ((visit names x position value s v).1, s, (visit names x position value s v).2)
      (recital.visit x position value s orders) := by
  have same := h.of_starts (World.routine_starts.visit names x position value s v)
  change Agrees _ _ _ (reading (elementText s position value) s orders _)
  cases text : elementText s position value with
  | error e => exact .same (by simp only [visit, text, reading]) rfl same
  | ok t => exact .same (by simp only [visit, text, reading]) rfl same

/-- **A supervisor answers as the recital does**, unless it crashes or the flag goes up. -/
theorem mirrors_recital (names : NameTable) (patience : Nat) (before : List Order) :
    (executor names patience).Mirrors recital Command.launch? (fun v => v.world.isCancelled = true)
      (Recites before) where
  leads := (leads_executor names patience).keeps Moves.isCancelled
  execute c s _ _ h := agrees_execute patience c s h
  visit x position value s _ _ h := agrees_visit names x position value s h
  finish s v orders here h finish_eq _ := by
    have same := World.routine_starts.finish patience v
    obtain ⟨-, rfl⟩ := Prod.mk.inj finish_eq
    exact ⟨orders, rfl, h.of_starts same⟩

/-- **Timing changes nothing.**  Let two command programs differ in nothing but their limits, pauses
and waits, for example not at all.  Run each of them with a crew of its own, in a world of its own
and with any patience, on the same scopes.  If both runs are completed or fail at an instruction, and
the flag is not up at their ends, then both have the same outcome, which for a failure is also the
same instruction and the same cause; both leave the same scopes; and both have tried to start children
by the same orders, one after the other. -/
theorem timing_changes_nothing (names : NameTable) {patience₁ patience₂ budget₁ budget₂ : Nat}
    {p₁ p₂ : Program Command}
    (same : p₁.map (Line.map Command.launch?) = p₂.map (Line.map Command.launch?)) (keep : Bool)
    (s : Scopes) (v₁ v₂ : Supervision) {r₁ r₂ : Outcome × Scopes × Supervision}
    (run₁ : run (executor names patience₁) (fun _ v => v.world.isCancelled) budget₁ p₁ keep s v₁
      = r₁)
    (run₂ : run (executor names patience₂) (fun _ v => v.world.isCancelled) budget₂ p₂ keep s v₂
      = r₂)
    (decided₁ : r₁.1.Decided) (decided₂ : r₂.1.Decided)
    (down₁ : r₁.2.2.world.isCancelled = false) (down₂ : r₂.2.2.world.isCancelled = false) :
    r₁.1 = r₂.1 ∧ r₁.2.1 = r₂.2.1 ∧
      ∃ orders, r₁.2.2.world.orders = v₁.world.orders ++ orders ∧
        r₂.2.2.world.orders = v₂.world.orders ++ orders := by
  have begun (v : Supervision) : Recites v.world.orders v [] := (List.append_nil _).symm
  have ends {o : Outcome} (decided : o.Decided) : o ≠ .exhausted := by
    rintro rfl
    cases decided
  obtain ⟨orders₁, recital₁, said₁⟩ :=
    run_mirrored (mirrors_recital names patience₁ v₁.world.orders) (begun v₁) run₁ decided₁
      (by rw [down₁]; nofun)
  obtain ⟨orders₂, recital₂, said₂⟩ :=
    run_mirrored (mirrors_recital names patience₂ v₂.world.orders) (begun v₂) run₂ decided₂
      (by rw [down₂]; nofun)
  -- both programs have the same recital, and two budgets that suffice cannot tell it apart
  rw [← same] at recital₂
  have one := run_eq_of_ends (by rw [recital₁]; exact ends decided₁)
    (by rw [recital₂]; exact ends decided₂)
  rw [recital₁, recital₂] at one
  obtain ⟨outcome, rest⟩ := Prod.mk.inj one
  obtain ⟨scopes, rfl⟩ := Prod.mk.inj rest
  exact ⟨outcome, scopes, orders₁, said₁, said₂⟩

/-- Two children, with a limit and a pause of some size. -/
def twoChildren (n : Nat) : Program Command :=
  [⟨.command (.limit n), none⟩, ⟨.command (.spawn { command := [.literal "a"] }), none⟩,
    ⟨.command (.sleep n), none⟩, ⟨.command (.spawn { command := [.literal "b"] }), none⟩]

/-- In the first world each child is waited for; in the second one the first child cannot be started,
and the second one fails. -/
theorem timing_changes_nothing_twoChildren :
    let r₁ := run (executor {} 10) (fun _ v => v.world.isCancelled) 10 (twoChildren 1) false []
      ⟨{}, { scripts := [{ exit := some 300000 }, { exit := some 200000 }] }⟩
    let r₂ := run (executor {} 20) (fun _ v => v.world.isCancelled) 20 (twoChildren 5) false []
      ⟨{}, { scripts := [{ startFault := some ⟨2, "x"⟩ }, { exit := some 0, code := 3 }] }⟩
    r₁.2.2.world.now = 501000 ∧ r₂.2.2.world.now = 5000 ∧ r₁.1 = r₂.1 ∧
      ∃ orders, r₁.2.2.world.orders = orders ∧ r₂.2.2.world.orders = orders ∧
        orders.map Order.command = ["a", "b"] := by
  intro r₁ r₂
  have finished₁ : r₁.1 = .finished := by decide +kernel
  have finished₂ : r₂.1 = .finished := by decide +kernel
  have decided₁ : r₁.1.Decided := by rw [finished₁]; exact .finished
  have decided₂ : r₂.1.Decided := by rw [finished₂]; exact .finished
  have down₁ : r₁.2.2.world.isCancelled = false := by decide +kernel
  have down₂ : r₂.2.2.world.isCancelled = false := by decide +kernel
  have same : (twoChildren 1).map (Line.map Command.launch?) =
      (twoChildren 5).map (Line.map Command.launch?) := rfl
  obtain ⟨outcome, -, orders, said₁, said₂⟩ :=
    timing_changes_nothing {} same false [] _ _ rfl rfl decided₁ decided₂ down₁ down₂
  have late₁ : r₁.2.2.world.now = 501000 := by decide +kernel
  have late₂ : r₂.2.2.world.now = 5000 := by decide +kernel
  have commands : r₁.2.2.world.orders.map Order.command = ["a", "b"] := by decide +kernel
  change r₁.2.2.world.orders = orders at said₁
  exact ⟨late₁, late₂, outcome, orders, said₁, said₂, said₁ ▸ commands⟩

end Supervision

end Sweep
