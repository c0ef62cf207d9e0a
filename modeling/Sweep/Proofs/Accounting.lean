import Mathlib.Logic.ExistsUnique
import Sweep.Proofs.Crews

/-!
# What a start command accounts for

A start command is answered with a child in the lists of the crew, with one more failed start, or with
nothing at all, and each of these has its cause.  There is one more ending: a child whose output file
has a name with a NUL is started, counted as a failed start, and in no list, so that no limit counts it
and nothing kills it.

* `StartEnding`, `StartEnding.Describes` — the endings of a start command and what is observed of each;
* `eq_endingOf_of_describes` — no two endings have the same observations;
* `spawn_accounted` — every start command has one of the endings;
* `started_eq_registered` — where no name has a NUL, the children that were started are those that were
  registered;
* `stray_of_nulInName` — a child that is started, runs, and is counted as a failed start.
-/

namespace Sweep.Supervision

variable {v v' : Supervision}

/-- The endings of a start command. -/
inductive StartEnding where
  /-- The wait for room or the progress file fails, or a number of the child cannot be written. -/
  | crashed
  | unevaluated
  /-- The flag goes up in the wait for room. -/
  | calledOff
  | refused
  | registered
  /-- A child is started and counted as a failed start. -/
  | stray
  deriving DecidableEq, Repr

/-- There was no attempt, no child was started, and nothing was counted. -/
structure Unattempted (v v' : Supervision) : Prop where
  attempts : v'.world.attempts = v.world.attempts
  children : v'.world.children.size = v.world.children.size
  spawned : v'.crew.spawned = v.crew.spawned
  spawnFailures : v'.crew.spawnFailures = v.crew.spawnFailures

theorem Subsides.unattempted (h : v.Subsides v') : Unattempted v v' :=
  ⟨h.world.no_attempt, h.world.no_child, h.spawned, h.spawnFailures⟩

namespace StartEnding

/-- What is observed of an ending: the result, the attempts, the children and the lists. -/
def Describes (v : Supervision) : StartEnding → Except Failure Unit × Supervision → Prop
  | crashed, (r, v') => (∃ c, r = .error (.crash c)) ∧ Unattempted v v'
  | unevaluated, (r, v') => (∃ e, r = .error (.access e)) ∧ Unattempted v v'
  | calledOff, (r, v') => r = .ok () ∧ v'.world.isCancelled = true ∧ Unattempted v v'
  | refused, (r, v') =>
    r = .ok () ∧ v'.world.attempts = v.world.attempts + 1 ∧
      v'.world.children.size = v.world.children.size ∧
      v'.crew.spawned = v.crew.spawned ∧ v'.crew.spawnFailures = v.crew.spawnFailures + 1
  | registered, (r, v') =>
    r = .ok () ∧ v'.world.attempts = v.world.attempts + 1 ∧
      v'.world.children.size = v.world.children.size + 1 ∧
      (∃ kept, v'.crew.tracked = kept ++ [v.world.children.size]) ∧
      v'.crew.spawned = v.crew.spawned ++ [v.world.children.size] ∧
      v'.crew.spawnFailures = v.crew.spawnFailures
  | stray, (r, v') =>
    r = .ok () ∧ v'.world.attempts = v.world.attempts + 1 ∧
      v'.world.children.size = v.world.children.size + 1 ∧
      v'.crew.spawned = v.crew.spawned ∧ v'.crew.spawnFailures = v.crew.spawnFailures + 1

end StartEnding

/-- The ending that the observations are those of. -/
def endingOf (v : Supervision) : Except Failure Unit × Supervision → StartEnding
  | (.error (.crash _), _) => .crashed
  | (.error (.access _), _) => .unevaluated
  | (.ok (), v') =>
    if v'.world.attempts = v.world.attempts then .calledOff
    else if v'.world.children.size = v.world.children.size then .refused
    else if v'.crew.spawnFailures = v.crew.spawnFailures then .registered
    else .stray

/-- **No two endings have the same observations.** -/
theorem eq_endingOf_of_describes {e : StartEnding} {r : Except Failure Unit × Supervision}
    (h : e.Describes v r) : e = endingOf v r := by
  obtain ⟨r, v'⟩ := r
  cases e with
  | crashed =>
    obtain ⟨⟨c, rfl⟩, -⟩ := h
    rfl
  | unevaluated =>
    obtain ⟨⟨e, rfl⟩, -⟩ := h
    rfl
  | calledOff =>
    obtain ⟨rfl, -, idle⟩ := h
    rw [endingOf, if_pos idle.attempts]
  | refused =>
    obtain ⟨rfl, attempts, children, -, -⟩ := h
    rw [endingOf, if_neg (by omega), if_pos children]
  | registered =>
    obtain ⟨rfl, attempts, children, -, -, failures⟩ := h
    rw [endingOf, if_neg (by omega), if_neg (by omega), if_pos failures]
  | stray =>
    obtain ⟨rfl, attempts, children, -, failures⟩ := h
    rw [endingOf, if_neg (by omega), if_neg (by omega), if_neg (by omega)]

/-- An attempt after a wait has an ending of its own. -/
theorem describes_of_attempted {o : Order} {u : Supervision} (before : v.Subsides u)
    (after : Attempted o u v') :
    ∃ e : StartEnding, e.Describes v (.ok (), v') ∧ (e = .stray → o.isUnroutable = true) := by
  have attempts := before.world.no_attempt
  have children := before.world.no_child
  have failures := before.spawnFailures
  cases after with
  | refused world =>
    have counted : u.crew.spawnFailures + 1 = v.crew.spawnFailures + 1 := by rw [failures]
    refine ⟨.refused, ⟨rfl, ?_, ?_, before.spawned, counted⟩, nofun⟩
    · rw [world.one_attempt, attempts]
    · rw [world.no_child, children]
  | @registered i w world =>
    have number : i = v.world.children.size := world.number.trans children
    refine ⟨.registered, ⟨rfl, ?_, ?_, ⟨u.crew.tracked, ?_⟩, ?_, failures⟩, nofun⟩
    · rw [world.one_attempt, attempts]
    · rw [world.one_child, children]
    · rw [number]
    · rw [number, before.spawned]
  | stray cause world =>
    have counted : u.crew.spawnFailures + 1 = v.crew.spawnFailures + 1 := by rw [failures]
    refine ⟨.stray, ⟨rfl, ?_, ?_, before.spawned, counted⟩, fun _ => cause⟩
    · rw [world.one_attempt, attempts]
    · rw [world.one_child, children]

theorem SpawnEnded.describes {l : Launch} {s : Scopes} {r : Except Failure Unit × Supervision}
    (h : SpawnEnded l s v r) :
    ∃ e : StartEnding, e.Describes v r ∧
      (e = .stray → ∃ o, l.eval s = .ok o ∧ o.isUnroutable = true) := by
  cases h with
  | crashed cause after => exact ⟨.crashed, ⟨⟨_, rfl⟩, after.unattempted⟩, nofun⟩
  | calledOff cause after => exact ⟨.calledOff, ⟨rfl, cause, after.unattempted⟩, nofun⟩
  | @unevaluated e v' cause after =>
    cases e with
    | access e => exact ⟨.unevaluated, ⟨⟨e, rfl⟩, after.unattempted⟩, nofun⟩
    | unwritable => exact ⟨.crashed, ⟨⟨_, rfl⟩, after.unattempted⟩, nofun⟩
  | attempted eval_eq before room =>
    obtain ⟨e, describes, unroutable⟩ := describes_of_attempted before (startChild_attempted _ _)
    exact ⟨e, describes, fun stray => ⟨_, eval_eq, unroutable stray⟩⟩

/-- **Every start command has one ending**, with every launch, in all scopes, under every limit, and in
every world; and a child is started without being registered only if a NUL stands in the name of one of
its output files. -/
theorem spawn_accounted (l : Launch) (s : Scopes) (patience : Nat) (v : Supervision) :
    ∃! e : StartEnding, e.Describes v (spawn l s patience v) ∧
      (e = .stray → ∃ o, l.eval s = .ok o ∧ o.isUnroutable = true) := by
  obtain ⟨e, describes, unroutable⟩ := (spawn_ended l s patience v).describes
  refine ⟨e, ⟨describes, unroutable⟩, fun d hd => ?_⟩
  rw [eq_endingOf_of_describes hd.1, eq_endingOf_of_describes describes]

/-- **Where no output file has a NUL in its name, a start command starts the children that it
registers.** -/
theorem started_eq_registered {l : Launch} {s : Scopes}
    (routable : ∀ o, l.eval s = .ok o → o.isUnroutable = false) (patience : Nat) (v : Supervision) :
    (spawn l s patience v).2.world.children.size + v.crew.spawned.length =
      v.world.children.size + (spawn l s patience v).2.crew.spawned.length := by
  obtain ⟨e, describes, unroutable⟩ := (spawn_ended l s patience v).describes
  generalize spawn l s patience v = r at describes ⊢
  cases e with
  | crashed | unevaluated =>
    obtain ⟨-, idle⟩ := describes
    rw [idle.children, idle.spawned]
  | calledOff =>
    obtain ⟨-, -, idle⟩ := describes
    rw [idle.children, idle.spawned]
  | refused =>
    obtain ⟨-, -, children, spawned, -⟩ := describes
    rw [children, spawned]
  | registered =>
    obtain ⟨-, -, children, -, spawned, -⟩ := describes
    rw [children, spawned, List.length_append, List.length_singleton]
    omega
  | stray =>
    obtain ⟨o, eval_eq, nul⟩ := unroutable rfl
    rw [routable o eval_eq] at nul
    cases nul

/-- A child whose standard output goes to a file with a NUL in its name. -/
def unroutableLaunch : Launch :=
  { command := [.literal "a"], stdout := .create [.literal "x\x00y"] }

/-- The child is started and runs, but the start counts as failed, and nobody tracks the child. -/
theorem stray_of_nulInName :
    let v : Supervision := ⟨{}, { scripts := [{ exit := none }] }⟩
    let v' := (spawn unroutableLaunch [] 1 v).2
    v'.crew.spawnFailures = 1 ∧ v'.crew.spawned = [] ∧ v'.crew.tracked = [] ∧
      v'.world.children.map (·.status) = #[.running] ∧
      ∀ e : StartEnding, e.Describes v (spawn unroutableLaunch [] 1 v) → e = .stray := by
  intro v v'
  have ending : endingOf v (spawn unroutableLaunch [] 1 v) = .stray := by decide +kernel
  refine ⟨by decide +kernel, by decide +kernel, by decide +kernel, by decide +kernel, ?_⟩
  intro e describes
  rw [eq_endingOf_of_describes describes, ending]

end Sweep.Supervision
