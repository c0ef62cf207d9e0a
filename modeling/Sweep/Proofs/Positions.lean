import Sweep.Proofs.Failing
import Sweep.Proofs.Stopping

/-!
# Where loop variables stand

An executor is told the position of each loop variable, and what it walks over.  The two are read at
different times: the length is taken before a loop variable begins or moves, and what it walks over
afterwards, when its own binding has changed; and bodies may change the target meanwhile.  This file shows
that a position that is told is always that of an element, on every stack on which nothing stands before its
first element, whatever program runs.

* `Value.nonneg`, `Scopes.Nonneg`, `kept_nonneg` — nothing stands before its first element;
* `walks_of_begun` — what a loop variable walks over when it has begun is what was found before;
* `OnCourse` — a loop variable stands at one of the elements that it walks over;
* `onCourse_step`, `onCourse_of_runFrom` — each position that an instruction tells, and so each one that is
  told in a run, is on course;
* `exists_meter_of_visit` — the meter of a loop variable shows its position and what it walks over.

The main statement is `positions_in_range`.
-/

namespace Sweep

/-! ### Values that stand at no position below zero -/

namespace Value

mutual

/-- Every counter and every reference in the value stands at a position from zero. -/
def nonneg : Value → Bool
  | counter _ _ offset | ref _ _ offset => 0 ≤ offset
  | struct _ fields => nonnegFields fields
  | list items => nonnegItems items

def nonnegItems : List Value → Bool
  | [] => true
  | v :: rest => nonneg v && nonnegItems rest

def nonnegFields : List (NameId × Value) → Bool
  | [] => true
  | (_, v) :: rest => nonneg v && nonnegFields rest

end

theorem nonneg_list {items : List Value} :
    (list items).nonneg = true ↔ ∀ v ∈ items, v.nonneg = true := by
  rw [nonneg]
  induction items with
  | nil => simp [nonnegItems]
  | cons v rest ih => simp [nonnegItems, ih]

theorem nonneg_struct {base : String} {fields : List (NameId × Value)} :
    (struct base fields).nonneg = true ↔ ∀ e ∈ fields, e.2.nonneg = true := by
  rw [nonneg]
  induction fields with
  | nil => simp [nonnegFields]
  | cons e rest ih => simp [nonnegFields, ih]

theorem nonneg_counter {start stop offset : Int} :
    (counter start stop offset).nonneg = true ↔ 0 ≤ offset := by
  rw [nonneg, decide_eq_true_iff]

theorem nonneg_ref {scope offset : Int} {t : NameId} : (ref scope t offset).nonneg = true ↔ 0 ≤ offset := by
  rw [nonneg, decide_eq_true_iff]

end Value

/-- Every value of every scope stands at positions from zero. -/
def Scopes.Nonneg (s : Scopes) : Prop := s.Each fun scope => ∀ e ∈ scope, e.2.nonneg = true

theorem Scope.kept_nonneg :
    Scope.Kept (fun scope => ∀ e ∈ scope, e.2.nonneg = true) fun v => v.nonneg = true where
  parts := ⟨Value.nonneg_list, Value.nonneg_struct, Value.nonneg_counter.2⟩
  empty := List.forall_mem_nil _
  holds h := h
  set h hv x e he := by
    rcases Assoc.mem_set he with rfl | he
    · exact hv
    · exact h e he
  begins _ _ := Value.nonneg_ref.2 (Int.le_refl 0)
  counts h := by
    have := Value.nonneg_counter.1 h
    exact Value.nonneg_counter.2 (by omega)
  moves h := by
    have := Value.nonneg_ref.1 h
    exact Value.nonneg_ref.2 (by omega)

theorem Scopes.upheld_nonneg : Scopes.Upheld Scopes.Nonneg := upheld_each Scope.kept_nonneg

/-! ### Loop variables that begin -/

namespace Scopes

variable {s : Scopes} {x t : NameId} {v w whole : Value} {n : Nat}

/-- **What a loop variable walks over when it has begun was found before it began**, also where its binding
takes the place of one that its target was reached through: then nothing is found any more. -/
theorem walks_of_begun (found : s.lookup t = .ok (n, v)) (stands : s.deref v = .ok whole)
    (again : (do (s.bind x (.ref n t 0)).deref (← (s.bind x (.ref n t 0)).binding n t)) = .ok w) :
    (s.bind x (.ref n t 0)).walkedBy x = .ok w ∧ w = whole := by
  have cursor := s.lookup_bind x (.ref n t 0)
  refine ⟨by rw [walkedBy, cursor]; exact again, ?_⟩
  obtain ⟨bound, target, walks⟩ := exists_of_bind_ok again
  obtain ⟨height, -, walked⟩ := exists_resolves_of_derefWithin walks
  have cursor := binding_of_lookup cursor
  have nonempty : s ≠ [] := by
    rintro rfl
    cases found
  -- nothing that is followed goes through the loop variable, so all of it was there before
  have kept (i : Int) (y : NameId) (u : Value) (other : ¬ (i = (s.length - 1 : Nat) ∧ y = x))
      (h : (s.bind x (.ref n t 0)).binding i y = .ok u) : s.binding i y = .ok u := by
    rwa [bind_eq_write nonempty, binding_write_of_ne other] at h
  have before := Resolves.of_cursor cursor target walked kept walked (Nat.le_refl height)
  have same := kept n t bound (Resolves.ne_cursor cursor target walked) target
  obtain rfl := Except.ok.inj ((binding_of_lookup found).symm.trans same)
  obtain ⟨height', -, walked'⟩ := exists_resolves_of_derefWithin stands
  exact (before.unique walked').1

/-- A loop variable stands at one of the elements that it walks over. -/
structure OnCourse (s : Scopes) (x : NameId) (position : Int) (v : Value) : Prop where
  nonneg : 0 ≤ position
  below : position < v.steps
  walks : s.walkedBy x = .ok v

end Scopes

/-! ### What an executor is told -/

/-- A position that is told is on course. -/
def Summons.OnCourse {κ ω : Type} : Summons κ ω → Prop
  | .call (.visit x position v s _) => s.OnCourse x position v
  | _ => True

theorem Executor.Keeps.observed {κ ω : Type} {ex : Executor κ ω} {I : Scopes → Prop} (keeps : ex.Keeps I) :
    ex.observed.Keeps I where
  execute c s v := keeps.execute c s v.1
  visit x position whole s v := keeps.visit x position whole s v.1
  finish s v := keeps.finish s v.1

namespace Machine

variable {κ ω : Type} {ex : Executor κ ω} {p : Program κ} {s : Scopes} {v : ω × List (Summons κ ω)}
  {x : NameId}

/-- All positions that were told are on course. -/
def AllOnCourse (asked : List (Summons κ ω)) : Prop := ∀ q ∈ asked, q.OnCourse

theorem AllOnCourse.snoc {asked : List (Summons κ ω)} (h : AllOnCourse asked) {q : Summons κ ω}
    (hq : q.OnCourse) : AllOnCourse (asked ++ [q]) := by
  intro q' hq'
  rcases List.mem_append.1 hq' with old | new
  · exact h q' old
  · exact List.mem_singleton.1 new ▸ hq

section Steps

variable (h : AllOnCourse v.2)

include h

theorem onCourse_reading {α β : Type} {r : Except ReadError α}
    {next : α → Except Failure β × Scopes × ω × List (Summons κ ω)}
    (after : ∀ a, r = .ok a → AllOnCourse (next a).2.2.2) : AllOnCourse (reading r s v next).2.2.2 := by
  cases r with
  | error e => exact h
  | ok a => exact after a rfl

theorem onCourse_visiting {position : Int} {whole : Value} (there : s.OnCourse x position whole) :
    AllOnCourse (visiting ex.observed x position whole s v).2.2.2 := by
  rw [visiting_eq]
  exact h.snoc there

/-- **A loop variable that begins stands at the first element.** -/
theorem onCourse_begin (ex : Executor κ ω) (x : NameId) (s : Scopes) (t : Target) :
    AllOnCourse (begin_ ex.observed x s v t).2.2.2 := by
  cases t with
  | range lo hi =>
    refine onCourse_reading h fun bounds _ => ?_
    obtain ⟨a, b⟩ := bounds
    dsimp only
    split
    · next some_ =>
      have walks : (s.bind x (.counter a b 0)).walkedBy x = .ok (.counter a b 0) := by
        rw [Scopes.walkedBy, Scopes.lookup_bind]
        rfl
      exact onCourse_visiting h ⟨Int.le_refl 0, Int.ofNat_lt.2 some_, walks⟩
    · exact h
  | elements t =>
    refine onCourse_reading h fun target read => ?_
    obtain ⟨n, whole⟩ := target
    obtain ⟨⟨m, bound⟩, found, read⟩ := exists_of_bind_ok read
    obtain ⟨whole', stands, read⟩ := exists_of_bind_ok read
    obtain ⟨rfl, rfl⟩ := Prod.mk.inj (Except.ok.inj read)
    dsimp only
    split
    · exact h
    · next some_ =>
      refine onCourse_reading h fun again walked => ?_
      obtain ⟨walks, rfl⟩ := Scopes.walks_of_begun found stands walked
      exact onCourse_visiting h ⟨Int.le_refl 0, Int.ofNat_lt.2 (Nat.pos_of_ne_zero some_), walks⟩

/-- **A loop variable that moves on stands at a further element**, if it did not stand before the first
one. -/
theorem onCourse_proceed (ex : Executor κ ω) (nonneg : s.Nonneg) :
    AllOnCourse (proceed ex.observed x s v).2.2.2 := by
  refine onCourse_reading h fun place found => ?_
  obtain ⟨n, cursor⟩ := place
  have stands : cursor.nonneg = true :=
    (nonneg.every Scope.kept_nonneg).of_binding (Scopes.binding_of_lookup found)
  cases cursor with
  | counter a b offset =>
    have from_ := Value.nonneg_counter.1 stands
    dsimp only
    split
    · next inside =>
      exact onCourse_visiting h ⟨by omega, inside, Scopes.walkedBy_count found a b (offset + 1)⟩
    · exact h
  | ref scope t offset =>
    have from_ := Value.nonneg_ref.1 stands
    refine onCourse_reading h fun whole walks => ?_
    dsimp only
    split
    · next inside =>
      exact onCourse_visiting h ⟨by omega, inside, Scopes.walkedBy_walk found walks (offset + 1)⟩
    · exact h
  | struct | list => exact h

theorem onCourse_plainStep (ex : Executor κ ω) (s : Scopes) (i : Instruction κ) :
    AllOnCourse (plainStep ex.observed i s v).2.2.2 := by
  cases i with
  | create x e scope =>
    cases scope with
    | none => exact onCourse_reading h fun _ _ => h
    | some n =>
      refine onCourse_reading h fun value _ => ?_
      split <;> exact h
  | assign | push => exact onCourse_reading h fun _ _ => h
  | command c => exact h.snoc trivial
  | pushScope | popScope | start | advance | branch | goto => exact h

/-- **No instruction tells a position that is not on course**, whether it succeeds or not. -/
theorem onCourse_step (ex : Executor κ ω) (nonneg : s.Nonneg) (pc : Int) (i : Instruction κ) :
    AllOnCourse (step ex.observed pc i s v).2.2.2 := by
  cases i with
  | start t x jump => exact onCourse_begin h ex x s t
  | advance t x jump => exact onCourse_proceed h ex nonneg
  | branch guard jump => exact onCourse_reading h fun _ _ => h
  | goto jump => exact h
  | pushScope | popScope | create | assign | push | command => exact onCourse_plainStep h ex s _

end Steps

theorem onCourse_of_trail (keeps : ex.Keeps Scopes.Nonneg) {c d : Config (ω × List (Summons κ ω))}
    {cs : List (Config (ω × List (Summons κ ω)))} (trail : Trail ex.observed p c cs d)
    (nonneg : c.scopes.Nonneg) (h : AllOnCourse c.world.2) : AllOnCourse d.world.2 := by
  induction trail with
  | nil => exact h
  | @cons c d e cs first _ ih =>
    obtain ⟨line, -, taken⟩ := first
    have after := onCourse_step h ex nonneg c.pc line.instruction
    have kept := keeps_step Scopes.upheld_nonneg keeps.observed nonneg c.pc line.instruction c.world
    rw [taken] at after kept
    exact ih kept after

/-- **No run tells a position that is not on course.** -/
theorem onCourse_of_runFrom (keeps : ex.Keeps Scopes.Nonneg) (nonneg : s.Nonneg) (h : AllOnCourse v.2)
    (flag : Nat → ω × List (Summons κ ω) → Bool) (p : Program κ) (budget taken : Nat) (pc : Int) :
    AllOnCourse (runFrom ex.observed flag p budget taken pc s v).2.2.2 := by
  obtain ⟨cs, d, trail, ends⟩ := exists_trail_of_runFrom ex.observed flag p budget taken ⟨pc, s, v⟩
  have here := onCourse_of_trail keeps trail nonneg h
  have kept := keeps_trail Scopes.upheld_nonneg keeps.observed trail nonneg
  generalize runFrom ex.observed flag p budget taken pc s v = r at ends
  cases ends with
  | finished _ finish | unfinished _ finish =>
    obtain ⟨-, rfl⟩ := Prod.mk.inj finish
    exact here.snoc trivial
  | stopped => exact here.snoc trivial
  | astray | exhausted => exact here
  | @failed line _ _ _ fails =>
    have after := onCourse_step here ex kept d.pc line.instruction
    rw [fails] at after
    exact after

end Machine

/-! ### Meters -/

namespace Meter

variable (m : Meter) (now : Nat)

theorem position_set (position : Int) : (m.set position now).position = position := rfl

theorem total_set (position : Int) : (m.set position now).total = m.total := rfl

theorem position_say (message : String) : (m.say message now).position = m.position := rfl

theorem total_say (message : String) : (m.say message now).total = m.total := rfl

theorem total_setTotal (total : Int) : (m.setTotal total now).total = total := rfl

end Meter

namespace Supervision

variable {x : NameId} {s : Scopes}

theorem total_meterFor (names : NameTable) (x : NameId) (total : Nat) (v : Supervision) :
    (v.meterFor names x total).total = total := by
  rw [meterFor]
  split
  · rfl
  · split
    · next same => exact same
    · exact Meter.total_setTotal _ _ _

/-- **The meter of a loop variable shows its position and what it walks over**, whether the text of the
element can be told or not, and whatever meter the variable had before. -/
theorem exists_meter_of_visit (names : NameTable) (x : NameId) (position : Int) (whole : Value)
    (s : Scopes) (v : Supervision) :
    ∃ m, Assoc.get? x (visit names x position whole s v).2.crew.meters = some m ∧
      m.position = position ∧ m.total = whole.steps := by
  have total : ((v.meterFor names x whole.steps).set position v.world.now).total = whole.steps := by
    rw [Meter.total_set, total_meterFor]
  rw [visit]
  dsimp only
  split
  · exact ⟨_, (Assoc.get?_set ..).trans (if_pos rfl), Meter.position_set .., total⟩
  · next text _ =>
    cases text with
    | none => exact ⟨_, (Assoc.get?_set ..).trans (if_pos rfl), Meter.position_set .., total⟩
    | some t =>
      refine ⟨_, (Assoc.get?_set ..).trans (if_pos rfl), ?_, ?_⟩
      · rw [Meter.position_say, Meter.position_set]
      · rw [Meter.total_say, total]

/-- The meter of a loop variable stands in front of its total, which is the length of what the variable walks
over. -/
def MeterOnCourse (x : NameId) (s : Scopes) (v : Supervision) : Prop :=
  ∃ m whole, Assoc.get? x v.crew.meters = some m ∧ s.walkedBy x = .ok whole ∧ m.total = whole.steps ∧
    0 ≤ m.position ∧ m.position < m.total

theorem meterOnCourse_of_visit {position : Int} {whole : Value} (there : s.OnCourse x position whole)
    (names : NameTable) (v : Supervision) : MeterOnCourse x s (visit names x position whole s v).2 := by
  obtain ⟨m, found, at_, total⟩ := exists_meter_of_visit names x position whole s v
  refine ⟨m, whole, found, there.walks, total, ?_, ?_⟩
  · rw [at_]
    exact there.nonneg
  · rw [at_, total]
    exact there.below

end Supervision

theorem Scopes.nonneg_of_leftBy {bed : Bed} {s : Scopes} (h : bed.LeftBy s) : s.Nonneg :=
  h.each Scope.kept_nonneg

namespace Machine

/-- A run, with all that is asked of its executor. -/
def observedRun {κ ω : Type} (ex : Executor κ ω) (flag : Nat → ω → Bool) (budget : Nat) (p : Program κ)
    (keep : Bool) (s : Scopes) (w : ω) : Outcome × Scopes × ω × List (Summons κ ω) :=
  run ex.observed (fun n v => flag n v.1) budget p keep s (w, [])

theorem onCourse_of_observedRun {κ ω : Type} {ex : Executor κ ω} (keeps : ex.Keeps Scopes.Nonneg)
    {s : Scopes} (nonneg : s.Nonneg) (flag : Nat → ω → Bool) (budget : Nat) (p : Program κ) (keep : Bool)
    (w : ω) : AllOnCourse (observedRun ex flag budget p keep s w).2.2.2 :=
  onCourse_of_runFrom (v := (w, [])) keeps (Scopes.upheld_nonneg.push nonneg) (List.forall_mem_nil _)
    (fun n v => flag n v.1) p budget 0 0

/-- **An executor is told of no position at which nothing is.**  Take any program, also one that no
statements became, any flag and any budget, and a stack on which nothing stands before its first element, as
all stacks are that programs of a bed leave.  All that is asked of the executor is written down, which changes
nothing; if the executor puts nothing before its first element, each position that it is told is that of an
element of what the loop variable walks over at that moment.  So whenever a position has been shown, the meter
of the loop variable stands in front of its total, and the total is the length of what the variable walks
over. -/
theorem positions_in_range :
    (∀ {κ ω : Type} (ex : Executor κ ω), ex.Keeps Scopes.Nonneg →
      ∀ flag budget (p : Program κ) keep (s : Scopes) w, s.Nonneg →
        unnoted (observedRun ex flag budget p keep s w) = run ex flag budget p keep s w ∧
        ∀ x position v t u,
          .call (.visit x position v t u) ∈ (observedRun ex flag budget p keep s w).2.2.2 →
            t.OnCourse x position v) ∧
    (∀ names patience flag budget p keep (s : Scopes) w, s.Nonneg → ∀ x position v t u,
      .call (.visit x position v t u)
          ∈ (observedRun (Supervision.executor names patience) flag budget p keep s w).2.2.2 →
        Supervision.MeterOnCourse x ((Supervision.executor names patience).visit x position v t u).2.1
          ((Supervision.executor names patience).visit x position v t u).2.2) ∧
    ∀ (bed : Bed) s, bed.LeftBy s → s.Nonneg := by
  refine ⟨fun ex keeps flag budget p keep s w nonneg => ⟨?_, ?_⟩, ?_,
    fun bed s left => Scopes.nonneg_of_leftBy left⟩
  · exact congrArg (leave keep s) (unnoted_runFrom flag p budget 0 0 s.push (w, []))
  · intro x position v t u asked
    exact onCourse_of_observedRun keeps nonneg flag budget p keep w _ asked
  · intro names patience flag budget p keep s w nonneg x position v t u asked
    have keeps := Supervision.keeps_executor Scopes.Nonneg names patience
    have there : t.OnCourse x position v :=
      onCourse_of_observedRun keeps nonneg flag budget p keep w _ asked
    exact Supervision.meterOnCourse_of_visit there names u

/-- A loop over a list that pushes to it. -/
def growingWalk {κ : Type} : List (Statement κ) :=
  [.loop .combinations [(1, .elements 0)] [.single (.push 0 (.struct [.literal "b"] [])) none] none]

theorem positions_in_range_growingWalk :
    depthKeeper.Keeps Scopes.Nonneg ∧ Scopes.Nonneg [[(0, .list [.ofText "a"])]] ∧
    (∃ t u, .call (.visit 1 1 (.list [.ofText "a", .ofText "b"]) t u)
        ∈ (observedRun depthKeeper never 6 (compile growingWalk) false
          [[(0, .list [.ofText "a"])]] []).2.2.2 ∧
      t.OnCourse 1 1 (.list [.ofText "a", .ofText "b"])) ∧
    ∃ t u, .call (.visit 1 1 (.list [.ofText "a", .ofText "b"]) t u)
        ∈ (observedRun (Supervision.executor default 0) never 6 (compile growingWalk) false
          [[(0, .list [.ofText "a"])]] ⟨{}, default⟩).2.2.2 ∧
      Supervision.MeterOnCourse 1 t ((Supervision.executor default 0).visit 1 1
        (.list [.ofText "a", .ofText "b"]) t u).2.2 := by
  have keeps : depthKeeper.Keeps Scopes.Nonneg :=
    ⟨fun _ _ _ h => h, fun _ _ _ _ _ h => h, fun _ _ h => h⟩
  have nonneg : Scopes.Nonneg [[(0, .list [.ofText "a"])]] := by
    intro scope hscope e he
    obtain rfl := List.mem_singleton.1 hscope
    obtain rfl := List.mem_singleton.1 he
    decide
  refine ⟨keeps, nonneg, ?_, ?_⟩
  · obtain ⟨t, u, asked⟩ : ∃ t u, .call (.visit 1 1 (.list [.ofText "a", .ofText "b"]) t u)
        ∈ (observedRun depthKeeper never 6 (compile growingWalk) false
          [[(0, .list [.ofText "a"])]] []).2.2.2 := ⟨_, _, List.mem_of_getElem? (i := 1) rfl⟩
    have told := positions_in_range.1 depthKeeper keeps never 6 (compile growingWalk) false _ [] nonneg
    exact ⟨t, u, asked, told.2 1 1 _ t u asked⟩
  · obtain ⟨t, u, asked⟩ : ∃ t u, .call (.visit 1 1 (.list [.ofText "a", .ofText "b"]) t u)
        ∈ (observedRun (Supervision.executor default 0) never 6 (compile growingWalk) false
          [[(0, .list [.ofText "a"])]] ⟨{}, default⟩).2.2.2 := ⟨_, _, List.mem_of_getElem? (i := 1) rfl⟩
    have shown := positions_in_range.2.1 default 0 never 6 (compile growingWalk) false _ ⟨{}, default⟩
      nonneg
    exact ⟨t, u, asked, shown 1 1 _ t u asked⟩

end Machine

end Sweep
