import Sweep.Proofs.Answering

/-!
# Executors that answer alike

Two runs that begin alike stay alike as long as their executors give the same answers.  Here one of
the two is a reference: it runs the same program with other commands, in another kind of world.

* `Instruction.map`, `Line.map` — the same code with other commands;
* `Agrees` — two answers are the same, unless the first one is a crash or has lost its way;
* `Executor.Mirrors` — an executor agrees with a reference;
* `agrees_step` — then so does every step, whatever instruction it takes;
* `run_mirrored` — and every run that is completed or fails.
-/

namespace Sweep

variable {κ κ' ω ω' : Type}

/-- The same instruction with another command. -/
def Instruction.map (f : κ → κ') : Instruction κ → Instruction κ'
  | pushScope => .pushScope
  | popScope => .popScope
  | create x e scope => .create x e scope
  | assign x e scope => .assign x e scope
  | push x e => .push x e
  | start t x jump => .start t x jump
  | advance t x jump => .advance t x jump
  | branch guard jump => .branch guard jump
  | goto jump => .goto jump
  | command c => .command (f c)

/-- The same line with another command. -/
def Line.map (f : κ → κ') (line : Line κ) : Line κ' := ⟨line.instruction.map f, line.origin⟩

theorem Program.at?_map (f : κ → κ') (p : Program κ) (pc : Int) :
    Program.at? (p.map (Line.map f)) pc = (p.at? pc).map (Line.map f) := by
  cases pc with
  | ofNat n => exact List.getElem?_map
  | negSucc n =>
    rw [Program.at?, Program.at?, List.length_map]
    split
    · exact List.getElem?_map
    · rfl

/-- Two answers are the same and the worlds behind them correspond, unless the first one is a crash
or its world is lost. -/
inductive Agrees (lost : ω → Prop) (T : ω → ω' → Prop) {α : Type}
    (r : Except Failure α × Scopes × ω) (q : Except Failure α × Scopes × ω') : Prop where
  | crashed {c : Crash} (crash : r.1 = .error (.crash c))
  | lost (away : lost r.2.2)
  | same (answer : r.1 = q.1) (scopes : r.2.1 = q.2.1) (worlds : T r.2.2 q.2.2)

/-- The executor answers as the reference does, where the worlds correspond.  A world that is lost
stays so. -/
structure Executor.Mirrors (ex : Executor κ ω) (ref : Executor κ' ω') (f : κ → κ')
    (lost : ω → Prop) (T : ω → ω' → Prop) : Prop where
  leads : ex.Leads fun w w' => lost w → lost w'
  execute : ∀ c s w u, T w u → Agrees lost T (ex.execute c s w) (ref.execute (f c) s u)
  visit : ∀ x position v s w u, T w u →
    Agrees lost T (ex.visit x position v s w) (ref.visit x position v s u)
  finish : ∀ s w u here, T w u → ex.finish s w = (.ok (), here) → ¬ lost here.2 →
    ∃ u', ref.finish s u = (.ok (), here.1, u') ∧ T here.2 u'

namespace Machine

variable {ex : Executor κ ω} {ref : Executor κ' ω'} {f : κ → κ'} {lost : ω → Prop}
  {T : ω → ω' → Prop} {w : ω} {u : ω'} {s : Scopes}

/-! ### Steps -/

theorem agrees_map {α β : Type} {r : Except Failure α × Scopes × ω}
    {q : Except Failure α × Scopes × ω'} (h : Agrees lost T r q) (g : α → β) :
    Agrees lost T (r.1.map g, r.2) (q.1.map g, q.2) := by
  cases h with
  | crashed crash => exact .crashed (by rw [crash]; rfl)
  | lost away => exact .lost away
  | same answer scopes worlds => exact .same (by rw [answer]) scopes worlds

theorem agrees_reading {α β : Type} (worlds : T w u) (r : Except ReadError α)
    {next : α → Except Failure β × Scopes × ω} {next' : α → Except Failure β × Scopes × ω'}
    (h : ∀ a, Agrees lost T (next a) (next' a)) :
    Agrees lost T (reading r s w next) (reading r s u next') := by
  cases r with
  | error e => exact .same rfl rfl worlds
  | ok a => exact h a

variable (m : ex.Mirrors ref f lost T)

include m

theorem agrees_visiting (worlds : T w u) (x : NameId) (position : Int) (v : Value) (s : Scopes) :
    Agrees lost T (visiting ex x position v s w) (visiting ref x position v s u) := by
  rw [visiting_eq, visiting_eq]
  exact agrees_map (m.visit x position v s w u worlds) _

theorem agrees_begin (worlds : T w u) (x : NameId) (s : Scopes) (t : Target) :
    Agrees lost T (begin_ ex x s w t) (begin_ ref x s u t) := by
  cases t with
  | range lo hi =>
    refine agrees_reading worlds _ fun ⟨a, b⟩ => ?_
    dsimp only
    split
    · exact agrees_visiting m worlds _ _ _ _
    · exact .same rfl rfl worlds
  | elements t =>
    refine agrees_reading worlds _ fun ⟨n, v⟩ => ?_
    dsimp only
    split
    · exact .same rfl rfl worlds
    · exact agrees_reading worlds _ fun whole => agrees_visiting m worlds _ _ _ _

theorem agrees_proceed (worlds : T w u) (x : NameId) (s : Scopes) :
    Agrees lost T (proceed ex x s w) (proceed ref x s u) := by
  refine agrees_reading worlds _ fun ⟨n, v⟩ => ?_
  cases v with
  | counter =>
    dsimp only
    split
    · exact agrees_visiting m worlds _ _ _ _
    · exact .same rfl rfl worlds
  | ref =>
    refine agrees_reading worlds _ fun whole => ?_
    dsimp only
    split
    · exact agrees_visiting m worlds _ _ _ _
    · exact .same rfl rfl worlds
  | struct | list => exact .same rfl rfl worlds

theorem agrees_plainStep (worlds : T w u) (i : Instruction κ) (s : Scopes) :
    Agrees lost T (plainStep ex i s w) (plainStep ref (i.map f) s u) := by
  cases i with
  | pushScope | popScope | start | advance | branch | goto => exact .same rfl rfl worlds
  | create x e scope =>
    cases scope with
    | none => exact agrees_reading worlds _ fun v => .same rfl rfl worlds
    | some n =>
      refine agrees_reading worlds _ fun v => ?_
      split
      · exact .same rfl rfl worlds
      · exact .same rfl rfl worlds
  | assign | push => exact agrees_reading worlds _ fun _ => .same rfl rfl worlds
  | command c => exact m.execute c s w u worlds

/-- **Every step agrees with the reference.** -/
theorem agrees_step (worlds : T w u) (pc : Int) (i : Instruction κ) (s : Scopes) :
    Agrees lost T (step ex pc i s w) (step ref pc (i.map f) s u) := by
  have plain := agrees_map (agrees_plainStep m worlds i s) fun _ => pc + 1
  cases i with
  | start t x jump => exact agrees_map (agrees_begin m worlds x s t) _
  | advance t x jump => exact agrees_map (agrees_proceed m worlds x s) _
  | branch guard jump =>
    exact agrees_map (agrees_reading worlds _ fun _ => .same rfl rfl worlds) _
  | goto jump => exact .same rfl rfl worlds
  | pushScope | popScope | create | assign | push | command => exact plain

end Machine

/-! ### Runs -/

/-- The run was completed, or an instruction of it failed to resolve. -/
inductive Outcome.Decided : Outcome → Prop where
  | finished : Decided .finished
  | failed (position : Int) (error : AccessError) (origin : Option String) :
      Decided (.failed position error origin)

namespace Machine

variable {ex : Executor κ ω} {ref : Executor κ' ω'} {f : κ → κ'} {lost : ω → Prop}
  {T : ω → ω' → Prop} {p : Program κ}

/-- Where there is no instruction, the reference finishes as the executor does. -/
theorem runOut_mirrored (m : ex.Mirrors ref f lost T) {stopping : Bool} {pc : Int} {s : Scopes}
    {w : ω} {u : ω'} (worlds : T w u) {o : Outcome} {here : Scopes × ω}
    (out_eq : runOut ex stopping pc s w = (o, here)) (decided : o.Decided) (found : ¬ lost here.2) :
    ∃ u', runOut ref false pc s u = (o, here.1, u') ∧ T here.2 u' := by
  rw [runOut] at out_eq ⊢
  split at out_eq
  · next behind =>
    rw [if_pos behind]
    split at out_eq
    · next finish =>
      obtain ⟨rfl, rfl⟩ := Prod.mk.inj out_eq
      obtain ⟨u', finish', worlds'⟩ := m.finish s w u _ worlds finish found
      exact ⟨u', by rw [finish'], worlds'⟩
    · obtain ⟨rfl, -⟩ := Prod.mk.inj out_eq
      cases decided
  · split at out_eq
    · obtain ⟨rfl, -⟩ := Prod.mk.inj out_eq
      cases decided
    · obtain ⟨rfl, -⟩ := Prod.mk.inj out_eq
      cases decided

/-- A run that is decided takes the instruction at its position, if there is one. -/
theorem steps_of_decided {flag : Nat → ω → Bool} {budget taken : Nat} {pc : Int} {s : Scopes} {w : ω}
    {line : Line κ} (hat : p.at? pc = some line)
    (decided : (runFrom ex flag p budget taken pc s w).1.Decided) :
    flag taken w = false ∧ ∃ rest, budget = rest + 1 := by
  cases hf : flag taken w with
  | true =>
    rw [runFrom_of_up hat hf] at decided
    cases decided
  | false =>
    refine ⟨rfl, ?_⟩
    cases budget with
    | zero =>
      simp only [runFrom, hat, hf] at decided
      cases decided
    | succ rest => exact ⟨rest, rfl⟩

/-- What is lost in a step stays lost. -/
theorem lost_of_goOn (m : ex.Mirrors ref f lost T) {flag : Nat → ω → Bool} {budget taken : Nat}
    {pc : Int} {origin : Option String} {r : Except Failure Int × Scopes × ω} {o : Outcome}
    {here : Scopes × ω} (run_eq : goOn ex flag p budget taken pc origin r = (o, here))
    (away : lost r.2.2) : lost here.2 := by
  obtain ⟨answer, s, w⟩ := r
  cases answer with
  | ok next =>
    have later := leads_of_runFrom m.leads flag p budget taken next s w away
    rwa [show runFrom ex flag p budget taken next s w = (o, here) from run_eq] at later
  | error e =>
    cases e with
    | access | crash =>
      obtain ⟨-, rfl⟩ := Prod.mk.inj run_eq
      exact away

/-- Behind steps that agree, the runs agree if they do so from the next instruction on. -/
theorem goOn_mirrored (m : ex.Mirrors ref f lost T) {flag : Nat → ω → Bool} {budget taken : Nat}
    {pc : Int} {origin : Option String} {r : Except Failure Int × Scopes × ω}
    {q : Except Failure Int × Scopes × ω'} (agrees : Agrees lost T r q) {o : Outcome}
    {here : Scopes × ω} (run_eq : goOn ex flag p budget taken pc origin r = (o, here))
    (decided : o.Decided) (found : ¬ lost here.2)
    (rest : ∀ {next s w u}, T w u → runFrom ex flag p budget taken next s w = (o, here) →
      ∃ u', runFrom ref never (p.map (Line.map f)) budget taken next s u = (o, here.1, u') ∧
        T here.2 u') :
    ∃ u', goOn ref never (p.map (Line.map f)) budget taken pc origin q = (o, here.1, u') ∧
      T here.2 u' := by
  cases agrees with
  | lost away => exact absurd (lost_of_goOn m run_eq away) found
  | @crashed c crash =>
    obtain ⟨answer, s, w⟩ := r
    obtain rfl : answer = .error (.crash c) := crash
    obtain ⟨rfl, -⟩ := Prod.mk.inj run_eq
    cases decided
  | same answer scopes worlds =>
    obtain ⟨a, s, w⟩ := r
    obtain ⟨a', s', u⟩ := q
    obtain rfl : a = a' := answer
    obtain rfl : s = s' := scopes
    cases a with
    | ok next => exact rest worlds run_eq
    | error e =>
      cases e with
      | access e =>
        obtain ⟨rfl, rfl⟩ := Prod.mk.inj run_eq
        exact ⟨u, rfl, worlds⟩
      | crash c =>
        obtain ⟨rfl, -⟩ := Prod.mk.inj run_eq
        cases decided

/-- **A run that is completed or fails is that of the reference**, by induction over the budget: the
outcome and the scopes are the same, and the worlds correspond. -/
theorem runFrom_mirrored (m : ex.Mirrors ref f lost T) {flag : Nat → ω → Bool} {budget taken : Nat}
    {pc : Int} {s : Scopes} {w : ω} {u : ω'} (worlds : T w u) {o : Outcome} {here : Scopes × ω}
    (run_eq : runFrom ex flag p budget taken pc s w = (o, here)) (decided : o.Decided)
    (found : ¬ lost here.2) :
    ∃ u', runFrom ref never (p.map (Line.map f)) budget taken pc s u = (o, here.1, u') ∧
      T here.2 u' := by
  induction budget generalizing taken pc s w u with
  | zero =>
    cases hat : p.at? pc with
    | none =>
      rw [runFrom_of_none hat] at run_eq
      rw [runFrom_of_none (by rw [Program.at?_map, hat]; rfl)]
      exact runOut_mirrored m worlds run_eq decided found
    | some line =>
      obtain ⟨-, rest, hrest⟩ := steps_of_decided hat (by rwa [run_eq])
      cases hrest
  | succ budget ih =>
    cases hat : p.at? pc with
    | none =>
      rw [runFrom_of_none hat] at run_eq
      rw [runFrom_of_none (by rw [Program.at?_map, hat]; rfl)]
      exact runOut_mirrored m worlds run_eq decided found
    | some line =>
      obtain ⟨down, -⟩ := steps_of_decided hat (by rwa [run_eq])
      have hat' : Program.at? (p.map (Line.map f)) pc = some (line.map f) := by
        rw [Program.at?_map, hat]
        rfl
      have agrees := agrees_step m worlds pc line.instruction s
      rw [runFrom_succ hat down] at run_eq
      rw [runFrom_succ hat' rfl]
      change ∃ u', goOn ref never (p.map (Line.map f)) budget (taken + 1) pc (placeOf pc line)
        (step ref pc (line.instruction.map f) s u) = (o, here.1, u') ∧ T here.2 u'
      generalize step ex pc line.instruction s w = r at run_eq agrees
      generalize step ref pc (line.instruction.map f) s u = q at agrees
      exact goOn_mirrored m agrees run_eq decided found fun worlds run_eq => ih worlds run_eq

/-- The same for a run in a scope of its own. -/
theorem run_mirrored (m : ex.Mirrors ref f lost T) {flag : Nat → ω → Bool} {budget : Nat}
    {keep : Bool} {s : Scopes} {w : ω} {u : ω'} (worlds : T w u) {o : Outcome} {here : Scopes × ω}
    (run_eq : run ex flag budget p keep s w = (o, here)) (decided : o.Decided)
    (found : ¬ lost here.2) :
    ∃ u', run ref never budget (p.map (Line.map f)) keep s u = (o, here.1, u') ∧ T here.2 u' := by
  rcases inside : runFrom ex flag p budget 0 0 s.push w with ⟨o', left, w'⟩
  rw [run, inside] at run_eq
  obtain ⟨rfl, rfl⟩ := Prod.mk.inj run_eq
  obtain ⟨u', same, worlds'⟩ := runFrom_mirrored m worlds inside decided found
  exact ⟨u', by rw [run, same], worlds'⟩

/-- With any two budgets that are not used up a run is the same. -/
theorem run_eq_of_ends {flag : Nat → ω → Bool} {budget₁ budget₂ : Nat} {keep : Bool} {s : Scopes}
    {w : ω} (h₁ : (run ex flag budget₁ p keep s w).1 ≠ .exhausted)
    (h₂ : (run ex flag budget₂ p keep s w).1 ≠ .exhausted) :
    run ex flag budget₁ p keep s w = run ex flag budget₂ p keep s w := by
  have more₁ := runFrom_add_of_ends flag budget₂ budget₁ 0 0 s.push w h₁
  have more₂ := runFrom_add_of_ends flag budget₁ budget₂ 0 0 s.push w h₂
  rw [Nat.add_comm] at more₂
  rw [run, run, ← more₁, more₂]

end Machine

end Sweep
