import Sweep.Proofs.Balance

/-!
# What a run does to the world of its executor

The machine never touches the world itself: in every step it calls its executor once or not at all, and
hands on what the executor answers.  So what holds of every answer holds of every step, and a relation
between worlds that every answer keeps holds between the first and the last world of a run.

* `Executor.Answers` — what the executor may answer to an instruction, and in which world;
* `answers_step` — a step answers as the executor does;
* `Executor.Leads`, `leads_of_run` — a relation that every answer keeps, along a trail and a run;
* `Executor.LeadsUnder`, `leads_under_of_runFrom` — the same for answers that are given while a flag is
  down;
* `Executor.CrashesOnly`, `crash_of_run` — how an executor can crash, and that a run of a `Guided`
  program crashes in no other way.
-/

namespace Sweep

variable {κ ω : Type}

/-- The answers to an instruction are in a relation with the worlds before and after: those of the
executor, and those that the machine gives itself. -/
structure Executor.Answers (ex : Executor κ ω) (i : Instruction κ)
    (A : ω → Except Failure Unit → ω → Prop) : Prop where
  idle : ∀ w, A w (.ok ()) w
  read : ∀ e w, A w (.error (.ofRead e)) w
  scope : i.isInner = true ∨ ∀ w, A w (.error (.crash .noSuchScope)) w
  execute : ∀ c, i = .command c → ∀ s w, A w (ex.execute c s w).1 (ex.execute c s w).2.2
  visit : ∀ x position v s w,
    A w (ex.visit x position v s w).1 (ex.visit x position v s w).2.2

/-- A relation between worlds that every answer of an executor keeps. -/
structure Executor.Leads (ex : Executor κ ω) (R : ω → ω → Prop) : Prop where
  refl : ∀ w, R w w
  trans : ∀ {w w' w''}, R w w' → R w' w'' → R w w''
  execute : ∀ c s w, R w (ex.execute c s w).2.2
  visit : ∀ x position v s w, R w (ex.visit x position v s w).2.2
  finish : ∀ s w, R w (ex.finish s w).2.2
  stop : ∀ position w, R w (ex.stop position w)

/-- A relation between worlds that every answer of an executor keeps while a flag is down, and the end
of a run in any case. -/
structure Executor.LeadsUnder (ex : Executor κ ω) (flag : ω → Bool) (R : ω → ω → Prop) : Prop where
  refl : ∀ w, R w w
  trans : ∀ {w w' w''}, R w w' → R w' w'' → R w w''
  execute : ∀ c s w, flag w = false → R w (ex.execute c s w).2.2
  visit : ∀ x position v s w, flag w = false → R w (ex.visit x position v s w).2.2
  finish : ∀ s w, R w (ex.finish s w).2.2
  stop : ∀ position w, R w (ex.stop position w)

/-- What the relation keeps is kept. -/
theorem Executor.Leads.keeps {ex : Executor κ ω} {R : ω → ω → Prop} {P : ω → Prop} (h : ex.Leads R)
    (kept : ∀ {w w'}, R w w' → P w → P w') : ex.Leads fun w w' => P w → P w' where
  refl _ := id
  trans first second := second ∘ first
  execute c s w := kept (h.execute c s w)
  visit x position v s w := kept (h.visit x position v s w)
  finish s w := kept (h.finish s w)
  stop position w := kept (h.stop position w)

/-- In worlds with a property, the executor crashes in some ways only when it runs the commands of a
program; for want of a text of an integer everybody may crash. -/
structure Executor.CrashesOnly (ex : Executor κ ω) (p : Program κ) (P : ω → Prop)
    (F : Crash → Prop) : Prop where
  unwritable : F (.number .unwritable)
  execute : ∀ line ∈ p, ∀ c, line.instruction = .command c → ∀ s w, P w →
    ∀ crash, (ex.execute c s w).1 = .error (.crash crash) → F crash
  visit : ∀ x position v s w, P w →
    ∀ crash, (ex.visit x position v s w).1 = .error (.crash crash) → F crash
  finish : ∀ s w, P w → ∀ crash, (ex.finish s w).1 = .error crash → F crash

namespace Machine

variable {ex : Executor κ ω} {i : Instruction κ} {A : ω → Except Failure Unit → ω → Prop}
  {R : ω → ω → Prop} {flag : ω → Bool} {p : Program κ}

/-- An answer without its value. -/
def bare {α : Type} (r : Except Failure α) : Except Failure Unit := r.map fun _ => ()

theorem bare_map {α β : Type} (r : Except Failure α) (f : α → β) : bare (r.map f) = bare r := by
  cases r <;> rfl

theorem bare_unit (r : Except Failure Unit) : bare r = r := by
  cases r <;> rfl

theorem answers_reading {α β : Type} (h : ex.Answers i A) {r : Except ReadError α} {s : Scopes}
    {w : ω} {next : α → Except Failure β × Scopes × ω}
    (after : ∀ a, A w (bare (next a).1) (next a).2.2) :
    A w (bare (reading r s w next).1) (reading r s w next).2.2 := by
  cases r with
  | error e => exact h.read e w
  | ok a => exact after a

theorem answers_visiting (h : ex.Answers i A) (x : NameId) (position : Int) (v : Value) (s : Scopes)
    (w : ω) :
    A w (bare (visiting ex x position v s w).1) (visiting ex x position v s w).2.2 := by
  have answer := h.visit x position v s w
  rw [visiting]
  split
  · next heq => rwa [heq] at answer
  · next heq => rwa [heq] at answer

theorem answers_begin (h : ex.Answers i A) (x : NameId) (s : Scopes) (w : ω) (t : Target) :
    A w (bare (begin_ ex x s w t).1) (begin_ ex x s w t).2.2 := by
  cases t with
  | range lo hi =>
    refine answers_reading h fun ⟨a, b⟩ => ?_
    dsimp only
    split
    · exact answers_visiting h _ _ _ _ _
    · exact h.idle w
  | elements t =>
    refine answers_reading h fun ⟨n, v⟩ => ?_
    dsimp only
    split
    · exact h.idle w
    · exact answers_reading h fun whole => answers_visiting h _ _ _ _ _

theorem answers_proceed (h : ex.Answers i A) (x : NameId) (s : Scopes) (w : ω) :
    A w (bare (proceed ex x s w).1) (proceed ex x s w).2.2 := by
  refine answers_reading h fun found => ?_
  split
  · dsimp only
    split
    · exact answers_visiting h _ _ _ _ _
    · exact h.idle w
  · refine answers_reading h fun whole => ?_
    dsimp only
    split
    · exact answers_visiting h _ _ _ _ _
    · exact h.idle w
  · exact h.read (.access _) w

theorem answers_plainStep (h : ex.Answers i A) (s : Scopes) (w : ω) :
    A w (bare (plainStep ex i s w).1) (plainStep ex i s w).2.2 := by
  cases i with
  | pushScope | popScope | start | advance | branch | goto => exact h.idle w
  | create x e scope =>
    cases scope with
    | none => exact answers_reading h fun _ => h.idle w
    | some n =>
      refine answers_reading h fun v => ?_
      split
      · exact h.idle w
      · rcases h.scope with inner | crash
        · cases inner
        · exact crash w
  | assign | push => exact answers_reading h fun _ => h.idle w
  | command c =>
    rw [bare_unit]
    exact h.execute c rfl s w

/-- **A step answers as the executor does**, or the machine answers in its place and leaves the world
alone. -/
theorem answers_step (h : ex.Answers i A) (pc : Int) (s : Scopes) (w : ω) :
    A w (bare (step ex pc i s w).1) (step ex pc i s w).2.2 := by
  have plain : A w (bare ((plainStep ex i s w).1.map fun _ => pc + 1)) (plainStep ex i s w).2.2 := by
    rw [bare_map]
    exact answers_plainStep h s w
  cases i with
  | start t x jump =>
    show A w (bare ((begin_ ex x s w t).1.map _)) _
    rw [bare_map]
    exact answers_begin h x s w t
  | advance t x jump =>
    show A w (bare ((proceed ex x s w).1.map _)) _
    rw [bare_map]
    exact answers_proceed h x s w
  | branch guard jump =>
    show A w (bare ((reading (isOpen s guard) s w _).1.map _)) _
    rw [bare_map]
    exact answers_reading h fun _ => h.idle w
  | goto jump => exact h.idle w
  | pushScope | popScope | create | assign | push | command => exact plain

/-! ### The worlds of a run -/

theorem leads_of_step (h : ex.Leads R) (pc : Int) (i : Instruction κ) (s : Scopes) (w : ω) :
    R w (step ex pc i s w).2.2 :=
  answers_step (i := i) (A := fun w _ w' => R w w')
    ⟨h.refl, fun _ => h.refl, .inr h.refl, fun c _ => h.execute c, h.visit⟩ pc s w

/-- **What every answer keeps, every run keeps.** -/
theorem leads_of_trail (h : ex.Leads R) {c d : Config ω} {cs : List (Config ω)}
    (trail : Trail ex p c cs d) : R c.world d.world := by
  induction trail with
  | nil c => exact h.refl c.world
  | @cons c d e cs first _ ih =>
    obtain ⟨line, -, hstep⟩ := first
    have lead := leads_of_step h c.pc line.instruction c.scopes c.world
    rw [hstep] at lead
    exact h.trans lead ih

theorem leads_of_runFrom (h : ex.Leads R) (flag : Nat → ω → Bool) (p : Program κ)
    (budget taken : Nat) (pc : Int) (s : Scopes) (w : ω) :
    R w (runFrom ex flag p budget taken pc s w).2.2 := by
  obtain ⟨cs, d, trail, ends⟩ := exists_trail_of_runFrom ex flag p budget taken ⟨pc, s, w⟩
  refine h.trans (leads_of_trail h trail) ?_
  generalize runFrom ex flag p budget taken pc s w = r at ends ⊢
  cases ends with
  | finished out finish | unfinished out finish =>
    have lead := h.finish d.scopes d.world
    rwa [finish] at lead
  | stopped up => exact h.stop _ _
  | astray | exhausted => exact h.refl _
  | @failed line f here hat hstep =>
    have lead := leads_of_step h d.pc line.instruction d.scopes d.world
    rwa [hstep] at lead

theorem leads_of_runOut (h : ex.LeadsUnder flag R) (stopping : Bool) (pc : Int) (s : Scopes) (w : ω) :
    R w (runOut ex stopping pc s w).2.2 := by
  have finish := h.finish s w
  rw [runOut]
  split
  · split
    · next heq => rwa [heq] at finish
    · next heq => rwa [heq] at finish
  · split
    · exact h.stop pc w
    · exact h.refl w

/-- **What every answer keeps while the flag is down, every run keeps**, since it takes no instruction
when the flag is up. -/
theorem leads_under_of_runFrom (h : ex.LeadsUnder flag R) (p : Program κ) (budget taken : Nat)
    (pc : Int) (s : Scopes) (w : ω) :
    R w (runFrom ex (fun _ => flag) p budget taken pc s w).2.2 := by
  induction budget generalizing taken pc s w with
  | zero =>
    cases hat : p.at? pc with
    | none =>
      rw [runFrom_of_none hat]
      exact leads_of_runOut h _ pc s w
    | some line =>
      cases hf : flag w with
      | true =>
        rw [runFrom_of_up hat hf]
        exact h.stop pc w
      | false =>
        simp only [runFrom, hat, hf]
        exact h.refl w
  | succ budget ih =>
    cases hat : p.at? pc with
    | none =>
      rw [runFrom_of_none hat]
      exact leads_of_runOut h _ pc s w
    | some line =>
      cases hf : flag w with
      | true =>
        rw [runFrom_of_up hat hf]
        exact h.stop pc w
      | false =>
        have first : R w (step ex pc line.instruction s w).2.2 :=
          answers_step (i := line.instruction) (A := fun w _ w' => flag w = false → R w w')
            ⟨fun w _ => h.refl w, fun _ w _ => h.refl w, .inr fun w _ => h.refl w,
              fun c _ => h.execute c, h.visit⟩ pc s w hf
        rw [runFrom_succ hat hf]
        generalize step ex pc line.instruction s w = r at first ⊢
        obtain ⟨answer, s', w'⟩ := r
        cases answer with
        | ok next => exact h.trans first (ih _ _ _ _)
        | error f =>
          cases f with
          | access | crash => exact first

theorem leads_of_run (h : ex.Leads R) (flag : Nat → ω → Bool) (budget : Nat) (p : Program κ)
    (keep : Bool) (s : Scopes) (w : ω) : R w (run ex flag budget p keep s w).2.2 :=
  leads_of_runFrom h flag p budget 0 0 s.push w

/-! ### Crashes -/

/-- A program in which nothing goes astray: it binds in the innermost scope, and no jump leads in front
of the first instruction. -/
structure Guided (p : Program κ) : Prop where
  inner : ∀ line ∈ p, line.instruction.isInner = true
  jumps : ∀ line ∈ p, ∀ j, line.instruction.jump? = some j → 0 ≤ j

theorem guided_of_proper {ts : List (Statement κ)} (proper : Statement.ProperIn ts) :
    Guided (compile ts) where
  inner line hline := by
    have level := level_of_proper proper
    obtain ⟨n, hn, hget⟩ := List.mem_iff_getElem.1 hline
    exact (level.fits n line (Nat.zero_le n) hn (by rw [List.getElem?_eq_getElem hn, hget])).inner
  jumps line hline j hj := ((balanced_of_proper proper).jumps line hline j hj).1

theorem mem_of_at? {pc : Int} {line : Line κ} (h : p.at? pc = some line) : line ∈ p := by
  cases pc with
  | ofNat n => exact List.mem_of_getElem? h
  | negSucc n =>
    rw [Program.at?] at h
    split at h
    · exact List.mem_of_getElem? h
    · cases h

theorem pc_nonneg_of_trail (guided : Guided p) {c d : Config ω} {cs : List (Config ω)}
    (trail : Trail ex p c cs d) (start : 0 ≤ c.pc) : 0 ≤ d.pc := by
  induction trail with
  | nil => exact start
  | @cons c d e cs first _ ih =>
    obtain ⟨line, hat, hstep⟩ := first
    refine ih ?_
    rcases pc_of_step hstep with next | jump
    · omega
    · exact guided.jumps line (mem_of_at? hat) _ jump

/-- **A run crashes only as its executor does**, or for want of a text of an integer. -/
theorem crash_of_run {P : ω → Prop} {F : Crash → Prop} (guided : Guided p)
    (only : ex.CrashesOnly p P F) (kept : ex.Leads fun w w' => P w → P w') {w : ω} (start : P w)
    {flag : Nat → ω → Bool} {budget : Nat} {keep : Bool} {s : Scopes} {c : Crash}
    (h : (run ex flag budget p keep s w).1 = .crashed c) : F c := by
  change (runFrom ex flag p budget 0 0 s.push w).1 = .crashed c at h
  obtain ⟨cs, d, trail, ends⟩ := exists_trail_of_runFrom ex flag p budget 0 ⟨0, s.push, w⟩
  have here : P d.world := leads_of_trail kept trail start
  generalize runFrom ex flag p budget 0 0 s.push w = r at ends h
  cases ends with
  | finished | stopped | exhausted => cases h
  | @unfinished crash after out finish =>
    obtain rfl := Outcome.crashed.inj h
    exact only.finish d.scopes d.world here crash (by rw [finish])
  | astray before =>
    have behind := pc_nonneg_of_trail guided trail (Int.le_refl 0)
    omega
  | @failed line f after hat hstep =>
    cases f with
    | access e => cases h
    | crash crash =>
      obtain rfl := Outcome.crashed.inj h
      have line_mem := mem_of_at? hat
      have answers : ex.Answers line.instruction fun w r _ =>
          P w → ∀ crash, r = .error (.crash crash) → F crash := {
        idle := fun _ _ _ => nofun
        read := fun e _ _ crash h => by
          cases e with
          | access e => cases h
          | unwritable =>
            cases h
            exact only.unwritable
        scope := .inl (guided.inner line line_mem)
        execute := only.execute line line_mem
        visit := only.visit }
      have crashes := answers_step answers d.pc d.scopes d.world here crash
      rw [hstep] at crashes
      exact crashes rfl

end Machine

end Sweep
