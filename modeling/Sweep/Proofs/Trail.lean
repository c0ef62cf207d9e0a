import Sweep.Machine

/-!
# Trails: the steps of a run

A run is a chain of steps, each of which takes one instruction.  This file gives the chain itself,
apart from budgets and endings:

* `visiting_eq`, `scopes_reading`, `scopes_visiting` — what the parts of a step do to the scopes;
* `Config` — a moment of a run between two instructions: position, scopes, world;
* `Step` and `Trail` — one step, and a chain of steps with all the moments that it leaves;
* `goOn`, `runFrom_succ` — a budgeted run is a step and the run behind it;
* `runFrom_of_trail` — a budgeted run goes along a trail and spends one unit for each step;
* `Ends`, `exists_trail_of_runFrom` — how a run can end at a moment, and that every run goes along a
  trail to such an ending;
* `runFrom_of_failure`, `runFrom_add_of_ends` — a run ends where a step fails, and an ending does
  not depend on budget that is left.

Where a budgeted run is followed step by step the flag is down (`never`).  `depthKeeper` is an
executor to try things with.
-/

namespace Sweep.Machine

variable {κ ω : Type} {ex : Executor κ ω} {p : Program κ}

/-- A flag that is never up. -/
def never : Nat → ω → Bool := fun _ _ => false

/-- An executor that notes at each command how many scopes there are. -/
def depthKeeper : Executor String (List Nat) where
  execute _ s depths := (.ok (), s, depths ++ [s.length])
  visit _ _ _ s depths := (.ok (), s, depths)
  finish s depths := (.ok (), s, depths)
  stop _ depths := depths

/-! ### Parts of a step -/

/-- What holds of the scopes when nothing can be read, and after whatever follows, holds in any
case. -/
theorem scopes_reading {α β : Type} {P : Scopes → Prop} {r : Except ReadError α} {s : Scopes}
    {w : ω} {next : α → Except Failure β × Scopes × ω} (hs : P s)
    (h : ∀ a, r = .ok a → P (next a).2.1) : P (reading r s w next).2.1 := by
  cases r with
  | error e => exact hs
  | ok a => exact h a rfl

/-- The machine answers yes where the executor takes note of a position. -/
theorem visiting_eq (ex : Executor κ ω) (x : NameId) (position : Int) (v : Value) (s : Scopes)
    (w : ω) : visiting ex x position v s w
      = ((ex.visit x position v s w).1.map fun _ => true, (ex.visit x position v s w).2) := by
  rw [visiting]
  split
  · next heq => rw [heq]; rfl
  · next heq => rw [heq]; rfl

/-- Giving an answer changes nothing: the executor does. -/
theorem scopes_visiting (ex : Executor κ ω) (x : NameId) (position : Int) (v : Value) (s : Scopes)
    (w : ω) : (visiting ex x position v s w).2.1 = (ex.visit x position v s w).2.1 := by
  rw [visiting_eq]

/-! ### Moments and trails -/

/-- A moment of a run between two instructions. -/
structure Config (ω : Type) where
  pc : Int
  scopes : Scopes
  world : ω

/-- The machine takes the instruction at a moment and goes on. -/
def Step (ex : Executor κ ω) (p : Program κ) (c d : Config ω) : Prop :=
  ∃ line, p.at? c.pc = some line ∧
    step ex c.pc line.instruction c.scopes c.world = (.ok d.pc, d.scopes, d.world)

/-- `Trail ex p c cs d`: the machine goes from `c` to `d`, and `cs` are the moments that it leaves on
its way, in order. -/
inductive Trail (ex : Executor κ ω) (p : Program κ) :
    Config ω → List (Config ω) → Config ω → Prop where
  | nil (c : Config ω) : Trail ex p c [] c
  | cons {c d e : Config ω} {cs : List (Config ω)} (first : Step ex p c d)
      (rest : Trail ex p d cs e) : Trail ex p c (c :: cs) e

namespace Trail

variable {c d e : Config ω} {cs ds : List (Config ω)}

theorem single (h : Step ex p c d) : Trail ex p c [c] d := .cons h (.nil d)

theorem append (h₁ : Trail ex p c cs d) (h₂ : Trail ex p d ds e) :
    Trail ex p c (cs ++ ds) e := by
  induction h₁ with
  | nil => exact h₂
  | cons first _ ih => exact .cons first (ih h₂)

theorem snoc (h₁ : Trail ex p c cs d) (h₂ : Step ex p d e) : Trail ex p c (cs ++ [d]) e :=
  h₁.append (.single h₂)

end Trail

/-! ### Budgeted runs step by step -/

/-- Where there is no instruction, the run ends. -/
theorem runFrom_of_none {pc : Int} (hat : p.at? pc = none) (ex : Executor κ ω)
    (flag : Nat → ω → Bool) (budget taken : Nat) (s : Scopes) (w : ω) :
    runFrom ex flag p budget taken pc s w = runOut ex (flag taken w) pc s w := by
  cases budget with
  | zero => rw [runFrom, hat]
  | succ budget => rw [runFrom, hat]

theorem runFrom_of_up {flag : Nat → ω → Bool} {taken : Nat} {pc : Int} {w : ω} {line : Line κ}
    (hat : p.at? pc = some line) (up : flag taken w = true) (ex : Executor κ ω) (budget : Nat)
    (s : Scopes) : runFrom ex flag p budget taken pc s w = (.stopped, s, ex.stop pc w) := by
  cases budget with
  | zero => rw [runFrom, hat]; exact if_pos up
  | succ budget => rw [runFrom, hat]; exact if_pos up

/-- How a run goes on behind a step. -/
def goOn (ex : Executor κ ω) (flag : Nat → ω → Bool) (p : Program κ) (budget taken : Nat) (pc : Int)
    (origin : Option String) : Except Failure Int × Scopes × ω → Outcome × Scopes × ω
  | (.ok next, s, w) => runFrom ex flag p budget taken next s w
  | (.error (.access e), s, w) => (.failed pc e origin, s, w)
  | (.error (.crash c), s, w) => (.crashed c, s, w)

/-- With the flag down and budget left, a run takes a step. -/
theorem runFrom_succ {flag : Nat → ω → Bool} {taken : Nat} {pc : Int} {w : ω} {line : Line κ}
    (hat : p.at? pc = some line) (down : flag taken w = false) (ex : Executor κ ω) (budget : Nat)
    (s : Scopes) : runFrom ex flag p (budget + 1) taken pc s w
      = goOn ex flag p budget (taken + 1) pc (placeOf pc line) (step ex pc line.instruction s w) := by
  rw [runFrom, hat]
  dsimp only
  rw [if_neg (by rw [down]; exact Bool.false_ne_true)]
  obtain ⟨f | next, s', w'⟩ := step ex pc line.instruction s w
  · cases f <;> rfl
  · rfl

/-! ### Budgeted runs along a trail -/

/-- **A run goes along a trail.**  Each step takes one unit of the budget. -/
theorem runFrom_of_trail {c d : Config ω} {cs : List (Config ω)} (h : Trail ex p c cs d)
    (budget taken : Nat) :
    runFrom ex never p (cs.length + budget) taken c.pc c.scopes c.world
      = runFrom ex never p budget (taken + cs.length) d.pc d.scopes d.world := by
  induction h generalizing taken with
  | nil => simp
  | @cons c d e cs first _ ih =>
    obtain ⟨line, hat, hstep⟩ := first
    have hb : (c :: cs).length + budget = cs.length + budget + 1 := by
      rw [List.length_cons]
      omega
    rw [hb, runFrom, hat]
    simp only [never, Bool.false_eq_true, if_false, hstep]
    rw [show taken + (c :: cs).length = taken + 1 + cs.length by
      rw [List.length_cons]
      omega]
    exact ih (taken + 1)

/-- The outcome of a run whose next step fails. -/
def failureOutcome (pc : Int) (origin : Option String) : Failure → Outcome
  | .access e => .failed pc e origin
  | .crash c => .crashed c

theorem runFrom_of_failure {c : Config ω} {line : Line κ} {f : Failure} {s : Scopes} {w : ω}
    (hat : p.at? c.pc = some line)
    (hstep : step ex c.pc line.instruction c.scopes c.world = (.error f, s, w))
    (budget taken : Nat) :
    runFrom ex never p (budget + 1) taken c.pc c.scopes c.world
      = (failureOutcome c.pc (placeOf c.pc line) f, s, w) := by
  rw [runFrom, hat]
  simp only [never, Bool.false_eq_true, if_false, hstep]
  cases f <;> rfl

theorem runFrom_of_spent {c : Config ω} {line : Line κ} (hat : p.at? c.pc = some line)
    (taken : Nat) :
    runFrom ex never p 0 taken c.pc c.scopes c.world = (.exhausted, c.scopes, c.world) := by
  rw [runFrom, hat]
  rfl

/-- Behind the last instruction the executor finishes. -/
theorem runFrom_of_end {n : Nat} (hn : p.length ≤ n) (budget taken : Nat) (s : Scopes) (w : ω) :
    runFrom ex never p budget taken n s w = runOut ex false n s w := by
  have hat : p.at? (n : Int) = none := List.getElem?_eq_none hn
  exact runFrom_of_none hat ex never budget taken s w

/-! ### Endings -/

/-- How a run ends at a moment, and what is there afterwards. -/
inductive Ends (ex : Executor κ ω) (flag : Nat → ω → Bool) (p : Program κ) (d : Config ω) :
    Outcome × Scopes × ω → Prop where
  | finished {here : Scopes × ω} (out : p.at? d.pc = none)
      (finish : ex.finish d.scopes d.world = (.ok (), here)) : Ends ex flag p d (.finished, here)
  /-- The executor cannot finish. -/
  | unfinished {c : Crash} {here : Scopes × ω} (out : p.at? d.pc = none)
      (finish : ex.finish d.scopes d.world = (.error c, here)) : Ends ex flag p d (.crashed c, here)
  | stopped (up : ∃ taken, flag taken d.world = true) :
      Ends ex flag p d (.stopped, d.scopes, ex.stop d.pc d.world)
  /-- The position is before the first instruction. -/
  | astray (before : d.pc < 0) : Ends ex flag p d (.crashed .noInstruction, d.scopes, d.world)
  | exhausted : Ends ex flag p d (.exhausted, d.scopes, d.world)
  | failed {line : Line κ} {f : Failure} {here : Scopes × ω} (hat : p.at? d.pc = some line)
      (hstep : step ex d.pc line.instruction d.scopes d.world = (.error f, here)) :
      Ends ex flag p d (failureOutcome d.pc (placeOf d.pc line) f, here)

theorem ends_of_runOut {flag : Nat → ω → Bool} {d : Config ω} (out : p.at? d.pc = none)
    (taken : Nat) : Ends ex flag p d (runOut ex (flag taken d.world) d.pc d.scopes d.world) := by
  rw [runOut]
  split
  · split
    · next finish => exact .finished out finish
    · next finish => exact .unfinished out finish
  · next before =>
    split
    · next up => exact .stopped ⟨taken, up⟩
    · exact .astray (by omega)

/-- **Every run goes along a trail and ends at its last moment.** -/
theorem exists_trail_of_runFrom (ex : Executor κ ω) (flag : Nat → ω → Bool) (p : Program κ)
    (budget taken : Nat) (c : Config ω) :
    ∃ cs d, Trail ex p c cs d ∧
      Ends ex flag p d (runFrom ex flag p budget taken c.pc c.scopes c.world) := by
  induction budget generalizing taken c with
  | zero =>
    rw [runFrom]
    cases hat : p.at? c.pc with
    | none => exact ⟨[], c, .nil c, ends_of_runOut hat taken⟩
    | some line =>
      dsimp only
      split
      · next up => exact ⟨[], c, .nil c, .stopped ⟨taken, up⟩⟩
      · exact ⟨[], c, .nil c, .exhausted⟩
  | succ budget ih =>
    rw [runFrom]
    cases hat : p.at? c.pc with
    | none => exact ⟨[], c, .nil c, ends_of_runOut hat taken⟩
    | some line =>
      dsimp only
      split
      · next up => exact ⟨[], c, .nil c, .stopped ⟨taken, up⟩⟩
      · rcases hs : step ex c.pc line.instruction c.scopes c.world with ⟨f | next, s, w⟩
        · have ended : Ends ex flag p c (failureOutcome c.pc (placeOf c.pc line) f, s, w) :=
            .failed hat hs
          cases f with
          | access e => exact ⟨[], c, .nil c, ended⟩
          | crash e => exact ⟨[], c, .nil c, ended⟩
        · obtain ⟨cs, d, trail, ends⟩ := ih (taken + 1) ⟨next, s, w⟩
          exact ⟨_, d, .cons ⟨line, hat, hs⟩ trail, ends⟩

/-- **More budget keeps an ending.** -/
theorem runFrom_add_of_ends (flag : Nat → ω → Bool) (more budget taken : Nat) (pc : Int)
    (s : Scopes) (w : ω) (h : (runFrom ex flag p budget taken pc s w).1 ≠ .exhausted) :
    runFrom ex flag p (budget + more) taken pc s w = runFrom ex flag p budget taken pc s w := by
  induction budget generalizing taken pc s w with
  | zero =>
    rw [runFrom] at h ⊢
    cases hat : p.at? pc with
    | none => rw [runFrom, hat]
    | some line =>
      rw [runFrom, hat]
      cases hf : flag taken w with
      | true => rfl
      | false => simp [hat, hf] at h
  | succ budget ih =>
    rw [show budget + 1 + more = budget + more + 1 by omega]
    rw [runFrom] at h ⊢
    rw [runFrom]
    cases hat : p.at? pc with
    | none => rfl
    | some line =>
      cases hf : flag taken w with
      | true => rfl
      | false =>
        simp only [hat, hf, Bool.false_eq_true, if_false] at h ⊢
        cases hs : step ex pc line.instruction s w with
        | mk r next =>
          cases r with
          | ok pc' =>
            simp only [hs] at h ⊢
            exact ih _ _ _ _ h
          | error f => cases f <;> rfl

end Sweep.Machine
