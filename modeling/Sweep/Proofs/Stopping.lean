import Sweep.Proofs.Answering
import Sweep.Proofs.Simulation

/-!
# Runs that are stopped

A flag that comes up in the midst of a run cuts the run short, and changes nothing of what comes before.
Two runs are compared here: one for which the flag stays down, and one for which it comes up when some
number of instructions was taken, by whatever this is decided.

* `Summons`, `Executor.observed` — all that is asked of an executor, to stop included, written down with
  the scopes and the world that it finds, which changes no run (`unnoted_runFrom`);
* `moments` — the moments at which a run takes an instruction;
* `ComesUp` — when the flag comes up, and `moments_of_comesUp`, `runFrom_of_comesUp`, `runFrom_of_sooner`
  — what the run under that flag does up to there, there, and if it never gets there;
* `Unended`, `unended_of_trail` — no step asks an executor to finish or to stop;
* `EndsOnce`, `endsOnce_of_ends` — how a run ends, with all that was asked of its executor.

The main statement is `stopped_run_is_beginning`.
-/

namespace Sweep

variable {κ ω : Type}

/-- What is asked of an executor: a call, or to stop before the instruction at a position. -/
inductive Summons (κ ω : Type) where
  | call (c : Call κ ω)
  | stop (pc : Int) (w : ω)

/-- To finish and to stop are asked at the end of a run. -/
def Summons.isLast : Summons κ ω → Bool
  | call (.finish ..) | stop .. => true
  | call _ => false

/-- An executor that does what another one does, and writes down all that is asked of it. -/
def Executor.observed (ex : Executor κ ω) : Executor κ (ω × List (Summons κ ω)) where
  execute c s v :=
    let (r, s', w) := ex.execute c s v.1
    (r, s', w, v.2 ++ [.call (.execute c s v.1)])
  visit x position value s v :=
    let (r, s', w) := ex.visit x position value s v.1
    (r, s', w, v.2 ++ [.call (.visit x position value s v.1)])
  finish s v :=
    let (r, s', w) := ex.finish s v.1
    (r, s', w, v.2 ++ [.call (.finish s v.1)])
  stop pc v := (ex.stop pc v.1, v.2 ++ [.stop pc v.1])

namespace Machine

variable {ex : Executor κ ω} {p : Program κ} {flag : Nat → ω → Bool} {k taken : Nat}

/-! ### The instructions that a run takes -/

/-- The moments at which a run takes an instruction, in order.  The last of these instructions may
fail. -/
def moments (ex : Executor κ ω) (flag : Nat → ω → Bool) (p : Program κ) :
    (budget taken : Nat) → Config ω → List (Config ω)
  | 0, _, _ => []
  | budget + 1, taken, c =>
    match p.at? c.pc with
    | none => []
    | some line =>
      if flag taken c.world then []
      else c :: match step ex c.pc line.instruction c.scopes c.world with
        | (.ok pc, s, w) => moments ex flag p budget (taken + 1) ⟨pc, s, w⟩
        | (.error _, _) => []

/-- The flag comes up when `k` instructions were taken; `taken` of them came before the moment `c`. -/
def ComesUp (ex : Executor κ ω) (flag : Nat → ω → Bool) (p : Program κ) (k taken : Nat)
    (c : Config ω) : Prop :=
  ∀ cs d, Trail ex p c cs d → (flag (taken + cs.length) d.world = true ↔ k ≤ taken + cs.length)

namespace ComesUp

variable {c d : Config ω}

theorem here (up : ComesUp ex flag p k taken c) : flag taken c.world = true ↔ k ≤ taken :=
  up [] c (.nil c)

theorem down (up : ComesUp ex flag p k taken c) (before : taken < k) :
    flag taken c.world = false := by
  rw [← Bool.not_eq_true, up.here]
  omega

theorem next (up : ComesUp ex flag p k taken c) (first : Step ex p c d) :
    ComesUp ex flag p k (taken + 1) d := by
  intro cs e trail
  have later := up (c :: cs) e (.cons first trail)
  rwa [List.length_cons, show taken + (cs.length + 1) = taken + 1 + cs.length by omega] at later

end ComesUp

/-- **The first instructions.**  Under a flag that comes up, the run takes the instructions that it
takes without one, up to the moment at which the flag comes up. -/
theorem moments_of_comesUp {budget : Nat} {c : Config ω} (up : ComesUp ex flag p k taken c)
    (before : taken ≤ k) :
    moments ex flag p budget taken c = (moments ex never p budget taken c).take (k - taken) := by
  induction budget generalizing taken c with
  | zero => simp [moments]
  | succ budget ih =>
    rw [moments, moments]
    cases hat : p.at? c.pc with
    | none => simp
    | some line =>
      rcases Nat.eq_or_lt_of_le before with rfl | before
      · simp [up.here.2 (Nat.le_refl taken)]
      · have left : k - taken = k - (taken + 1) + 1 := by omega
        simp only [up.down before, never, Bool.false_eq_true, if_false]
        rw [left, List.take_succ_cons]
        rcases hs : step ex c.pc line.instruction c.scopes c.world with ⟨f | pc, s, w⟩
        · simp
        · have first : Step ex p c ⟨pc, s, w⟩ := ⟨line, hat, hs⟩
          exact congrArg (c :: ·) (ih (up.next first) before)

/-- Up to the moment at which the flag comes up, a run goes along its trail. -/
theorem runFrom_of_comesUp {c d : Config ω} {cs : List (Config ω)} (trail : Trail ex p c cs d)
    (up : ComesUp ex flag p k taken c) (count : taken + cs.length = k) (budget : Nat) :
    runFrom ex flag p (cs.length + budget) taken c.pc c.scopes c.world
      = runFrom ex flag p budget k d.pc d.scopes d.world := by
  induction trail generalizing taken with
  | nil c =>
    rw [List.length_nil, Nat.add_zero] at count
    rw [List.length_nil, Nat.zero_add, count]
  | @cons c d e cs first _ ih =>
    rw [List.length_cons] at count ⊢
    have down : flag taken c.world = false := up.down (by omega)
    have rest := ih (up.next first) (by omega)
    obtain ⟨line, hat, hstep⟩ := first
    rw [show cs.length + 1 + budget = cs.length + budget + 1 by omega, runFrom_succ hat down, hstep]
    exact rest

/-- A run that ends before the flag comes up is the run without a flag. -/
theorem runFrom_of_sooner (budget : Nat) {c : Config ω} (up : ComesUp ex flag p k taken c)
    (before : taken ≤ k) (sooner : ∀ cs d, Trail ex p c cs d → taken + cs.length ≠ k) :
    runFrom ex flag p budget taken c.pc c.scopes c.world
      = runFrom ex never p budget taken c.pc c.scopes c.world := by
  have start : taken ≠ k := sooner [] c (.nil c)
  have down : flag taken c.world = false := up.down (by omega)
  induction budget generalizing taken c with
  | zero =>
    rw [runFrom, runFrom, down]
    rfl
  | succ budget ih =>
    cases hat : p.at? c.pc with
    | none =>
      rw [runFrom_of_none hat, runFrom_of_none hat, down]
      rfl
    | some line =>
      rw [runFrom_succ hat down, runFrom_succ hat rfl]
      rcases hs : step ex c.pc line.instruction c.scopes c.world with ⟨f | pc, s, w⟩
      · cases f with
        | access | crash => rfl
      · have first : Step ex p c ⟨pc, s, w⟩ := ⟨line, hat, hs⟩
        have later : ∀ cs d, Trail ex p ⟨pc, s, w⟩ cs d → taken + 1 + cs.length ≠ k := by
          intro cs d trail
          have longer := sooner (c :: cs) d (.cons first trail)
          rw [List.length_cons] at longer
          omega
        have next : taken + 1 ≠ k := later [] _ (.nil _)
        exact ih (up.next first) (by omega) later next ((up.next first).down (by omega))

/-- Where the flag is up, a run is stopped if its position is inside the program, and finishes behind
the last instruction all the same. -/
theorem runFrom_of_raised {pc : Int} {w : ω} (up : flag taken w = true) (budget : Nat) (s : Scopes) :
    runFrom ex flag p budget taken pc s w
      = if pc < p.length then (.stopped, s, ex.stop pc w) else runOut ex false pc s w := by
  cases hat : p.at? pc with
  | some line =>
    have inside : pc < p.length := by
      cases pc with
      | ofNat n => exact Int.ofNat_lt.2 (lt_length_of_getElem? hat)
      | negSucc n => omega
    rw [runFrom_of_up hat up, if_pos inside]
  | none =>
    rw [runFrom_of_none hat, up, runOut, runOut]
    cases pc with
    | ofNat n =>
      have behind : p.length ≤ n := List.getElem?_eq_none_iff.1 hat
      simp [behind]
    | negSucc n =>
      have before : (Int.negSucc n) < p.length := by omega
      simp [before]

/-! ### What is asked of an executor -/

/-- An answer of an executor that writes down, without what it has written. -/
def unnoted {α ν : Type} (r : α × Scopes × ω × ν) : α × Scopes × ω := (r.1, r.2.1, r.2.2.1)

section Observed

variable {v : ω × List (Summons κ ω)}

theorem unnoted_reading {α β : Type} (r : Except ReadError α) (s : Scopes)
    {next : α → Except Failure β × Scopes × ω × List (Summons κ ω)}
    {next' : α → Except Failure β × Scopes × ω} (h : ∀ a, unnoted (next a) = next' a) :
    unnoted (reading r s v next) = reading r s v.1 next' := by
  cases r with
  | error e => rfl
  | ok a => exact h a

theorem unnoted_visiting (x : NameId) (position : Int) (whole : Value) (s : Scopes) :
    unnoted (visiting ex.observed x position whole s v) = visiting ex x position whole s v.1 := by
  have same : ex.observed.visit x position whole s v
      = ((ex.visit x position whole s v.1).1, (ex.visit x position whole s v.1).2.1,
          (ex.visit x position whole s v.1).2.2, v.2 ++ [.call (.visit x position whole s v.1)]) := rfl
  rw [visiting, visiting, same]
  rcases ex.visit x position whole s v.1 with ⟨f | u, s', w⟩
  · rfl
  · rfl

theorem unnoted_begin (x : NameId) (s : Scopes) (t : Target) :
    unnoted (begin_ ex.observed x s v t) = begin_ ex x s v.1 t := by
  cases t with
  | range lo hi =>
    refine unnoted_reading _ s fun ⟨a, b⟩ => ?_
    dsimp only
    split
    · exact unnoted_visiting _ _ _ _
    · rfl
  | elements t =>
    refine unnoted_reading _ s fun ⟨n, whole⟩ => ?_
    dsimp only
    split
    · rfl
    · exact unnoted_reading _ _ fun whole => unnoted_visiting _ _ _ _

theorem unnoted_proceed (x : NameId) (s : Scopes) :
    unnoted (proceed ex.observed x s v) = proceed ex x s v.1 := by
  refine unnoted_reading _ s fun ⟨n, cursor⟩ => ?_
  cases cursor with
  | counter =>
    dsimp only
    split
    · exact unnoted_visiting _ _ _ _
    · rfl
  | ref =>
    refine unnoted_reading _ s fun whole => ?_
    dsimp only
    split
    · exact unnoted_visiting _ _ _ _
    · rfl
  | struct | list => rfl

theorem unnoted_plainStep (i : Instruction κ) (s : Scopes) :
    unnoted (plainStep ex.observed i s v) = plainStep ex i s v.1 := by
  cases i with
  | create x e scope =>
    cases scope with
    | none => exact unnoted_reading _ s fun _ => rfl
    | some n =>
      refine unnoted_reading _ s fun value => ?_
      split <;> rfl
  | assign | push => exact unnoted_reading _ s fun _ => rfl
  | pushScope | popScope | start | advance | branch | goto | command => rfl

/-- **Writing down changes no step.** -/
theorem unnoted_step (ex : Executor κ ω) (v : ω × List (Summons κ ω)) (pc : Int) (i : Instruction κ)
    (s : Scopes) :
    unnoted (step ex.observed pc i s v) = step ex pc i s v.1 := by
  -- the position behind a step depends on the answer alone
  have jumped (jump : Int) {r : Except Failure Bool × Scopes × ω × List (Summons κ ω)}
      {r' : Except Failure Bool × Scopes × ω} (h : unnoted r = r') :
      unnoted (orJump pc jump r) = orJump pc jump r' := h ▸ rfl
  have plain : unnoted ((plainStep ex.observed i s v).1.map fun _ => pc + 1,
      (plainStep ex.observed i s v).2) = ((plainStep ex i s v.1).1.map fun _ => pc + 1,
        (plainStep ex i s v.1).2) := by
    rw [← unnoted_plainStep]
    rfl
  cases i with
  | start t x jump => exact jumped jump (unnoted_begin x s t)
  | advance t x jump => exact jumped jump (unnoted_proceed x s)
  | branch guard jump => exact jumped jump (unnoted_reading _ s fun _ => rfl)
  | goto jump => rfl
  | pushScope | popScope | create | assign | push | command => exact plain

theorem unnoted_runOut (stopping : Bool) (pc : Int) (s : Scopes) :
    unnoted (runOut ex.observed stopping pc s v) = runOut ex stopping pc s v.1 := by
  have same : ex.observed.finish s v = ((ex.finish s v.1).1, (ex.finish s v.1).2.1,
      (ex.finish s v.1).2.2, v.2 ++ [.call (.finish s v.1)]) := rfl
  rw [runOut, runOut, same]
  split
  · rcases ex.finish s v.1 with ⟨c | u, s', w⟩
    · rfl
    · rfl
  · split <;> rfl

/-- **Writing down changes no run**, by induction over the budget. -/
theorem unnoted_runFrom (flag : Nat → ω → Bool) (p : Program κ) (budget taken : Nat) (pc : Int)
    (s : Scopes) (v : ω × List (Summons κ ω)) :
    unnoted (runFrom ex.observed (fun n v => flag n v.1) p budget taken pc s v)
      = runFrom ex flag p budget taken pc s v.1 := by
  induction budget generalizing taken pc s v with
  | zero =>
    rw [runFrom, runFrom]
    split
    · exact unnoted_runOut _ pc s
    · split <;> rfl
  | succ budget ih =>
    rw [runFrom, runFrom]
    split
    · exact unnoted_runOut _ pc s
    · next line _ =>
      split
      · rfl
      · have same := unnoted_step ex v pc line.instruction s
        dsimp only
        generalize step ex.observed pc line.instruction s v = q at same ⊢
        obtain ⟨r, s', v'⟩ := q
        rw [← same]
        cases r with
        | ok next => exact ih (taken + 1) next s' v'
        | error f =>
          cases f with
          | access | crash => rfl

end Observed

/-- The executor was not asked to finish or to stop. -/
def Unended (asked : List (Summons κ ω)) : Prop := ∀ x ∈ asked, x.isLast = false

theorem unended_snoc {asked : List (Summons κ ω)} {x : Summons κ ω} (h : Unended asked)
    (hx : x.isLast = false) : Unended (asked ++ [x]) := by
  intro y hy
  rcases List.mem_append.1 hy with hy | hy
  · exact h y hy
  · exact List.mem_singleton.1 hy ▸ hx

/-- **No step asks an executor to finish or to stop**, whether it succeeds or not. -/
theorem unended_of_step (ex : Executor κ ω) (pc : Int) (i : Instruction κ) (s : Scopes)
    (v : ω × List (Summons κ ω)) (h : Unended v.2) : Unended (step ex.observed pc i s v).2.2.2 := by
  have answers : ex.observed.Answers i fun v _ v' => Unended v.2 → Unended v'.2 := {
    idle := fun _ h => h
    read := fun _ _ h => h
    scope := .inr fun _ h => h
    execute := fun _ _ _ _ h => unended_snoc h rfl
    visit := fun _ _ _ _ _ h => unended_snoc h rfl }
  exact answers_step answers pc s v h

theorem unended_of_trail {c d : Config (ω × List (Summons κ ω))}
    {cs : List (Config (ω × List (Summons κ ω)))} (trail : Trail ex.observed p c cs d)
    (h : Unended c.world.2) : Unended d.world.2 := by
  induction trail with
  | nil => exact h
  | @cons c d e cs first _ ih =>
    obtain ⟨line, -, hstep⟩ := first
    have after := unended_of_step ex c.pc line.instruction c.scopes c.world h
    rw [hstep] at after
    exact ih after

/-- How a run ended, with all that was asked of its executor: it was asked to finish, or it was asked to
stop, or an error came of an instruction.  Each excludes the others, and nothing was asked twice or
later. -/
inductive EndsOnce : Outcome → List (Summons κ ω) → Prop where
  | finish {o : Outcome} {asked : List (Summons κ ω)} {s : Scopes} {w : ω}
      (ended : o = .finished ∨ ∃ c, o = .crashed c) (before : Unended asked) :
      EndsOnce o (asked ++ [.call (.finish s w)])
  | stop {asked : List (Summons κ ω)} {pc : Int} {w : ω} (before : Unended asked) :
      EndsOnce .stopped (asked ++ [.stop pc w])
  | error {o : Outcome} {asked : List (Summons κ ω)}
      (raised : (∃ pc e origin, o = .failed pc e origin) ∨ ∃ c, o = .crashed c)
      (all : Unended asked) : EndsOnce o asked

/-- **One ending.**  A run that is not out of budget ended in one of the three ways. -/
theorem endsOnce_of_ends {flag : Nat → ω × List (Summons κ ω) → Bool}
    {d : Config (ω × List (Summons κ ω))} {r : Outcome × Scopes × ω × List (Summons κ ω)}
    (ends : Ends ex.observed flag p d r) (before : Unended d.world.2) (enough : r.1 ≠ .exhausted) :
    EndsOnce r.1 r.2.2.2 := by
  cases ends with
  | finished out finish =>
    obtain ⟨-, rfl⟩ := Prod.mk.inj finish
    exact .finish (.inl rfl) before
  | unfinished out finish =>
    obtain ⟨-, rfl⟩ := Prod.mk.inj finish
    exact .finish (.inr ⟨_, rfl⟩) before
  | stopped up => exact .stop before
  | astray => exact .error (.inr ⟨_, rfl⟩) before
  | exhausted => exact absurd rfl enough
  | @failed line f here hat hstep =>
    have after := unended_of_step ex d.pc line.instruction d.scopes d.world before
    rw [hstep] at after
    cases f with
    | access e => exact .error (.inl ⟨_, _, _, rfl⟩) after
    | crash c => exact .error (.inr ⟨_, rfl⟩) after

/-! ### Stopped runs -/

/-- What a run leaves when it keeps its scopes or takes them off. -/
def leave (keep : Bool) (s : Scopes) (r : Outcome × Scopes × ω) : Outcome × Scopes × ω :=
  (r.1, if keep then r.2.1 else r.2.1.truncate s.length, r.2.2)

theorem run_eq_leave (ex : Executor κ ω) (flag : Nat → ω → Bool) (budget : Nat) (p : Program κ)
    (keep : Bool) (s : Scopes) (w : ω) :
    run ex flag budget p keep s w = leave keep s (runFrom ex flag p budget 0 0 s.push w) := rfl

/-- A run under a flag that comes up after `k` instructions, beside the run without a flag.  Both begin at
`start`, and `asked` is all that is asked of their executor up to a moment. -/
structure CutShort (ex : Executor κ ω) (p : Program κ) (k budget : Nat)
    (start : Config (ω × List (Summons κ ω)))
    (cut whole : Outcome × Scopes × ω × List (Summons κ ω)) : Prop where
  /-- Inside the program the executor is asked to stop. -/
  inside : ∀ cs d, Trail ex.observed p start cs d → cs.length = k → k ≤ budget → d.pc < p.length →
    cut.1 = .stopped ∧ Unended d.world.2 ∧ cut.2.2.2 = d.world.2 ++ [.stop d.pc d.world.1]
  /-- Behind the program the executor is asked to finish. -/
  behind : ∀ cs d, Trail ex.observed p start cs d → cs.length = k → k ≤ budget → p.length ≤ d.pc →
    cut = whole ∧ Unended d.world.2 ∧
      cut.2.2.2 = d.world.2 ++ [.call (.finish d.scopes d.world.1)]
  /-- A run that has ended before is not changed. -/
  sooner : (∀ cs d, Trail ex.observed p start cs d → cs.length ≠ k) → cut = whole

theorem cutShort_of_comesUp {flag : Nat → ω × List (Summons κ ω) → Bool} {s : Scopes} {w : ω}
    (up : ComesUp ex.observed flag p k 0 ⟨0, s.push, w, []⟩) (budget : Nat) (keep : Bool) :
    CutShort ex p k budget ⟨0, s.push, w, []⟩ (run ex.observed flag budget p keep s (w, []))
      (run ex.observed never budget p keep s (w, [])) := by
  have quiet : Unended ([] : List (Summons κ ω)) := nofun
  -- where the flag comes up the run under it has gone along the same trail
  have along (cs d) (trail : Trail ex.observed p ⟨0, s.push, w, []⟩ cs d) (count : cs.length = k)
      (le : k ≤ budget) : runFrom ex.observed flag p budget 0 0 s.push (w, [])
        = if d.pc < p.length then (.stopped, d.scopes, ex.observed.stop d.pc d.world)
          else runOut ex.observed false d.pc d.scopes d.world := by
    obtain ⟨more, rfl⟩ := Nat.exists_eq_add_of_le le
    have raised : flag k d.world = true := by
      have comes := up cs d trail
      rw [Nat.zero_add, count] at comes
      exact comes.2 (Nat.le_refl k)
    have there := runFrom_of_comesUp trail up (by omega) more
    rw [count] at there
    exact there.trans (runFrom_of_raised raised more d.scopes)
  refine ⟨fun cs d trail count le inside => ?_, fun cs d trail count le behind => ?_, fun never_ => ?_⟩
  · rw [run_eq_leave, along cs d trail count le, if_pos inside]
    exact ⟨rfl, unended_of_trail trail quiet, rfl⟩
  · have out : ¬ d.pc < p.length := by omega
    have whole : runFrom ex.observed never p budget 0 0 s.push (w, [])
        = runOut ex.observed false d.pc d.scopes d.world := by
      obtain ⟨more, rfl⟩ := Nat.exists_eq_add_of_le le
      have there := runFrom_of_trail trail more 0
      rw [count] at there
      obtain ⟨n, hn⟩ := Int.eq_ofNat_of_zero_le (show 0 ≤ d.pc by omega)
      rw [hn] at there behind ⊢
      exact there.trans (runFrom_of_end (by omega) more _ d.scopes d.world)
    rw [run_eq_leave, run_eq_leave, along cs d trail count le, if_neg out, whole]
    refine ⟨rfl, unended_of_trail trail quiet, ?_⟩
    rw [runOut, if_pos (show 0 ≤ d.pc by omega)]
    dsimp only [leave]
    split
    · next finish => exact (congrArg (·.2.2.2) finish).symm
    · next finish => exact (congrArg (·.2.2.2) finish).symm
  · have same := runFrom_of_sooner budget up (Nat.zero_le k) fun cs d trail => by
      rw [Nat.zero_add]
      exact never_ cs d trail
    rw [run_eq_leave, run_eq_leave]
    exact congrArg (leave keep s) same

/-- **A run that is stopped is the beginning of the run that is not.**  Take any program, also one that no
statements became, any executor, which is observed, and any flag that comes up when `k` instructions were
taken.  The run takes the first `k` instructions of the run without a flag, at the same moments and so with
the same calls before them; then the executor is asked once to stop if the position is inside the program,
and once to finish if it is behind it.  Under any flag whatever a run that ends does so in exactly one of
three ways, and it leaves no more scopes than it found unless they are to be kept. -/
theorem stopped_run_is_beginning (ex : Executor κ ω) (p : Program κ) (budget : Nat) (keep : Bool)
    (s : Scopes) (w : ω) :
    (∀ flag, unnoted (run ex.observed (fun n v => flag n v.1) budget p keep s (w, []))
      = run ex flag budget p keep s w) ∧
    (∀ flag k, ComesUp ex.observed flag p k 0 ⟨0, s.push, w, []⟩ →
      moments ex.observed flag p budget 0 ⟨0, s.push, w, []⟩
        = (moments ex.observed never p budget 0 ⟨0, s.push, w, []⟩).take k ∧
      CutShort ex p k budget ⟨0, s.push, w, []⟩ (run ex.observed flag budget p keep s (w, []))
        (run ex.observed never budget p keep s (w, []))) ∧
    ∀ flag, (run ex.observed flag budget p keep s (w, [])).1 ≠ .exhausted →
      EndsOnce (run ex.observed flag budget p keep s (w, [])).1
        (run ex.observed flag budget p keep s (w, [])).2.2.2 ∧
      (keep = false → (run ex.observed flag budget p keep s (w, [])).2.1.length ≤ s.length) := by
  refine ⟨fun flag => ?_, fun flag k up => ⟨?_, ?_⟩, fun flag enough => ⟨?_, fun off => ?_⟩⟩
  · exact congrArg (leave keep s) (unnoted_runFrom flag p budget 0 0 s.push (w, []))
  · exact moments_of_comesUp up (Nat.zero_le k)
  · exact cutShort_of_comesUp up budget keep
  · obtain ⟨cs, d, trail, ends⟩ :=
      exists_trail_of_runFrom ex.observed flag p budget 0 ⟨0, s.push, w, []⟩
    change (runFrom ex.observed flag p budget 0 0 s.push (w, [])).1 ≠ .exhausted at enough
    change EndsOnce (runFrom ex.observed flag p budget 0 0 s.push (w, [])).1
      (runFrom ex.observed flag p budget 0 0 s.push (w, [])).2.2.2
    exact endsOnce_of_ends ends (unended_of_trail trail nofun) enough
  · rw [run_eq_leave, off]
    exact List.length_take_le _ _

/-- A flag that comes up after a number of instructions, whatever happens. -/
def upAfter (k : Nat) : Nat → ω → Bool := fun taken _ => decide (k ≤ taken)

theorem comesUp_upAfter (k : Nat) (c : Config ω) : ComesUp ex (upAfter k) p k 0 c :=
  fun _ _ _ => decide_eq_true_iff

/-- In the midst of nested loops, a run is stopped after five instructions. -/
theorem stopped_run_is_beginning_nestedLoops :
    ComesUp depthKeeper.observed (upAfter 5) (compile nestedLoops) 5 0 ⟨0, Scopes.push [], [], []⟩ ∧
    (run depthKeeper.observed (upAfter 5) 9 (compile nestedLoops) false [] ([], [])).1 = .stopped ∧
    (moments depthKeeper.observed (upAfter 5) (compile nestedLoops) 9 0
      ⟨0, Scopes.push [], [], []⟩).length = 5 ∧
    EndsOnce (run depthKeeper.observed (upAfter 5) 9 (compile nestedLoops) false [] ([], [])).1
      (run depthKeeper.observed (upAfter 5) 9 (compile nestedLoops) false [] ([], [])).2.2.2 := by
  have up : ComesUp depthKeeper.observed (upAfter 5) (compile nestedLoops) 5 0
      ⟨0, Scopes.push [], [], []⟩ := comesUp_upAfter 5 _
  have stopped : (run depthKeeper.observed (upAfter 5) 9 (compile nestedLoops) false [] ([], [])).1
      = .stopped := by decide
  obtain ⟨-, beginning, ending⟩ :=
    stopped_run_is_beginning depthKeeper (compile nestedLoops) 9 false [] []
  refine ⟨up, stopped, ?_, (ending (upAfter 5) (by rw [stopped]; nofun)).1⟩
  have taken := (beginning (upAfter 5) 5 up).1
  rw [taken, List.length_take]
  rfl

end Machine
end Sweep
