import Sweep.Statement.Walk
import Sweep.Proofs.Layout
import Sweep.Proofs.Trail

/-!
# Code follows the walk over its statements

A walk carries out a tree of statements and knows no jumps; the machine takes the flat code of the
same tree, where every loop and every guard has become jumps to absolute positions.  This file shows
that the two do the same, for every tree, every executor and every state.

* `Halts` — how the machine breaks off when the walk does;
* `Follows` — the code from a position on carries out an action: where the action gives an answer,
  the machine goes to the exit for that answer with the same scopes and world, and where it halts,
  so does the machine;
* one lemma for each way in which walks are put together: `Follows.bind`, `follows_act`,
  `follows_allYes`, `follows_repeatRounds`, `follows_inScope`;
* `follows_group`, `follows_combinations`, `follows_guarded` — the layouts of loops and guarded
  blocks, at every position of every program;
* `follows_codeAll` — all statements, by induction over the tree;
* `Executor.recorded` — an executor that also writes down every call with the scopes and the world
  that it finds.

The main statement is `run_agrees_with_walk`.  Loops may go on for ever, so it speaks of a walk
within any number of rounds: some budget of instructions, at least as large, takes the machine
exactly as far.
-/

namespace Sweep

/-- A call of an executor, with the scopes and the world that it finds. -/
inductive Call (κ ω : Type) where
  | execute (c : κ) (s : Scopes) (w : ω)
  | visit (x : NameId) (position : Int) (v : Value) (s : Scopes) (w : ω)
  | finish (s : Scopes) (w : ω)

/-- An executor that does what another one does, and writes down every call. -/
def Executor.recorded {κ ω : Type} (ex : Executor κ ω) : Executor κ (ω × List (Call κ ω)) where
  execute c s v :=
    let (r, s', w) := ex.execute c s v.1
    (r, s', w, v.2 ++ [.execute c s v.1])
  visit x position value s v :=
    let (r, s', w) := ex.visit x position value s v.1
    (r, s', w, v.2 ++ [.visit x position value s v.1])
  finish s v :=
    let (r, s', w) := ex.finish s v.1
    (r, s', w, v.2 ++ [.finish s v.1])
  stop pc v := (ex.stop pc v.1, v.2)

end Sweep

namespace Sweep.Machine

variable {κ ω α β : Type} {ex : Executor κ ω} {p : Program κ} {rounds : Nat}

/-- How a run from a moment breaks off: it comes to an instruction that fails, or it has taken many
instructions and is still inside its program. -/
inductive Halts (ex : Executor κ ω) (p : Program κ) (rounds : Nat) (c : Config ω) :
    Halt → Scopes × ω → Prop where
  | fails {cs : List (Config ω)} {d : Config ω} {line : Line κ} {f : Failure} {here : Scopes × ω}
      (trail : Trail ex p c cs d) (line_eq : p.at? d.pc = some line)
      (step_eq : step ex d.pc line.instruction d.scopes d.world = (.error f, here)) :
      Halts ex p rounds c (f.halt (placeOf d.pc line)) here
  | goesOn {cs : List (Config ω)} {d : Config ω} {line : Line κ} (trail : Trail ex p c cs d)
      (line_eq : p.at? d.pc = some line) (long : rounds ≤ cs.length) :
      Halts ex p rounds c .exhausted (d.scopes, d.world)

/-- A trail in front of a run that breaks off. -/
theorem Halts.after {c d : Config ω} {cs : List (Config ω)} {h : Halt} {here : Scopes × ω} {n : Nat}
    (front : Trail ex p c cs d) (halts : Halts ex p n d h here) :
    Halts ex p (cs.length + n) c h here := by
  cases halts with
  | fails trail line_eq step_eq => exact .fails (front.append trail) line_eq step_eq
  | goesOn trail line_eq long =>
    refine .goesOn (front.append trail) line_eq ?_
    rw [List.length_append]
    omega

theorem Halts.mono {c : Config ω} {h : Halt} {here : Scopes × ω} {m n : Nat} (hmn : m ≤ n)
    (halts : Halts ex p n c h here) : Halts ex p m c h here := by
  cases halts with
  | fails trail line_eq step_eq => exact .fails trail line_eq step_eq
  | goesOn trail line_eq long => exact .goesOn trail line_eq (Nat.le_trans hmn long)

/-- The machine, from a moment on, does what came out of an action: it goes to the exit for an
answer, and breaks off for a halt. -/
def Lands (ex : Executor κ ω) (p : Program κ) (rounds : Nat) (exit : α → Nat) (c : Config ω) :
    Except Halt α × Scopes × ω → Prop
  | (.ok a, here) => ∃ cs, Trail ex p c cs ⟨exit a, here.1, here.2⟩
  | (.error h, here) => Halts ex p rounds c h here

theorem Lands.after {exit : α → Nat} {c d : Config ω} {cs : List (Config ω)}
    {r : Except Halt α × Scopes × ω} {m n : Nat} (front : Trail ex p c cs d)
    (lands : Lands ex p n exit d r) (hm : m ≤ cs.length + n) : Lands ex p m exit c r := by
  obtain ⟨h | a, here⟩ := r
  · exact (Halts.after front lands).mono hm
  · obtain ⟨ds, trail⟩ := lands
    exact ⟨cs ++ ds, front.append trail⟩

/-- **The code from a position on carries out an action**; `exit` says where the machine is after an
answer. -/
def Follows (ex : Executor κ ω) (p : Program κ) (rounds start : Nat) (exit : α → Nat)
    (action : Walking ω α) : Prop :=
  ∀ s w, Lands ex p rounds exit ⟨start, s, w⟩ (action (s, w))

/-! ### Putting actions together -/

theorem bind_apply (A : Walking ω α) (B : α → Walking ω β) (here : Scopes × ω) :
    (A >>= B) here = match A here with
      | (.ok a, next) => B a next
      | (.error h, next) => (.error h, next) := by
  show (match A here with | (r, next) => ExceptT.bindCont B r next) = _
  rcases A here with ⟨_ | a, next⟩
  · rfl
  · rfl

theorem follows_pure {exit : α → Nat} {start : Nat} {a : α} (h : exit a = start) :
    Follows ex p rounds start exit (pure a) := by
  intro s w
  subst h
  exact ⟨[], .nil _⟩

theorem Follows.bind {start : Nat} {mid : α → Nat} {exit : β → Nat} {A : Walking ω α}
    {B : α → Walking ω β} (hA : Follows ex p rounds start mid A)
    (hB : ∀ a, Follows ex p rounds (mid a) exit (B a)) :
    Follows ex p rounds start exit (A >>= B) := by
  intro s w
  have first := hA s w
  rw [bind_apply]
  rcases hr : A (s, w) with ⟨h | a, next⟩
  · rw [hr] at first
    exact first
  · rw [hr] at first
    obtain ⟨cs, trail⟩ := first
    exact Lands.after trail (hB a next.1 next.2) (Nat.le_add_left _ _)

/-- One action, carried out by one instruction. -/
theorem follows_act {start : Nat} {line : Line κ} {exit : α → Nat}
    {action : Scopes → ω → Except Failure α × Scopes × ω} (line_eq : p[start]? = some line)
    (step_eq : ∀ s w, step ex start line.instruction s w
      = ((action s w).1.map fun a => (exit a : Int), (action s w).2)) :
    Follows ex p rounds start exit (Walk.act line.origin action) := by
  intro s w
  have hstep := step_eq s w
  unfold Walk.act
  rcases hr : action s w with ⟨f | a, next⟩
  · rw [hr] at hstep
    exact Halts.fails (.nil _) line_eq hstep
  · rw [hr] at hstep
    exact ⟨_, .single ⟨line, line_eq, hstep⟩⟩

/-- Where a question leads: to one position after a yes, to another after a no. -/
def answer (yes no : Nat) (b : Bool) : Nat := if b then yes else no

theorem orJump_eq (start finish : Nat) (r : Except Failure Bool × Scopes × ω) :
    orJump start finish r = (r.1.map fun b => (answer (start + 1) finish b : Int), r.2) := by
  have hfun : (fun b : Bool => if b then (start : Int) + 1 else (finish : Int))
      = fun b => (answer (start + 1) finish b : Int) := by
    funext b
    cases b <;> rfl
  rw [orJump, hfun]

theorem follows_begin {start finish : Nat} {origin : Option String} {v : NameId × Target}
    (line_eq : p[start]? = some ⟨.start v.2 v.1 finish, origin⟩) :
    Follows ex p rounds start (answer (start + 1) finish) (Walk.begin_ ex origin v) :=
  follows_act line_eq fun _ _ => orJump_eq start finish _

theorem follows_proceed {start finish : Nat} {origin : Option String} {v : NameId × Target}
    (line_eq : p[start]? = some ⟨.advance v.2 v.1 finish, origin⟩) :
    Follows ex p rounds start (answer (start + 1) finish) (Walk.proceed ex origin v) :=
  follows_act line_eq fun _ _ => orJump_eq start finish _

theorem follows_isOpen {start finish : Nat} {origin : Option String} {guard : Path}
    (line_eq : p[start]? = some ⟨.branch guard finish, origin⟩) :
    Follows ex p rounds start (answer (start + 1) finish) (Walk.isOpen origin guard) :=
  follows_act line_eq fun _ _ => orJump_eq start finish _

theorem follows_push {start : Nat} {origin : Option String}
    (line_eq : p[start]? = some ⟨.pushScope, origin⟩) :
    Follows ex p rounds start (fun _ => start + 1) (Walk.change (ω := ω) Scopes.push) :=
  fun _ _ => ⟨_, .single ⟨_, line_eq, rfl⟩⟩

theorem follows_pop {start : Nat} {origin : Option String}
    (line_eq : p[start]? = some ⟨.popScope, origin⟩) :
    Follows ex p rounds start (fun _ => start + 1) (Walk.change (ω := ω) Scopes.pop) :=
  fun _ _ => ⟨_, .single ⟨_, line_eq, rfl⟩⟩

theorem follows_inScope {start last : Nat} {origin : Option String} {body : Code.Block κ}
    {action : Walking ω Unit} (block : BlockAt p origin body start last)
    (hbody : Follows ex p rounds (start + 1) (fun _ => start + 1 + (body (start + 1)).length) action) :
    Follows ex p rounds start (fun _ => last + 1) (Walk.inScope action) := by
  rw [← block.last_eq] at hbody
  exact (follows_push block.enter).bind fun _ => hbody.bind fun _ => follows_pop block.leave

/-- A condition: after a no the machine is at the exit already. -/
theorem Follows.orElse {start yes finish : Nat} {question : Walking ω Bool} {body : Walking ω Unit}
    (hq : Follows ex p rounds start (answer yes finish) question)
    (hbody : Follows ex p rounds yes (fun _ => finish) body) :
    Follows ex p rounds start (fun _ => finish) (do if ← question then body) := by
  refine hq.bind fun b => ?_
  cases b with
  | false => exact follows_pure rfl
  | true => exact hbody

/-- Questions in order, one instruction each, with one exit for every no. -/
theorem follows_allYes {ι : Type} {line : ι → Line κ} (question : ι → Walking ω Bool) {finish : Nat}
    (each : ∀ x n, p[n]? = some (line x) →
      Follows ex p rounds n (answer (n + 1) finish) (question x)) (xs : List ι) (start : Nat)
    (placed : Placed p start (xs.map line)) :
    Follows ex p rounds start (answer (start + xs.length) finish)
      (Walk.allYes (xs.map question)) := by
  induction xs generalizing start with
  | nil => exact follows_pure rfl
  | cons x xs ih =>
    rw [List.map_cons] at placed
    refine (each x start placed.head).bind fun b => ?_
    cases b with
    | false => exact follows_pure rfl
    | true =>
      have rest := ih (start + 1) placed.tail
      rw [show start + 1 + xs.length = start + (x :: xs).length by
        rw [List.length_cons]
        omega] at rest
      exact rest

/-- **Rounds.**  A round starts at `again`; after a round that was not the last one a jump at `back`
leads there again.  The jump is the step that makes an unfinished loop take at least as many
instructions as it had rounds. -/
theorem follows_repeatRounds {again back finish : Nat} {origin : Option String}
    {round : Walking ω Bool} (hround : Follows ex p rounds again (answer back finish) round)
    (again_line : ∃ line, p[again]? = some line)
    (goto_eq : p[back]? = some ⟨.goto again, origin⟩) {n : Nat} (hn : n ≤ rounds) :
    Follows ex p n again (fun _ => finish) (Walk.repeatRounds round n) := by
  induction n with
  | zero =>
    intro s w
    obtain ⟨line, line_eq⟩ := again_line
    exact Halts.goesOn (d := ⟨again, s, w⟩) (.nil _) line_eq (Nat.le_refl 0)
  | succ n ih =>
    intro s w
    have first := hround s w
    rw [Walk.repeatRounds, bind_apply]
    rcases hr : round (s, w) with ⟨h | more, here⟩
    · rw [hr] at first
      exact first.mono hn
    · rw [hr] at first
      obtain ⟨cs, trail⟩ := first
      cases more with
      | false => exact ⟨cs, trail⟩
      | true =>
        have jump : Step ex p ⟨back, here.1, here.2⟩ ⟨again, here.1, here.2⟩ :=
          ⟨_, goto_eq, rfl⟩
        have around := trail.snoc jump
        refine Lands.after around (ih (by omega) here.1 here.2) ?_
        rw [List.length_append, List.length_singleton]
        omega

/-! ### The layouts of loops and guarded blocks -/

section Layouts

variable {origin : Option String} {body : Code.Block κ} {action : Walking ω Unit}
  (hbody : ∀ n, Placed p n (body n) →
    Follows ex p rounds n (fun _ => n + (body n).length) action)

include hbody

/-- **Lock step.**  The code of a loop in lock step carries out the loop, at every position. -/
theorem follows_group (vars : List (NameId × Target)) {start : Nat}
    (placed : Placed p start (Code.group origin vars body start)) :
    Follows ex p rounds start (fun _ => start + (Code.group origin vars body start).length)
      (Walk.group ex rounds origin vars action) := by
  obtain ⟨again, last, finish, h⟩ := placed.group
  rw [h.end_eq]
  have begins : Follows ex p rounds _ _ _ :=
    follows_allYes (Walk.begin_ ex origin) (fun _ _ => follows_begin) vars _ h.starts
  have round := (follows_inScope h.block (hbody _ h.block.inside)).bind fun _ =>
    follows_allYes (Walk.proceed ex origin) (fun _ _ => follows_proceed) vars _ h.advances
  have loop := follows_repeatRounds round ⟨_, h.block.enter⟩ h.jump (Nat.le_refl rounds)
  rw [h.again_eq] at loop
  exact (follows_push h.enter).bind fun _ => (begins.orElse loop).bind fun _ => follows_pop h.leave

/-- **Combinations.**  The code of a loop over combinations carries out the loops inside one
another. -/
theorem follows_combinations (vars : List (NameId × Target)) {start : Nat}
    (placed : Placed p start (Code.combinations origin body vars start)) :
    Follows ex p rounds start
      (fun _ => start + (Code.combinations origin body vars start).length)
      (Walk.combinations ex rounds origin action vars) := by
  induction vars generalizing start with
  | nil =>
    obtain ⟨last, block, end_eq⟩ := placed.block
    rw [end_eq]
    exact follows_inScope block (hbody _ block.inside)
  | cons v vars ih =>
    obtain ⟨last, h⟩ := placed.nest
    rw [h.end_eq]
    have inner := ih h.inside
    rw [← h.last_eq] at inner
    have round := inner.bind fun _ => follows_proceed (v := v) h.advance
    have loop := follows_repeatRounds round h.inside.exists_line_of_combinations h.jump
      (Nat.le_refl rounds)
    exact (follows_push h.enter).bind fun _ =>
      ((follows_begin h.start).orElse loop).bind fun _ => follows_pop h.leave

/-- **Guarded blocks.** -/
theorem follows_guarded (guards : List Path) {start : Nat}
    (placed : Placed p start (Code.guarded origin guards body start)) :
    Follows ex p rounds start (fun _ => start + (Code.guarded origin guards body start).length)
      (Walk.guarded origin guards action) := by
  obtain ⟨last, h⟩ := placed.guarded
  rw [h.end_eq]
  have asks : Follows ex p rounds _ _ _ :=
    follows_allYes (Walk.isOpen origin) (fun _ _ => follows_isOpen) guards _ h.branches
  exact asks.orElse (follows_inScope h.block (hbody _ h.block.inside))

end Layouts

/-! ### All statements -/

theorem follows_single {i : Instruction κ} (plain : i.isPlain = true) {origin : Option String}
    {start : Nat} (line_eq : p[start]? = some ⟨i, origin⟩) :
    Follows ex p rounds start (fun _ => start + 1) (Walk.act origin (plainStep ex i)) := by
  refine follows_act line_eq fun s w => ?_
  cases i with
  | start | advance | branch | goto => simp [Instruction.isPlain] at plain
  | pushScope | popScope | create | assign | push | command => rfl

mutual

/-- **A statement**, by induction over the tree. -/
theorem follows_code (t : Statement κ) (plain : t.All (·.isPlain = true)) (start : Nat)
    (placed : Placed p start (t.code start)) :
    Follows ex p rounds start (fun _ => start + (t.code start).length) (t.walk ex rounds) := by
  match t with
  | .single i origin => exact follows_single plain placed.head
  | .loop .group vars body origin =>
    exact follows_group (fun n => follows_codeAll body plain n) vars placed
  | .loop .combinations vars body origin =>
    exact follows_combinations (fun n => follows_codeAll body plain n) vars placed
  | .guarded guards body origin =>
    exact follows_guarded (fun n => follows_codeAll body plain n) guards placed

theorem follows_codeAll (ts : List (Statement κ)) (plain : Statement.AllIn (·.isPlain = true) ts)
    (start : Nat) (placed : Placed p start (Statement.codeAll ts start)) :
    Follows ex p rounds start (fun _ => start + (Statement.codeAll ts start).length)
      (Statement.walkAll ex rounds ts) := by
  match ts with
  | [] => exact follows_pure rfl
  | t :: rest =>
    simp only [Statement.codeAll] at placed ⊢
    rw [List.length_append, ← Nat.add_assoc]
    exact (follows_code t plain.1 start placed.left).bind fun _ =>
      follows_codeAll rest plain.2 _ placed.right

end

/-! ### Whole runs -/

/-- A run of the machine and a walk came to the same: both to an ending, with the same failure from
the same statement if there was one, or both to nothing within their budgets; with the same scopes
and the same world. -/
def Agree (r : Outcome × Scopes × ω) (walked : Except Halt Unit × Scopes × ω) : Prop :=
  r.1 ≠ .stopped ∧ r.1.halt = walked.1 ∧ r.2 = walked.2

theorem agree_failure (pc : Int) (origin : Option String) (f : Failure) (here : Scopes × ω) :
    Agree (failureOutcome pc origin f, here) (.error (f.halt origin), here) := by
  cases f with
  | access e => exact ⟨by simp [failureOutcome], rfl, rfl⟩
  | crash c => exact ⟨by simp [failureOutcome], rfl, rfl⟩

/-- The executor finishes in the same way behind the last instruction and behind the last
statement. -/
theorem agree_runOut (n : Nat) (here : Scopes × ω) :
    Agree (runOut ex false n here.1 here.2) (Walk.close ex here) := by
  simp only [runOut, Walk.close, Int.natCast_nonneg, if_true]
  rcases ex.finish here.1 here.2 with ⟨c | u, next⟩
  · exact ⟨by simp, rfl, rfl⟩
  · exact ⟨by simp, rfl, rfl⟩

/-- **The same way.**  A walk within some rounds, up to the end of the executor, is taken by the
machine within some budget that is at least as large. -/
theorem exists_budget (ts : List (Statement κ)) (plain : Statement.AllIn (·.isPlain = true) ts)
    (s : Scopes) (w : ω) (rounds : Nat) :
    ∃ budget ≥ rounds, Agree (runFrom ex never (compile ts) budget 0 0 s w)
      ((do Statement.walkAll ex rounds ts; Walk.close ex : Walking ω Unit) (s, w)) := by
  have lands : Lands ex (compile ts) rounds _ ⟨(0 : Nat), s, w⟩ _ :=
    follows_codeAll ts plain 0 (Placed.compiled ts) s w
  rw [bind_apply]
  rcases hr : Statement.walkAll ex rounds ts (s, w) with ⟨h | u, here⟩
  · rw [hr] at lands
    cases lands with
    | @fails cs d line f here trail line_eq step_eq =>
      refine ⟨cs.length + (rounds + 1), by omega, ?_⟩
      have along : runFrom ex never (compile ts) (cs.length + (rounds + 1)) 0 0 s w = _ :=
        runFrom_of_trail trail (rounds + 1) 0
      rw [along, runFrom_of_failure line_eq step_eq]
      exact agree_failure _ _ _ _
    | @goesOn cs d line trail line_eq long =>
      refine ⟨cs.length, long, ?_⟩
      have along : runFrom ex never (compile ts) (cs.length + 0) 0 0 s w = _ :=
        runFrom_of_trail trail 0 0
      rw [Nat.add_zero, runFrom_of_spent line_eq] at along
      rw [along]
      exact ⟨by simp, rfl, rfl⟩
  · rw [hr] at lands
    obtain ⟨cs, trail⟩ := lands
    refine ⟨cs.length + rounds, by omega, ?_⟩
    have along : runFrom ex never (compile ts) (cs.length + rounds) 0 0 s w = _ :=
      runFrom_of_trail trail rounds 0
    rw [along, runFrom_of_end (by simp [compile_eq_codeAll])]
    exact agree_runOut _ here

/-- Taking the scope of a run off at its end, or keeping it, changes no agreement. -/
theorem Agree.run {ts : List (Statement κ)} {budget : Nat} {keep : Bool} {s : Scopes} {w : ω}
    (h : Agree (runFrom ex never (compile ts) budget 0 0 s.push w)
      ((do Statement.walkAll ex rounds ts; Walk.close ex : Walking ω Unit) (s.push, w))) :
    Agree (run ex never budget (compile ts) keep s w) (Walk.run ex rounds ts keep s w) := by
  obtain ⟨hstop, hhalt, hhere⟩ := h
  let leave (here : Scopes × ω) : Scopes × ω :=
    (if keep then here.1 else here.1.truncate s.length, here.2)
  exact ⟨hstop, hhalt, congrArg leave hhere⟩

/-- Runs within budgets of instructions and walks within numbers of rounds come to the same.  However
many rounds a walk is given, some budget that is at least as large takes the run exactly as far; and
when the run comes to an ending at all, some walk comes to the same. -/
def Alike (runs : Nat → Outcome × Scopes × ω) (walks : Nat → Except Halt Unit × Scopes × ω) : Prop :=
  (∀ rounds, ∃ budget ≥ rounds, Agree (runs budget) (walks rounds)) ∧
  ∀ budget, (runs budget).1 ≠ .exhausted → ∃ rounds, Agree (runs budget) (walks rounds)

/-- The machine on the code of statements and the walk over them keep together. -/
def KeepTogether (ex : Executor κ ω) (ts : List (Statement κ)) (keep : Bool) (s : Scopes) (w : ω) :
    Prop :=
  Alike (fun budget => run ex never budget (compile ts) keep s w)
    (fun rounds => Walk.run ex rounds ts keep s w)

theorem keepTogether (ts : List (Statement κ)) (plain : Statement.AllIn (·.isPlain = true) ts)
    (keep : Bool) (s : Scopes) (w : ω) : KeepTogether ex ts keep s w := by
  have forward : ∀ rounds, ∃ budget ≥ rounds,
      Agree (run ex never budget (compile ts) keep s w) (Walk.run ex rounds ts keep s w) := by
    intro rounds
    obtain ⟨budget, hbudget, agree⟩ := exists_budget ts plain s.push w rounds
    exact ⟨budget, hbudget, agree.run⟩
  refine ⟨forward, fun budget ends => ?_⟩
  -- as many rounds as there was budget: the budget that goes with them is at least as large
  obtain ⟨larger, hlarger, agree⟩ := forward budget
  obtain ⟨more, rfl⟩ := Nat.exists_eq_add_of_le hlarger
  have same : run ex never (budget + more) (compile ts) keep s w
      = run ex never budget (compile ts) keep s w := by
    rw [run, run, runFrom_add_of_ends never more budget 0 0 s.push w ends]
  rw [same] at agree
  exact ⟨budget, agree⟩

/-- **The code of statements does what the statements say.**  For every tree of plain instructions,
loops and guarded blocks, every executor and every state, the machine and the walk keep together.
They also do so for the executor that writes down its calls: they make the same calls in the same
order on the same scopes and worlds. -/
theorem run_agrees_with_walk (ex : Executor κ ω) (ts : List (Statement κ))
    (plain : Statement.AllIn (·.isPlain = true) ts) (keep : Bool) (s : Scopes) (w : ω) :
    KeepTogether ex ts keep s w ∧ KeepTogether ex.recorded ts keep s (w, []) :=
  ⟨keepTogether ts plain keep s w, keepTogether ts plain keep s (w, [])⟩

/-- A loop in lock step around a loop over combinations and a guarded block. -/
def nestedLoops : List (Statement String) :=
  [.single (.create 0 (.struct [.literal "false"] []) none) none,
    .loop .group [(1, .range (.fixed 0) (.fixed 2)), (2, .range (.fixed 5) (.fixed 9))]
      [.loop .combinations [(3, .range (.fixed 0) (.fixed 2)), (4, .elements 0)]
          [.single (.command "inner") (some "a")] (some "b"),
        .guarded [.last 0 .whole] [.single (.command "guarded") (some "c")] none] (some "d")]

theorem run_agrees_with_walk_nestedLoops :
    Statement.AllIn (·.isPlain = true) nestedLoops ∧
      KeepTogether depthKeeper nestedLoops false [] [] ∧
      KeepTogether depthKeeper.recorded nestedLoops false [] ([], []) := by
  have plain : Statement.AllIn (·.isPlain = true) nestedLoops := by
    simp [nestedLoops, Statement.AllIn, Statement.All, Instruction.isPlain]
  exact ⟨plain, run_agrees_with_walk depthKeeper nestedLoops plain false [] []⟩

/-! ### The scopes of nested loops

A loop over combinations is not the same as loops in lock step over one variable each, nested in one
another: those open a scope for every round of every loop, while here a round of an outer loop is
the inner loop itself. -/

/-- Loops in lock step over one variable each, nested in one another. -/
def nestedSingles (ex : Executor κ ω) (rounds : Nat) (origin : Option String)
    (body : Walking ω Unit) (vars : List (NameId × Target)) : Walking ω Unit :=
  vars.foldr (fun v inner => Walk.group ex rounds origin [v] inner) body

/-- Two variables with one value each. -/
def twoSingles : List (NameId × Target) :=
  [(0, .range (.fixed 0) (.fixed 1)), (1, .range (.fixed 0) (.fixed 1))]

/-- The command of the loop finds four scopes, and five within nested loops in lock step. -/
theorem combinations_not_nestedSingles :
    ¬ Alike
      (fun budget => run depthKeeper never budget
        (compile [.loop .combinations twoSingles [.single (.command "depth") none] none])
        true [] [])
      (fun rounds => (do
        nestedSingles depthKeeper rounds none
          (Walk.act none (plainStep depthKeeper (.command "depth"))) twoSingles
        Walk.close depthKeeper : Walking (List Nat) Unit) (Scopes.push [], [])) := by
  rintro ⟨-, ends⟩
  obtain ⟨rounds, -, hhalt, hhere⟩ := ends 20 (by decide)
  cases rounds with
  | zero => cases hhalt
  | succ n => cases congrArg Prod.snd hhere

end Sweep.Machine
