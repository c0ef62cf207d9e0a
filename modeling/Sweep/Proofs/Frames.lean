import Sweep.Proofs.Reading
import Sweep.Proofs.References
import Sweep.Render.Rendering
import Sweep.Supervision.Crew

/-!
# Programs do not leak

A program that neither overwrites nor appends leaves the scopes below its own as they are, however
it ends.  The one instruction that could reach further out is the advance of a loop variable, which
writes wherever the variable is found.  In the code of statements it is always found in the
innermost scope, and this is known before anything runs.

* `Frames`, `frames` — the names that are known to be bound in the scopes of a run, at every
  position of a program;
* `Weaker` — what may be known where a jump arrives;
* `Tidy`, `Sealed` — an instruction agrees with the frames, and so does a stretch that ends with the
  frames with which it begins;
* `sealed_codeAll` — code of statements is sealed, by induction over the tree;
* `Above` — what the frames say about the scopes at a moment, kept by every step (`above_of_step`).

The main statement is `run_restores_scopes`.
-/

namespace Sweep

variable {κ ω : Type}

/-- The names that the scopes of a run are known to bind, innermost scope first. -/
abbrev Frames := List (List NameId)

namespace Instruction

/-- An instruction that writes to no scope further out: it neither overwrites nor appends, and if it
is a command then one of some kind. -/
def Spares (C : κ → Prop) : Instruction κ → Prop
  | assign .. | push .. => False
  | command c => C c
  | _ => True

/-- What is known behind an instruction.  The names of the loop variables are kept up to the jump back,
behind which the loop may be left without having begun them all. -/
def frames : Instruction κ → Frames → Frames
  | pushScope, f => [] :: f
  | popScope, f => f.tail
  | start _ x _, names :: f => (x :: names) :: f
  | goto _, _ :: f => [] :: f
  | _, f => f

theorem frames_of_isLeaf {i : Instruction κ} (h : i.isLeaf = true) (f : Frames) : i.frames f = f := by
  cases i with
  | pushScope | popScope | start | goto => cases h
  | _ => rfl

theorem length_frames {i : Instruction κ} {f : Frames} (h : 0 < f.length) :
    ((i.frames f).length : Int) = f.length + i.delta := by
  obtain ⟨names, f, rfl⟩ := List.exists_cons_of_length_pos h
  cases i with
  | popScope => simp [frames, delta]
  | _ => simp [frames, delta]

end Instruction

/-- The executor runs commands of some kind, and at most binds in the innermost scope. -/
structure Executor.BindsOnly (ex : Executor κ ω) (C : κ → Prop) : Prop where
  execute : ∀ c s w, C c → (ex.execute c s w).2.1 = s ∨ ∃ x v, (ex.execute c s w).2.1 = s.bind x v
  visit : ∀ x position v s w, (ex.visit x position v s w).2.1 = s
  finish : ∀ s w, (ex.finish s w).2.1 = s

namespace Machine

variable {ex : Executor κ ω} {p : Program κ} {C : κ → Prop} {P : Instruction κ → Prop}

/-! ### Static frames -/

/-- What is known at a position, by the instructions in front of it. -/
def frames (p : Program κ) (n : Nat) : Frames :=
  (p.take n).foldl (fun f line => line.instruction.frames f) [[]]

theorem frames_succ {n : Nat} {line : Line κ} (h : p[n]? = some line) :
    frames p (n + 1) = line.instruction.frames (frames p n) := by
  rw [frames, frames, List.take_add_one, h]
  simp

/-- There is one frame for each scope that is open. -/
theorem length_frames (level : Level p 0 p.length) {n : Nat} (hn : n ≤ p.length) :
    ((frames p n).length : Int) = depth p n + 1 := by
  induction n with
  | zero => rfl
  | succ n ih =>
    have line_eq : p[n]? = some p[n] := List.getElem?_eq_getElem hn
    have before := ih (Nat.le_of_lt hn)
    have above := level.depth_nonneg (Nat.le_of_lt hn)
    rw [frames_succ line_eq, depth_succ line_eq, Instruction.length_frames (by omega), before]
    omega

/-- Where a jump arrives nothing is known that was not known where it began. -/
inductive Weaker : Frames → Frames → Prop where
  | refl (f : Frames) : Weaker f f
  | top {few many : List NameId} {f : Frames} (h : few ⊆ many) : Weaker (few :: f) (many :: f)

/-- The instructions that loops and guarded blocks put around their bodies have a property. -/
structure Surrounds (P : Instruction κ → Prop) : Prop where
  pushScope : P .pushScope
  popScope : P .popScope
  start : ∀ t x j, P (.start t x j)
  advance : ∀ t x j, P (.advance t x j)
  branch : ∀ guard j, P (.branch guard j)
  goto : ∀ j, P (.goto j)

theorem surrounds_spares (C : κ → Prop) : Surrounds (Instruction.Spares C) where
  pushScope := trivial
  popScope := trivial
  start _ _ _ := trivial
  advance _ _ _ := trivial
  branch _ _ := trivial
  goto _ := trivial

/-- An instruction agrees with the frames of a program, and has some property. -/
structure Tidy (P : Instruction κ → Prop) (p : Program κ) (n : Nat) (i : Instruction κ) : Prop where
  allowed : P i
  owns : ∀ t x j, i = .advance t x j → ∃ names f, frames p n = names :: f ∧ x ∈ names
  lands : ∀ j, i.jump? = some j → ∃ m : Nat, j = m ∧ Weaker (frames p m) (frames p n)

/-- The instructions of a stretch agree with the frames. -/
def TidyFrom (P : Instruction κ → Prop) (p : Program κ) (n m : Nat) : Prop :=
  ∀ k line, n ≤ k → k < m → p[k]? = some line → Tidy P p k line.instruction

/-- A stretch of a program is sealed: what is known at its end is what is known at its beginning, and
its instructions agree with the frames. -/
structure Sealed (P : Instruction κ → Prop) (p : Program κ) (n m : Nat) : Prop where
  ends : frames p m = frames p n
  tidy : TidyFrom P p n m

namespace TidyFrom

variable {n m k : Nat} {line : Line κ}

theorem nil (n : Nat) : TidyFrom P p n n := fun _ _ h h' => by omega

theorem append (h₁ : TidyFrom P p n m) (h₂ : TidyFrom P p m k) : TidyFrom P p n k := by
  intro j line hn hk hline
  rcases Nat.lt_or_ge j m with hj | hj
  · exact h₁ j line hn hj hline
  · exact h₂ j line hj hk hline

theorem single (line_eq : p[n]? = some line) (tidy : Tidy P p n line.instruction) :
    TidyFrom P p n (n + 1) := by
  intro j line' hn hm hline
  obtain rfl : j = n := by omega
  rw [line_eq] at hline
  exact Option.some.inj hline ▸ tidy

/-- In a whole program every instruction agrees with the frames. -/
theorem tidy_at (tidy : TidyFrom P p 0 p.length) (line_eq : p[n]? = some line) :
    Tidy P p n line.instruction :=
  tidy n line (Nat.zero_le n) (lt_length_of_getElem? line_eq) line_eq

end TidyFrom

namespace Tidy

variable {n : Nat} {m : Nat} {x : NameId} {t : Target} {names few : List NameId} {f : Frames}

variable (surrounds : Surrounds P)

include surrounds

theorem pushScope : Tidy P p n .pushScope := ⟨surrounds.pushScope, nofun, nofun⟩

theorem popScope : Tidy P p n .popScope := ⟨surrounds.popScope, nofun, nofun⟩

theorem goto (same : frames p m = frames p n) : Tidy P p n (.goto (m : Nat)) :=
  ⟨surrounds.goto _, nofun, fun _ hj => ⟨m, (Option.some.inj hj).symm, same ▸ .refl _⟩⟩

theorem branch {guard : Path} (same : frames p m = frames p n) :
    Tidy P p n (.branch guard (m : Nat)) :=
  ⟨surrounds.branch _ _, nofun, fun _ hj => ⟨m, (Option.some.inj hj).symm, same ▸ .refl _⟩⟩

omit surrounds in
/-- What a loop knows where it is left: only which scope is the innermost one. -/
theorem weaker_nil (out : frames p m = [] :: f) (here : frames p n = names :: f) :
    Weaker (frames p m) (frames p n) := by
  rw [out, here]
  exact .top (List.nil_subset names)

theorem start (out : frames p m = [] :: f) (here : frames p n = names :: f) :
    Tidy P p n (.start t x (m : Nat)) :=
  ⟨surrounds.start _ _ _, nofun, fun _ hj => ⟨m, (Option.some.inj hj).symm, weaker_nil out here⟩⟩

theorem advance (out : frames p m = [] :: f) (here : frames p n = names :: f) (hx : x ∈ names) :
    Tidy P p n (.advance t x (m : Nat)) where
  allowed := surrounds.advance _ _ _
  owns _ _ _ h := by
    obtain ⟨-, rfl, -⟩ := Instruction.advance.inj h
    exact ⟨names, f, here, hx⟩
  lands _ hj := ⟨m, (Option.some.inj hj).symm, weaker_nil out here⟩

end Tidy

namespace Sealed

variable {n m k : Nat} {line : Line κ} {origin : Option String}

theorem refl (n : Nat) : Sealed P p n n := ⟨rfl, .nil n⟩

theorem trans (h₁ : Sealed P p n m) (h₂ : Sealed P p m k) : Sealed P p n k :=
  ⟨h₂.ends.trans h₁.ends, h₁.tidy.append h₂.tidy⟩

/-- An instruction that stands alone. -/
theorem leaf (line_eq : p[n]? = some line) (leaf : line.instruction.isLeaf = true)
    (allowed : P line.instruction) : Sealed P p n (n + 1) where
  ends := by rw [frames_succ line_eq, Instruction.frames_of_isLeaf leaf]
  tidy := by
    refine .single line_eq ⟨allowed, fun t x j h => ?_, fun j h => ?_⟩
    · rw [h] at leaf
      cases leaf
    · rw [Instruction.jump?_of_isLeaf leaf] at h
      cases h

/-- A stretch in a scope of its own. -/
theorem inScope (surrounds : Surrounds P) (push_eq : p[n]? = some ⟨.pushScope, origin⟩)
    (h : Sealed P p (n + 1) m) (pop_eq : p[m]? = some ⟨.popScope, origin⟩) : Sealed P p n (m + 1) where
  ends := by
    rw [frames_succ pop_eq, h.ends, frames_succ push_eq]
    rfl
  tidy := (TidyFrom.single push_eq (.pushScope surrounds)).append
    (h.tidy.append (.single pop_eq (.popScope surrounds)))

end Sealed

/-- Instructions one after the other that all keep what is known. -/
theorem frames_row {ι : Type} {line : ι → Line κ} (xs : List ι) {n : Nat}
    (placed : Placed p n (xs.map line)) (keeps : ∀ x f, (line x).instruction.frames f = f) :
    frames p (n + xs.length) = frames p n := by
  induction xs generalizing n with
  | nil => rfl
  | cons x xs ih =>
    rw [List.length_cons, show n + (xs.length + 1) = n + 1 + xs.length by omega, ih placed.tail,
      frames_succ placed.head, keeps]

theorem tidy_row {ι : Type} {line : ι → Line κ} (xs : List ι) {n : Nat}
    (placed : Placed p n (xs.map line)) (keeps : ∀ x f, (line x).instruction.frames f = f)
    (tidy : ∀ x ∈ xs, ∀ k, frames p k = frames p n → Tidy P p k (line x).instruction) :
    TidyFrom P p n (n + xs.length) := by
  induction xs generalizing n with
  | nil => exact .nil n
  | cons x xs ih =>
    have next : frames p (n + 1) = frames p n := by rw [frames_succ placed.head, keeps]
    have rest := ih placed.tail fun y hy k hk => tidy y (List.mem_cons_of_mem x hy) k (hk.trans next)
    rw [List.length_cons, show n + (xs.length + 1) = n + 1 + xs.length by omega]
    exact (TidyFrom.single placed.head (tidy x List.mem_cons_self n rfl)).append rest

/-! ### Code of statements -/

section Layouts

variable {origin : Option String} {body : Code.Block κ}

/-- Behind the beginnings of a loop all its variables are bound in its scope. -/
theorem frames_starts {vars : List (NameId × Target)} {n finish : Nat} {names : List NameId}
    {f : Frames} (placed : Placed p n (vars.map fun v => ⟨.start v.2 v.1 finish, origin⟩))
    (here : frames p n = names :: f) :
    ∃ more, frames p (n + vars.length) = (more ++ names) :: f ∧ ∀ v ∈ vars, v.1 ∈ more := by
  induction vars generalizing n names with
  | nil => exact ⟨[], here, nofun⟩
  | cons v vars ih =>
    have next : frames p (n + 1) = (v.1 :: names) :: f := by
      rw [frames_succ placed.head, here]
      rfl
    obtain ⟨more, hmore, hall⟩ := ih placed.tail next
    refine ⟨more ++ [v.1], ?_, List.forall_mem_cons.2 ⟨by simp, fun u hu => ?_⟩⟩
    · rw [List.length_cons, show n + (vars.length + 1) = n + 1 + vars.length by omega, hmore,
        List.append_assoc]
      rfl
    · exact List.mem_append_left _ (hall u hu)

theorem tidy_starts (surrounds : Surrounds P) {vars : List (NameId × Target)} {n finish : Nat}
    {names : List NameId} {f : Frames}
    (placed : Placed p n (vars.map fun v => ⟨.start v.2 v.1 finish, origin⟩))
    (out : frames p finish = [] :: f) (here : frames p n = names :: f) :
    TidyFrom P p n (n + vars.length) := by
  induction vars generalizing n names with
  | nil => exact .nil n
  | cons v vars ih =>
    have next : frames p (n + 1) = (v.1 :: names) :: f := by
      rw [frames_succ placed.head, here]
      rfl
    rw [List.length_cons, show n + (vars.length + 1) = n + 1 + vars.length by omega]
    exact (TidyFrom.single placed.head (.start surrounds out here)).append (ih placed.tail next)

variable (surrounds : Surrounds P)
  (hbody : ∀ n, Placed p n (body n) → Sealed P p n (n + (body n).length))

include surrounds hbody

theorem sealed_block {n last : Nat} (block : BlockAt p origin body n last) :
    Sealed P p n (last + 1) := by
  have inside := hbody _ block.inside
  rw [← block.last_eq] at inside
  exact inside.inScope surrounds block.enter block.leave

theorem sealed_group {vars : List (NameId × Target)} {n : Nat}
    (placed : Placed p n (Code.group origin vars body n)) :
    Sealed P p n (n + (Code.group origin vars body n).length) := by
  obtain ⟨again, last, finish, h⟩ := placed.group
  have block := sealed_block surrounds hbody h.block
  rw [h.end_eq]
  have enter : frames p (n + 1) = [] :: frames p n := frames_succ h.enter
  obtain ⟨names, bound, all⟩ := frames_starts h.starts enter
  rw [← h.again_eq, List.append_nil] at bound
  have around : frames p (last + 1) = names :: frames p n := block.ends.trans bound
  have advanced : frames p (last + 1 + vars.length) = names :: frames p n :=
    (frames_row vars h.advances fun _ _ => rfl).trans around
  have out : frames p finish = [] :: frames p n := by
    rw [h.finish_eq, frames_succ h.jump, advanced]
    rfl
  have starts := tidy_starts surrounds h.starts out enter
  rw [← h.again_eq] at starts
  have advances : TidyFrom P p (last + 1) (last + 1 + vars.length) :=
    tidy_row vars h.advances (fun _ _ => rfl) fun v hv k hk =>
      .advance surrounds out (hk.trans around) (all v hv)
  have jump : TidyFrom P p (last + 1 + vars.length) finish :=
    h.finish_eq ▸ .single h.jump (.goto surrounds (bound.trans advanced.symm))
  refine ⟨by rw [frames_succ h.leave, out]; rfl, ?_⟩
  exact (TidyFrom.single h.enter (.pushScope surrounds)).append (starts.append (block.tidy.append
    (advances.append (jump.append (.single h.leave (.popScope surrounds))))))

theorem sealed_combinations {vars : List (NameId × Target)} {n : Nat}
    (placed : Placed p n (Code.combinations origin body vars n)) :
    Sealed P p n (n + (Code.combinations origin body vars n).length) := by
  induction vars generalizing n with
  | nil =>
    obtain ⟨last, block, end_eq⟩ := placed.block
    rw [end_eq]
    exact sealed_block surrounds hbody block
  | cons v vars ih =>
    obtain ⟨last, h⟩ := placed.nest
    have inside := ih h.inside
    rw [← h.last_eq] at inside
    rw [h.end_eq]
    have enter : frames p (n + 1) = [] :: frames p n := frames_succ h.enter
    have begun : frames p (n + 2) = [v.1] :: frames p n := by
      rw [frames_succ h.start, enter]
      rfl
    have around : frames p last = [v.1] :: frames p n := inside.ends.trans begun
    have advanced : frames p (last + 1) = [v.1] :: frames p n := by
      rw [frames_succ h.advance, around]
      rfl
    have out : frames p (last + 2) = [] :: frames p n := by
      rw [frames_succ h.jump, advanced]
      rfl
    refine ⟨by rw [frames_succ h.leave, out]; rfl, ?_⟩
    exact (TidyFrom.single h.enter (.pushScope surrounds)).append
      ((TidyFrom.single h.start (.start surrounds out enter)).append (inside.tidy.append
        ((TidyFrom.single h.advance (.advance surrounds out around List.mem_cons_self)).append
          ((TidyFrom.single h.jump (.goto surrounds (begun.trans advanced.symm))).append
            (.single h.leave (.popScope surrounds))))))

theorem sealed_guarded {guards : List Path} {n : Nat}
    (placed : Placed p n (Code.guarded origin guards body n)) :
    Sealed P p n (n + (Code.guarded origin guards body n).length) := by
  obtain ⟨last, h⟩ := placed.guarded
  have block := sealed_block surrounds hbody h.block
  rw [h.end_eq]
  have before : frames p (n + guards.length) = frames p n :=
    frames_row guards h.branches fun _ _ => rfl
  have behind : frames p (last + 1) = frames p n := block.ends.trans before
  refine ⟨behind, TidyFrom.append ?_ block.tidy⟩
  exact tidy_row guards h.branches (fun _ _ => rfl) fun _ _ k hk =>
    .branch surrounds (behind.trans hk.symm)

end Layouts

mutual

/-- **Code of a statement is sealed**, by induction over the tree. -/
theorem sealed_code (surrounds : Surrounds P) (t : Statement κ) (proper : t.Proper)
    (allowed : t.All P) (n : Nat) (placed : Placed p n (t.code n)) :
    Sealed P p n (n + (t.code n).length) := by
  match t with
  | .single i origin => exact Sealed.leaf placed.head proper allowed
  | .loop .group vars body origin =>
    exact sealed_group surrounds (fun n => sealed_codeAll surrounds body proper.2 allowed n) placed
  | .loop .combinations vars body origin =>
    exact sealed_combinations surrounds
      (fun n => sealed_codeAll surrounds body proper.2 allowed n) placed
  | .guarded guards body origin =>
    exact sealed_guarded surrounds (fun n => sealed_codeAll surrounds body proper allowed n) placed

theorem sealed_codeAll (surrounds : Surrounds P) (ts : List (Statement κ))
    (proper : Statement.ProperIn ts)
    (allowed : Statement.AllIn P ts) (n : Nat)
    (placed : Placed p n (Statement.codeAll ts n)) :
    Sealed P p n (n + (Statement.codeAll ts n).length) := by
  match ts with
  | [] => exact Sealed.refl n
  | t :: rest =>
    simp only [Statement.codeAll] at placed ⊢
    rw [List.length_append, ← Nat.add_assoc]
    exact (sealed_code surrounds t proper.1 allowed.1 n placed.left).trans
      (sealed_codeAll surrounds rest proper.2 allowed.2 _ placed.right)

end

/-- A program of statements agrees with its frames from the first line to the last. -/
theorem tidy_compile (surrounds : Surrounds P) {ts : List (Statement κ)} (proper : Statement.ProperIn ts)
    (allowed : Statement.AllIn P ts) : TidyFrom P (compile ts) 0 (compile ts).length := by
  have stretch := sealed_codeAll surrounds ts proper allowed 0 (Placed.compiled ts)
  rw [Nat.zero_add, ← compile_eq_codeAll] at stretch
  exact stretch.tidy

/-! ### Scopes above others -/

/-- `Above base f s`: the stack `s` is `base` with one scope more for each frame of `f`, and each of
these scopes binds the names of its frame. -/
inductive Above (base : Scopes) : Frames → Scopes → Prop where
  | ground : Above base [] base
  | scope {f : Frames} {s : Scopes} {names : List NameId} {scope : Scope} (outer : Above base f s)
      (known : ∀ x ∈ names, (Assoc.get? x scope).isSome = true) :
      Above base (names :: f) (s ++ [scope])

namespace Above

variable {base s : Scopes} {f g : Frames} {names : List NameId} {x : NameId} {v u : Value} {n : Nat}

theorem isPrefix (h : Above base f s) : base <+: s := by
  induction h with
  | ground => exact List.prefix_refl base
  | scope _ _ ih => exact ih.trans (List.prefix_append _ _)

theorem truncate (h : Above base f s) : s.truncate base.length = base :=
  (List.prefix_iff_eq_take.1 h.isPrefix).symm

theorem push (h : Above base f s) : Above base ([] :: f) s.push := .scope h nofun

theorem pop (h : Above base (names :: f) s) : Above base f s.pop := by
  cases h with
  | scope outer known => rwa [Scopes.pop_snoc]

theorem bind (h : Above base (names :: f) s) (x : NameId) (v : Value) :
    Above base ((x :: names) :: f) (s.bind x v) := by
  cases h with
  | scope outer known =>
    rw [Scopes.bind_snoc]
    refine .scope outer fun y hy => ?_
    rcases List.mem_cons.1 hy with rfl | hy
    · simp [Assoc.get?_set]
    · exact Assoc.isSome_get?_set (known y hy)

theorem weaken (h : Above base g s) (hw : Weaker f g) : Above base f s := by
  cases hw with
  | refl => exact h
  | top fewer =>
    cases h with
    | scope outer known => exact .scope outer fun x hx => known x (fewer hx)

/-- Binding more does not hurt. -/
theorem bind_same (h : Above base (names :: f) s) (x : NameId) (v : Value) :
    Above base (names :: f) (s.bind x v) :=
  (h.bind x v).weaken (.top (List.subset_cons_self x names))

/-- **A write to a name of the innermost frame stays in the innermost scope.** -/
theorem write (h : Above base (names :: f) s) (hx : x ∈ names) (found : s.lookup x = .ok (n, u)) :
    Above base (names :: f) (s.write n x v) := by
  cases h with
  | @scope _ outer_s _ scope outer known =>
    obtain ⟨w, hw⟩ := Option.isSome_iff_exists.1 (known x hx)
    rw [Scopes.lookup_snoc, hw] at found
    obtain ⟨rfl, -⟩ := Prod.mk.inj (Except.ok.inj found)
    rw [Scopes.write_snoc]
    exact .scope outer fun y hy => Assoc.isSome_get?_set (known y hy)

end Above

/-! ### One step -/

/-- The scopes behind a step lie above the base in any case.  Where the machine goes on with the next
instruction they have the frame behind the step; where it jumps they still have the frame in front
of it. -/
def Arrives (base : Scopes) (i : Instruction κ) (f : Frames) (pc : Int)
    (r : Except Failure Int × Scopes × ω) : Prop :=
  (∃ g, Above base g r.2.1) ∧
  ∀ next, r.1 = .ok next → (next = pc + 1 ∧ Above base (i.frames f) r.2.1) ∨
    (i.jump? = some next ∧ Above base f r.2.1)

theorem arrives_orJump {base : Scopes} {i : Instruction κ} {f : Frames} {pc jump : Int}
    {r : Except Failure Bool × Scopes × ω} (hjump : i.jump? = some jump) (left : Above base f r.2.1)
    (begun : r.1 = .ok true → Above base (i.frames f) r.2.1) :
    Arrives base i f pc (orJump pc jump r) := by
  refine ⟨⟨f, left⟩, fun next h => ?_⟩
  obtain ⟨e | yes, s, w⟩ := r
  · cases h
  · obtain rfl := Except.ok.inj h
    cases yes with
    | true => exact .inl ⟨rfl, begun rfl⟩
    | false => exact .inr ⟨hjump, left⟩

theorem arrives_plain {base : Scopes} {i : Instruction κ} {f : Frames} {pc : Int}
    {r : Except Failure Unit × Scopes × ω} (left : Above base (i.frames f) r.2.1) :
    Arrives base i f pc (r.1.map fun _ => pc + 1, r.2) :=
  ⟨⟨_, left⟩, fun _ h => .inl ⟨next_of_map h, left⟩⟩

/-- What holds when nothing can be read, and of whatever follows, holds in any case. -/
theorem of_reading {α β : Type} {P : Except Failure β × Scopes × ω → Prop}
    {r : Except ReadError α} {s : Scopes} {w : ω} {next : α → Except Failure β × Scopes × ω}
    (unread : ∀ f, P (.error f, s, w)) (follows : ∀ a, P (next a)) :
    P (reading r s w next) := by
  cases r with
  | error e => exact unread (.ofRead e)
  | ok a => exact follows a

section Steps

variable {base s : Scopes} {names : List NameId} {f : Frames} {n : Nat} {i : Instruction κ} {w : ω}
  (bindsOnly : ex.BindsOnly C)

include bindsOnly

/-- A loop variable that begins is bound in the innermost scope, or nothing has changed. -/
theorem scopes_begin (x : NameId) (s : Scopes) (w : ω) (t : Target) :
    (∃ v, (begin_ ex x s w t).2.1 = s.bind x v) ∨
      ((begin_ ex x s w t).2.1 = s ∧ (begin_ ex x s w t).1 ≠ .ok true) := by
  have visited (x : NameId) (position : Int) (v : Value) (s : Scopes) :
      (visiting ex x position v s w).2.1 = s := by
    rw [scopes_visiting, bindsOnly.visit]
  let P (q : Except Failure Bool × Scopes × ω) : Prop :=
    (∃ v, q.2.1 = s.bind x v) ∨ (q.2.1 = s ∧ q.1 ≠ .ok true)
  have unread (f : Failure) : P (.error f, s, w) := .inr ⟨rfl, fun h => by cases h⟩
  have empty : P (.ok false, s, w) := .inr ⟨rfl, fun h => by cases h⟩
  cases t with
  | range lo hi =>
    refine of_reading (P := P) unread fun (a, b) => ?_
    dsimp only
    split
    · exact .inl ⟨_, visited _ _ _ _⟩
    · exact empty
  | elements t =>
    refine of_reading (P := P) unread fun (n, whole) => ?_
    dsimp only
    split
    · exact empty
    · exact of_reading (P := P) (fun e => .inl ⟨_, rfl⟩) fun whole => .inl ⟨_, visited _ _ _ _⟩

/-- A loop variable is written where it is found, and nothing else is. -/
theorem scopes_proceed (x : NameId) (s : Scopes) (w : ω) :
    (proceed ex x s w).2.1 = s ∨
      ∃ n u v, s.lookup x = .ok (n, u) ∧ (proceed ex x s w).2.1 = s.write n x v := by
  rw [proceed]
  refine scopes_reading
    (P := fun s' => s' = s ∨ ∃ n u v, s.lookup x = .ok (n, u) ∧ s' = s.write n x v)
    (.inl rfl) fun found hlookup => ?_
  split
  · next n a b offset =>
    refine .inr ⟨n, _, .counter a b (offset + 1), hlookup, ?_⟩
    dsimp only
    split
    · rw [scopes_visiting, bindsOnly.visit]
    · rfl
  · next n scope t offset =>
    refine scopes_reading (P := fun s' => s' = s ∨ ∃ n u v, s.lookup x = .ok (n, u) ∧
      s' = s.write n x v) (.inl rfl) fun whole _ => ?_
    refine .inr ⟨n, _, .ref scope t (offset + 1), hlookup, ?_⟩
    dsimp only
    split
    · rw [scopes_visiting, bindsOnly.visit]
    · rfl
  · exact .inl rfl

/-- What a plain instruction leaves, whether it succeeds or not. -/
theorem above_plainStep (spares : i.Spares C) (inner : i.isInner = true) (plain : i.isPlain = true)
    (h : Above base (names :: f) s) (w : ω) :
    Above base (i.frames (names :: f)) (plainStep ex i s w).2.1 := by
  cases i with
  | pushScope => exact h.push
  | popScope => exact h.pop
  | create x e scope =>
    cases scope with
    | some => cases inner
    | none => exact scopes_reading h fun v _ => h.bind_same x v
  | assign | push => cases spares
  | command c =>
    rcases bindsOnly.execute c s w spares with same | ⟨x, v, bound⟩
    · exact same.symm ▸ h
    · exact bound.symm ▸ h.bind_same x v
  | start | advance | branch | goto => cases plain

/-- **What a step leaves** lies above the base, and has the frame that is known there. -/
theorem arrives_step (tidy : Tidy P p n i) (spares : i.Spares C) (inner : i.isInner = true)
    (here : frames p n = names :: f) (h : Above base (names :: f) s) (pc : Int) (w : ω) :
    Arrives base i (names :: f) pc (step ex pc i s w) := by
  cases i with
  | start t x jump =>
    rcases scopes_begin bindsOnly x s w t with ⟨v, bound⟩ | ⟨same, no⟩
    · exact arrives_orJump rfl (bound.symm ▸ h.bind_same x v) fun _ => bound.symm ▸ h.bind x v
    · exact arrives_orJump rfl (same.symm ▸ h) fun yes => absurd yes no
  | advance t x jump =>
    obtain ⟨names', f', here', hx⟩ := tidy.owns t x jump rfl
    obtain ⟨rfl, rfl⟩ := List.cons.inj (here.symm.trans here')
    have left : Above base (names :: f) (proceed ex x s w).2.1 := by
      rcases scopes_proceed bindsOnly x s w with same | ⟨m, u, v, found, written⟩
      · exact same.symm ▸ h
      · exact written.symm ▸ h.write hx found
    exact arrives_orJump rfl left fun _ => left
  | branch guard jump =>
    have left : Above base (names :: f)
        (reading (isOpen s guard) s w fun yes => (Except.ok (ε := Failure) yes, s, w)).2.1 :=
      scopes_reading h fun _ _ => h
    exact arrives_orJump rfl left fun _ => left
  | goto jump => exact ⟨⟨_, h⟩, fun next hnext => .inr ⟨congrArg some (Except.ok.inj hnext), h⟩⟩
  | pushScope | popScope | create | assign | push | command =>
    exact arrives_plain (above_plainStep bindsOnly spares inner rfl h w)

end Steps

/-! ### Runs -/

/-- At every position of a program some frame is known. -/
theorem exists_frame (level : Level p 0 p.length) {n : Nat} {line : Line κ} (line_eq : p[n]? = some line) :
    ∃ names f, frames p n = names :: f := by
  have hn := lt_length_of_getElem? line_eq
  have length := length_frames level (Nat.le_of_lt hn)
  have above := level.depth_nonneg (Nat.le_of_lt hn)
  exact List.exists_cons_of_length_pos (by omega)

section Runs

variable {base : Scopes} (bindsOnly : ex.BindsOnly C) (level : Level p 0 p.length)

include bindsOnly level

/-- A step at a position of the program, with the frame that is known there. -/
theorem arrives_at (tidy : TidyFrom P p 0 p.length) {n : Nat} {line : Line κ}
    (line_eq : p[n]? = some line) (spares : line.instruction.Spares C) {s : Scopes}
    (h : Above base (frames p n) s) (w : ω) :
    Arrives base line.instruction (frames p n) n (step ex n line.instruction s w) := by
  obtain ⟨names, f, here⟩ := exists_frame level line_eq
  rw [here] at h ⊢
  have hn := lt_length_of_getElem? line_eq
  exact arrives_step bindsOnly (tidy.tidy_at line_eq) spares
    (level.fits n line (Nat.zero_le n) hn line_eq).inner here h n w

theorem above_of_step (tidy : TidyFrom P p 0 p.length) {n : Nat} {s : Scopes} {w : ω} {d : Config ω}
    (h : Above base (frames p n) s) (first : Step ex p ⟨n, s, w⟩ d)
    (spares : ∀ line, p[n]? = some line → line.instruction.Spares C) :
    ∃ m : Nat, d.pc = m ∧ Above base (frames p m) d.scopes := by
  obtain ⟨line, line_eq, step_eq⟩ := first
  have hline : p[n]? = some line := line_eq
  have arrived := (arrives_at bindsOnly level tidy hline (spares line hline) h w).2
  rw [step_eq] at arrived
  rcases arrived d.pc rfl with ⟨next, left⟩ | ⟨jump, left⟩
  · exact ⟨n + 1, next, by rwa [frames_succ hline]⟩
  · obtain ⟨m, hm, weaker⟩ := (tidy.tidy_at hline).lands _ jump
    exact ⟨m, hm, left.weaken weaker⟩

variable (tidy : TidyFrom (·.Spares C) p 0 p.length)

include tidy

/-- **At every moment of a run** the scopes lie above the base and bind what is known there. -/
theorem above_of_trail {c d : Config ω} {cs : List (Config ω)} (trail : Trail ex p c cs d)
    (start : ∃ n : Nat, c.pc = n ∧ Above base (frames p n) c.scopes) :
    ∃ n : Nat, d.pc = n ∧ Above base (frames p n) d.scopes := by
  induction trail with
  | nil => exact start
  | @cons c d e cs first _ ih =>
    obtain ⟨pc, s, w⟩ := c
    obtain ⟨n, rfl, h⟩ := start
    exact ih (above_of_step bindsOnly level tidy h first fun line line_eq => (tidy.tidy_at line_eq).allowed)

/-- However a run ends, what it leaves lies above the base. -/
theorem above_of_ends {flag : Nat → ω → Bool} {d : Config ω} {r : Outcome × Scopes × ω}
    (here : ∃ n : Nat, d.pc = n ∧ Above base (frames p n) d.scopes) (ends : Ends ex flag p d r) :
    ∃ f, Above base f r.2.1 := by
  obtain ⟨n, hpc, h⟩ := here
  cases ends with
  | finished out finish | unfinished out finish =>
    have kept := bindsOnly.finish d.scopes d.world
    rw [finish] at kept
    exact ⟨_, kept.symm ▸ h⟩
  | stopped | astray | exhausted => exact ⟨_, h⟩
  | failed hat hstep =>
    rw [hpc] at hat hstep
    have left := (arrives_at bindsOnly level tidy hat (tidy.tidy_at hat).allowed h d.world).1
    rwa [hstep] at left

theorem scopes_run (flag : Nat → ω → Bool) (budget : Nat) (s : Scopes) (w : ω) :
    (run ex flag budget p false s w).2.1 = s := by
  obtain ⟨cs, d, trail, ends⟩ := exists_trail_of_runFrom ex flag p budget 0 ⟨(0 : Nat), s.push, w⟩
  have start : Above s (frames p 0) s.push := Above.ground.push
  have here := above_of_trail bindsOnly level tidy trail ⟨0, rfl, start⟩
  obtain ⟨f, left⟩ := above_of_ends bindsOnly level tidy here ends
  exact left.truncate

end Runs

/-- **Programs of statements do not leak.** -/
theorem scopes_run_of_spares {ts : List (Statement κ)} (bindsOnly : ex.BindsOnly C)
    (proper : Statement.ProperIn ts) (spares : Statement.AllIn (·.Spares C) ts)
    (flag : Nat → ω → Bool) (budget : Nat) (s : Scopes) (w : ω) :
    (run ex flag budget (compile ts) false s w).2.1 = s :=
  scopes_run bindsOnly (level_of_proper proper) (tidy_compile (surrounds_spares C) proper spares) flag
    budget s w

end Machine

/-! ### Beds -/

/-- A command that binds in the innermost scope. -/
def RenderCommand.Binds : RenderCommand → Prop
  | bind .. => True
  | yield .. => False

theorem Rendering.bindsOnly_executor (names : NameTable) :
    (Rendering.executor names).BindsOnly RenderCommand.Binds where
  execute c s v hc := by
    cases c with
    | yield => cases hc
    | bind x b =>
      show (execute names (.bind x b) s v).2.1 = s ∨
        ∃ x' u, (execute names (.bind x b) s v).2.1 = s.bind x' u
      rw [execute]
      split
      · exact .inr ⟨x, _, rfl⟩
      · exact .inl rfl
      · exact .inl rfl
      · exact .inl rfl
  visit _ _ _ _ _ := rfl
  finish _ _ := rfl

theorem Supervision.bindsOnly_executor (names : NameTable) (patience : Nat) :
    (Supervision.executor names patience).BindsOnly fun _ => True where
  execute _ _ _ _ := .inl rfl
  visit _ _ _ _ _ := rfl
  finish _ _ := rfl

namespace Bed

/-- **Programs do not leak.**  Let a template program of a bed neither assign, push nor yield, or a
command program neither assign nor push.  After every run of it that does not keep its scope, the
scopes are exactly those from before: the same number, each with the same variables and values.
This holds on all scopes and in all worlds, and for every ending: completion, a failure at any
instruction, the flag going up at any moment, a crash, or the end of the budget. -/
theorem run_restores_scopes {here : Whereabouts} {d : Document} {bed : Bed}
    (read : ofDocument here d = .ok bed) :
    (∀ e ∈ bed.templates, Statement.AllIn (·.Spares RenderCommand.Binds) e.2 →
      ∀ names flag budget s v,
        (Machine.run (Rendering.executor names) flag budget (compile e.2) false s v).2.1 = s) ∧
    (∀ e ∈ bed.commands, Statement.AllIn (·.Spares fun _ => True) e.2 →
      ∀ names patience flag budget s v,
        (Machine.run (Supervision.executor names patience) flag budget (compile e.2) false s v).2.1
          = s) := by
  have proper := yields_ofDocument here d
  rw [read] at proper
  exact ⟨fun e he spares names => Machine.scopes_run_of_spares (Rendering.bindsOnly_executor names)
      (proper.templates e he) spares,
    fun e he spares names patience =>
      Machine.scopes_run_of_spares (Supervision.bindsOnly_executor names patience)
        (proper.commands e he) spares⟩

/-- A bed with a template program and a command program that walk over something and bind. -/
def walkingBed : Document :=
  .mapping [
    ("templates", .mapping [("t", .list [.mapping [("for", .text "x"),
      ("in", .list [.text "a", .text "b"]),
      ("do", .list [.mapping [("build", .mapping [("x", .mapping [("base", .text "c")])])]])]])]),
    ("commands", .list [.mapping [("for", .text "x"),
      ("in", .mapping [("range", .list [.int 0, .int 2])]),
      ("do", .list [.mapping [("set", .mapping [("x", .text "c")])],
        .mapping [("spawn", .text "d")]])]])]

theorem run_restores_scopes_walkingBed :
    ∃ bed, ofDocument default walkingBed = .ok bed ∧
      (∃ e ∈ bed.templates, e.2.length = 2 ∧ ∀ names flag budget s v,
        (Machine.run (Rendering.executor names) flag budget (compile e.2) false s v).2.1 = s) ∧
      ∃ e ∈ bed.commands, e.2.length = 1 ∧ ∀ names patience flag budget s v,
        (Machine.run (Supervision.executor names patience) flag budget (compile e.2) false s v).2.1
          = s := by
  obtain ⟨bed, read, ⟨e, he, he_length, he_spares⟩, ⟨e', he', he'_length, he'_spares⟩⟩ :
      ∃ bed, ofDocument default walkingBed = .ok bed ∧
        (∃ e ∈ bed.templates, e.2.length = 2 ∧ Statement.AllIn (·.Spares RenderCommand.Binds) e.2) ∧
        ∃ e ∈ bed.commands, e.2.length = 1 ∧ Statement.AllIn (·.Spares fun _ => True) e.2 :=
    ⟨_, rfl, ⟨_, List.mem_cons_self, rfl, trivial, ⟨trivial, trivial⟩, trivial⟩,
      ⟨_, List.mem_cons_self, rfl, ⟨trivial, trivial, trivial⟩, trivial⟩⟩
  have restores := run_restores_scopes read
  exact ⟨bed, read, ⟨e, he, he_length, restores.1 e he he_spares⟩,
    ⟨e', he', he'_length, restores.2 e' he' he'_spares⟩⟩

end Bed

end Sweep
