import Mathlib.Algebra.Order.Ring.Int
import Sweep.Proofs.Layout
import Sweep.Proofs.Lookup
import Sweep.Proofs.Trail

/-!
# The number of scopes at every position

In the code of statements the number of scopes that are open is known before anything runs: it is
the number of scopes that the instructions in front open and do not close again.

* `Instruction.delta`, `Instruction.jump?` — what an instruction does to the number of scopes, and
  where it may jump; `length_step` and `pc_of_step` say that the machine does just this;
* `depth` — the scopes that the instructions in front of a position leave open;
* `Fits`, `Level` — jumps lead to positions of the same depth and never right behind an instruction
  that opens a scope, and no scope is closed that was not opened;
* `level_codeAll` — code of statements is level, by induction over the tree;
* `Moment` — what the depth says about a moment of a run, kept by every step (`Moment.step`);
* `length_run`, `length_run_kept` — how many scopes a run leaves.

The main statement here is `balanced_of_proper`; which statements a bed holds is another matter.
-/

namespace Sweep

variable {κ ω : Type}

namespace Instruction

/-- How an instruction changes the number of scopes. -/
def delta : Instruction κ → Int
  | pushScope => 1
  | popScope => -1
  | _ => 0

/-- Where an instruction may jump to. -/
def jump? : Instruction κ → Option Int
  | start _ _ j | advance _ _ j | branch _ j | goto j => some j
  | _ => none

/-- An instruction that can stand alone as a statement: it binds, overwrites or appends, where no
scope is given, or it is a command. -/
def isLeaf : Instruction κ → Bool
  | create _ _ none | assign _ _ none | push .. | .command _ => true
  | _ => false

/-- An instruction that binds in no scope but the innermost one. -/
def isInner : Instruction κ → Bool
  | create _ _ (some _) => false
  | _ => true

theorem isInner_of_isLeaf {i : Instruction κ} (h : i.isLeaf = true) : i.isInner = true := by
  cases i with
  | create x e scope => cases scope with
    | none => rfl
    | some => cases h
  | _ => rfl

theorem delta_of_isLeaf {i : Instruction κ} (h : i.isLeaf = true) : i.delta = 0 := by
  cases i with
  | pushScope | popScope => cases h
  | _ => rfl

theorem jump?_of_isLeaf {i : Instruction κ} (h : i.isLeaf = true) : i.jump? = none := by
  cases i with
  | start | advance | branch | goto => cases h
  | _ => rfl

theorem delta_of_jump? {i : Instruction κ} {j : Int} (h : i.jump? = some j) : i.delta = 0 := by
  cases i with
  | pushScope | popScope => cases h
  | _ => rfl

/-- An instruction closes at most one scope. -/
theorem neg_one_le_delta (i : Instruction κ) : -1 ≤ i.delta := by
  cases i with
  | pushScope | popScope => simp [delta]
  | _ => show (-1 : Int) ≤ 0; decide

end Instruction

namespace Statement

mutual

/-- A statement as beds have them: single instructions can stand alone, and every loop has a
variable. -/
def Proper : Statement κ → Prop
  | single i _ => i.isLeaf = true
  | loop _ vars body _ => vars ≠ [] ∧ ProperIn body
  | guarded _ body _ => ProperIn body

def ProperIn : List (Statement κ) → Prop
  | [] => True
  | s :: rest => Proper s ∧ ProperIn rest

end

end Statement

/-- The executor may change what is bound, but not how many scopes there are. -/
structure Executor.KeepsDepth (ex : Executor κ ω) : Prop where
  execute : ∀ c s w, (ex.execute c s w).2.1.length = s.length
  visit : ∀ x position v s w, (ex.visit x position v s w).2.1.length = s.length
  finish : ∀ s w, (ex.finish s w).2.1.length = s.length

/-- As long as a scope is open, the executor changes nothing but what is bound. -/
structure Executor.KeepsOpen (ex : Executor κ ω) : Prop where
  execute : ∀ c s w, 0 < s.length → (ex.execute c s w).2.1.length = s.length
  visit : ∀ x position v s w, 0 < s.length → (ex.visit x position v s w).2.1.length = s.length
  finish : ∀ s w, 0 < s.length → (ex.finish s w).2.1.length = s.length

theorem Executor.KeepsDepth.keepsOpen {ex : Executor κ ω} (keeps : ex.KeepsDepth) : ex.KeepsOpen where
  execute c s w _ := keeps.execute c s w
  visit x position v s w _ := keeps.visit x position v s w
  finish s w _ := keeps.finish s w

namespace Scopes

variable {s s' : Scopes} {x : NameId} {v : Value}

theorem length_write (s : Scopes) (n : Nat) (x : NameId) (v : Value) :
    (s.write n x v).length = s.length := List.length_modify _ _ _

theorem length_bind (h : 0 < s.length) (x : NameId) (v : Value) :
    (s.bind x v).length = s.length := by
  cases s with
  | nil => cases h
  | cons => exact length_write _ _ _ _

theorem length_of_assign {scope : Option Int} (h : s.assign x v scope = .ok s') :
    s'.length = s.length := by
  cases scope with
  | none =>
    obtain ⟨found, -, h⟩ := exists_of_bind_ok h
    obtain rfl := Except.ok.inj h
    exact length_write _ _ _ _
  | some i =>
    simp only [assign] at h
    split at h
    · obtain rfl := Except.ok.inj h
      exact length_write _ _ _ _
    · cases h

theorem length_of_pushTo (h : s.pushTo x v = .ok s') : s'.length = s.length := by
  obtain ⟨found, -, h⟩ := exists_of_bind_ok h
  obtain ⟨place, -, h⟩ := exists_of_bind_ok h
  split at h
  · obtain rfl := Except.ok.inj h
    exact List.length_modify _ _ _
  · obtain rfl := Except.ok.inj h
    rfl
  · cases h

end Scopes

namespace Machine

variable {ex : Executor κ ω} {p : Program κ}

/-! ### One step -/

theorem length_reading {α β : Type} {r : Except ReadError α} {s : Scopes} {w : ω}
    {next : α → Except Failure β × Scopes × ω} {n : Nat} (hs : s.length = n)
    (h : ∀ a, r = .ok a → (next a).2.1.length = n) : (reading r s w next).2.1.length = n :=
  scopes_reading (P := fun s' => s'.length = n) hs h

theorem length_visiting (keeps : ex.KeepsOpen) {s : Scopes} (hs : 0 < s.length) (x : NameId)
    (position : Int) (v : Value) (w : ω) :
    (visiting ex x position v s w).2.1.length = s.length := by
  rw [scopes_visiting, keeps.visit _ _ _ _ _ hs]

theorem length_begin (keeps : ex.KeepsOpen) {s : Scopes} (hs : 0 < s.length) (x : NameId) (w : ω)
    (t : Target) : (begin_ ex x s w t).2.1.length = s.length := by
  have bound (v : Value) : (s.bind x v).length = s.length := Scopes.length_bind hs x v
  have visited (position : Int) (v u : Value) :
      (visiting ex x position u (s.bind x v) w).2.1.length = s.length :=
    (length_visiting keeps ((bound v).symm ▸ hs) _ _ _ _).trans (bound v)
  cases t with
  | range lo hi =>
    refine length_reading rfl fun ⟨a, b⟩ _ => ?_
    dsimp only
    split
    · exact visited _ _ _
    · rfl
  | elements t =>
    refine length_reading rfl fun ⟨n, v⟩ _ => ?_
    dsimp only
    split
    · rfl
    · exact length_reading (bound _) fun whole _ => visited _ _ _

theorem length_proceed (keeps : ex.KeepsOpen) {s : Scopes} (hs : 0 < s.length) (x : NameId) (w : ω) :
    (proceed ex x s w).2.1.length = s.length := by
  have written (n : Nat) (v : Value) : (s.write n x v).length = s.length :=
    Scopes.length_write _ _ _ _
  have visited (n : Nat) (position : Int) (v u : Value) :
      (visiting ex x position u (s.write n x v) w).2.1.length = s.length :=
    (length_visiting keeps ((written n v).symm ▸ hs) _ _ _ _).trans (written n v)
  refine length_reading rfl fun found _ => ?_
  split
  · dsimp only
    split
    · exact visited _ _ _ _
    · exact written _ _
  · refine length_reading rfl fun whole _ => ?_
    dsimp only
    split
    · exact visited _ _ _ _
    · exact written _ _
  · rfl

theorem length_plainStep (keeps : ex.KeepsOpen) {i : Instruction κ} (inner : i.isInner = true)
    {s : Scopes} (hs : 0 < s.length) (w : ω) :
    ((plainStep ex i s w).2.1.length : Int) = s.length + i.delta := by
  have same {n : Nat} (h : n = s.length) (hi : i.delta = 0) : (n : Int) = s.length + i.delta := by
    rw [h, hi, Int.add_zero]
  cases i with
  | pushScope => simp [plainStep, Scopes.push, Instruction.delta]
  | popScope =>
    simp only [plainStep, Scopes.pop, Instruction.delta, List.length_dropLast]
    omega
  | create x e scope =>
    cases scope with
    | some => cases inner
    | none => exact same (length_reading rfl fun _ _ => Scopes.length_bind hs _ _) rfl
  | assign x e scope =>
    refine same (length_reading rfl fun s' hs' => ?_) rfl
    obtain ⟨v, -, h⟩ := exists_of_bind_ok hs'
    exact Scopes.length_of_assign h
  | push x e =>
    refine same (length_reading rfl fun s' hs' => ?_) rfl
    obtain ⟨v, -, h⟩ := exists_of_bind_ok hs'
    exact Scopes.length_of_pushTo h
  | command c => exact same (keeps.execute c s w hs) rfl
  | start | advance | branch | goto => exact same rfl rfl

/-- **The number of scopes** after an instruction, whether it succeeds or not. -/
theorem length_step (keeps : ex.KeepsOpen) {i : Instruction κ} (inner : i.isInner = true)
    {s : Scopes} (hs : 0 < s.length) (pc : Int) (w : ω) :
    ((step ex pc i s w).2.1.length : Int) = s.length + i.delta := by
  have same {n : Nat} (h : n = s.length) (hi : i.delta = 0) : (n : Int) = s.length + i.delta := by
    rw [h, hi, Int.add_zero]
  cases i with
  | start t x jump => exact same (length_begin keeps hs x w t) rfl
  | advance t x jump => exact same (length_proceed keeps hs x w) rfl
  | branch guard jump => exact same (length_reading rfl fun _ _ => rfl) rfl
  | goto jump => exact same rfl rfl
  | pushScope | popScope | create | assign | push | command =>
    exact length_plainStep keeps inner hs w

theorem next_of_orJump {pc jump next : Int} {r : Except Failure Bool × Scopes × ω}
    {here : Scopes × ω} (h : orJump pc jump r = (.ok next, here)) : next = pc + 1 ∨ jump = next := by
  obtain ⟨f | yes, s, w⟩ := r
  · cases h
  · obtain rfl := Except.ok.inj (Prod.mk.inj h).1
    cases yes with
    | true => exact .inl rfl
    | false => exact .inr rfl

theorem next_of_map {ε : Type} {next behind : Int} {r : Except ε Unit}
    (h : r.map (fun _ => behind) = .ok next) : next = behind := by
  cases r with
  | error => cases h
  | ok => exact (Except.ok.inj h).symm

/-- The machine goes on with the next instruction or jumps. -/
theorem pc_of_step {pc next : Int} {i : Instruction κ} {s : Scopes} {w : ω} {here : Scopes × ω}
    (h : step ex pc i s w = (.ok next, here)) : next = pc + 1 ∨ i.jump? = some next := by
  cases i with
  | start | advance | branch => exact (next_of_orJump h).imp id (congrArg some)
  | goto jump => exact .inr (congrArg some (Except.ok.inj (Prod.mk.inj h).1))
  | pushScope | popScope | create | assign | push | command =>
    exact .inl (next_of_map (Prod.mk.inj h).1)

/-! ### Static depth -/

/-- How many scopes the instructions in front of a position leave open. -/
def depth (p : Program κ) (n : Nat) : Int :=
  ((p.take n).map fun line => line.instruction.delta).sum

theorem depth_succ {n : Nat} {line : Line κ} (h : p[n]? = some line) :
    depth p (n + 1) = depth p n + line.instruction.delta := by
  rw [depth, depth, List.take_add_one, h]
  simp

/-- The position is right behind an instruction that opens a scope: there the bodies of loops and the
guarded blocks begin. -/
def Opens (p : Program κ) (n : Nat) : Prop :=
  ∃ k origin, n = k + 1 ∧ p[k]? = some ⟨.pushScope, origin⟩

theorem not_opens {n : Nat} {line : Line κ} (h : p[n]? = some line)
    (hline : line.instruction.delta ≤ 0) : ¬ Opens p (n + 1) := by
  rintro ⟨k, origin, hk, hpush⟩
  obtain rfl : n = k := by omega
  rw [h] at hpush
  obtain rfl := Option.some.inj hpush
  simp [Instruction.delta] at hline

/-- An instruction agrees with the depths of a program, on a ground of scopes that it must not
close. -/
structure Fits (p : Program κ) (ground : Int) (n : Nat) (i : Instruction κ) : Prop where
  inner : i.isInner = true
  above : ground ≤ depth p n
  closes : i = .popScope → ground < depth p n
  lands : ∀ j, i.jump? = some j →
    ∃ m : Nat, j = m ∧ m ≤ p.length ∧ depth p m = depth p n ∧ ¬ Opens p m

theorem Fits.mono {ground lower : Int} {n : Nat} {i : Instruction κ} (h : Fits p ground n i)
    (hl : lower ≤ ground) : Fits p lower n i :=
  ⟨h.inner, Int.le_trans hl h.above, fun hi => Int.lt_of_le_of_lt hl (h.closes hi), h.lands⟩

/-- A stretch of a program is level: it ends at the depth at which it begins and agrees with the
depths all along. -/
structure Level (p : Program κ) (n m : Nat) : Prop where
  le : n ≤ m
  ends : depth p m = depth p n
  fits : ∀ k line, n ≤ k → k < m → p[k]? = some line → Fits p (depth p n) k line.instruction

namespace Level

variable {n m k : Nat} {line : Line κ} {origin : Option String}

theorem refl (n : Nat) : Level p n n := ⟨Nat.le_refl n, rfl, fun _ _ h h' => by omega⟩

theorem trans (h₁ : Level p n m) (h₂ : Level p m k) : Level p n k where
  le := Nat.le_trans h₁.le h₂.le
  ends := h₂.ends.trans h₁.ends
  fits j line hn hk hline := by
    rcases Nat.lt_or_ge j m with hj | hj
    · exact h₁.fits j line hn hj hline
    · exact h₁.ends ▸ h₂.fits j line hj hk hline

theorem single (line_eq : p[n]? = some line) (flat : line.instruction.delta = 0)
    (fits : Fits p (depth p n) n line.instruction) : Level p n (n + 1) where
  le := Nat.le_succ n
  ends := by rw [depth_succ line_eq, flat, Int.add_zero]
  fits j line' hn hm hline := by
    obtain rfl : j = n := by omega
    rw [line_eq] at hline
    exact Option.some.inj hline ▸ fits

/-- An instruction that stands alone. -/
theorem leaf (line_eq : p[n]? = some line) (leaf : line.instruction.isLeaf = true) :
    Level p n (n + 1) := by
  refine single line_eq (Instruction.delta_of_isLeaf leaf)
    ⟨Instruction.isInner_of_isLeaf leaf, Int.le_refl _, fun h => ?_, fun j h => ?_⟩
  · rw [h] at leaf
    cases leaf
  · rw [Instruction.jump?_of_isLeaf leaf] at h
    cases h

/-- An instruction that may jump. -/
theorem jump (line_eq : p[n]? = some line) (hjump : line.instruction.jump? = some (m : Int))
    (range : m ≤ p.length) (hm : depth p m = depth p n) (closed : ¬ Opens p m) :
    Level p n (n + 1) := by
  refine single line_eq (Instruction.delta_of_jump? hjump)
    ⟨?_, Int.le_refl _, fun h => ?_, fun j h => ?_⟩
  · cases hi : line.instruction with
    | create => simp [hi, Instruction.jump?] at hjump
    | _ => rfl
  · rw [h] at hjump
    cases hjump
  · rw [hjump] at h
    exact ⟨m, (Option.some.inj h).symm, range, hm, closed⟩

/-- A stretch in a scope of its own. -/
theorem inScope (push_eq : p[n]? = some ⟨.pushScope, origin⟩) (h : Level p (n + 1) m)
    (pop_eq : p[m]? = some ⟨.popScope, origin⟩) : Level p n (m + 1) := by
  have up : depth p (n + 1) = depth p n + 1 := depth_succ push_eq
  have down : depth p (m + 1) = depth p m + -1 := depth_succ pop_eq
  have le := h.le
  refine ⟨by omega, by rw [down, h.ends, up]; omega, fun k line hn hk hline => ?_⟩
  rcases Nat.eq_or_lt_of_le hn with rfl | hn
  · rw [push_eq] at hline
    obtain rfl := Option.some.inj hline
    exact ⟨rfl, Int.le_refl _, nofun, nofun⟩
  · rcases Nat.eq_or_lt_of_le (Nat.le_of_lt_succ hk) with rfl | hk
    · rw [pop_eq] at hline
      obtain rfl := Option.some.inj hline
      have ends := h.ends
      exact ⟨rfl, by omega, fun _ => by omega, nofun⟩
    · exact (h.fits k line hn hk hline).mono (by omega)

/-- Instructions that all may jump to the same place. -/
theorem jumps {ι : Type} {line : ι → Line κ} (xs : List ι) (placed : Placed p n (xs.map line))
    (hjump : ∀ x, (line x).instruction.jump? = some (m : Int)) (range : m ≤ p.length)
    (hm : depth p m = depth p n) (closed : ¬ Opens p m) : Level p n (n + xs.length) := by
  induction xs generalizing n with
  | nil => exact refl n
  | cons x xs ih =>
    have first := jump placed.head (hjump x) range hm closed
    have rest := ih placed.tail (hm.trans first.ends.symm)
    rw [show n + (x :: xs).length = n + 1 + xs.length by
      rw [List.length_cons]
      omega]
    exact first.trans rest

end Level

/-- Instructions that do not open or close scopes. -/
theorem depth_of_flat {n : Nat} (code : Program κ) (placed : Placed p n code)
    (flat : ∀ line ∈ code, line.instruction.delta = 0) : depth p (n + code.length) = depth p n := by
  induction code generalizing n with
  | nil => rfl
  | cons line code ih =>
    rw [List.length_cons, show n + (code.length + 1) = n + 1 + code.length by omega,
      ih placed.tail fun l hl => flat l (List.mem_cons_of_mem _ hl), depth_succ placed.head,
      flat line List.mem_cons_self, Int.add_zero]

/-! ### Code of statements -/

theorem lt_length_of_getElem? {n : Nat} {line : Line κ} (h : p[n]? = some line) : n < p.length :=
  (List.getElem?_eq_some_iff.1 h).1

section Layouts

variable {origin : Option String} {body : Code.Block κ}
  (hbody : ∀ n, Placed p n (body n) → Level p n (n + (body n).length))

include hbody

theorem level_block {n last : Nat} (block : BlockAt p origin body n last) : Level p n (last + 1) := by
  have inside := hbody _ block.inside
  rw [← block.last_eq] at inside
  exact inside.inScope block.enter block.leave

theorem level_group {vars : List (NameId × Target)} (nonempty : vars ≠ []) {n : Nat}
    (placed : Placed p n (Code.group origin vars body n)) :
    Level p n (n + (Code.group origin vars body n).length) := by
  obtain ⟨again, last, finish, h⟩ := placed.group
  have block := level_block hbody h.block
  have hlast := h.finish_eq
  have hagain := h.again_eq
  rw [h.end_eq]
  -- all positions outside the block of a round have the depth of the first one
  have starts := depth_of_flat _ h.starts (List.forall_mem_map.2 fun _ _ => rfl)
  have advances := depth_of_flat _ h.advances (List.forall_mem_map.2 fun _ _ => rfl)
  rw [List.length_map] at starts advances
  have goto : depth p finish = depth p (last + 1 + vars.length) + 0 := hlast ▸ depth_succ h.jump
  have range : finish ≤ p.length := Nat.le_of_lt (lt_length_of_getElem? h.leave)
  have closed : ¬ Opens p finish := hlast ▸ not_opens h.jump (Int.le_refl 0)
  -- the instruction in front of the rounds begins the last variable
  have again_closed : ¬ Opens p again := by
    have hpos : 0 < vars.length := List.length_pos_iff.2 nonempty
    have front := h.starts.getElem? (k := vars.length - 1) (by rw [List.length_map]; omega)
    rw [List.getElem?_map, List.getElem?_eq_getElem (show vars.length - 1 < vars.length by omega),
      show n + 1 + (vars.length - 1) = n + vars.length by omega] at front
    rw [show again = n + vars.length + 1 by omega]
    exact not_opens front (Int.le_refl 0)
  rw [← hagain] at starts
  have ends := block.ends
  have rounds : Level p (n + 1) finish := by
    refine (Level.jumps vars h.starts (fun _ => rfl) range (by omega) closed).trans ?_
    rw [← hagain]
    refine (block.trans (Level.jumps vars h.advances (fun _ => rfl) range (by omega) closed)).trans ?_
    rw [hlast]
    exact Level.jump h.jump rfl (Nat.le_of_lt (lt_length_of_getElem? h.block.enter)) (by omega) again_closed
  exact rounds.inScope h.enter h.leave

theorem level_combinations {vars : List (NameId × Target)} {n : Nat}
    (placed : Placed p n (Code.combinations origin body vars n)) :
    Level p n (n + (Code.combinations origin body vars n).length) := by
  induction vars generalizing n with
  | nil =>
    obtain ⟨last, block, end_eq⟩ := placed.block
    rw [end_eq]
    exact level_block hbody block
  | cons v vars ih =>
    obtain ⟨last, h⟩ := placed.nest
    have inside := ih h.inside
    rw [← h.last_eq] at inside
    rw [h.end_eq]
    have start : depth p (n + 2) = depth p (n + 1) + 0 := depth_succ h.start
    have advance : depth p (last + 1) = depth p last + 0 := depth_succ h.advance
    have goto : depth p (last + 2) = depth p (last + 1) + 0 := depth_succ h.jump
    have ends := inside.ends
    have range : last + 2 ≤ p.length := Nat.le_of_lt (lt_length_of_getElem? h.leave)
    have inner : n + 2 ≤ p.length := Nat.le_trans inside.le (by omega)
    have closed : ¬ Opens p (last + 2) := not_opens h.jump (Int.le_refl 0)
    have inner_closed : ¬ Opens p (n + 2) := not_opens h.start (Int.le_refl 0)
    have rounds : Level p (n + 1) (last + 2) :=
      (Level.jump h.start rfl range (by omega) closed).trans
        (inside.trans ((Level.jump h.advance rfl range (by omega) closed).trans
          (Level.jump h.jump rfl inner (by omega) inner_closed)))
    exact rounds.inScope h.enter h.leave

theorem level_guarded {guards : List Path} {n : Nat}
    (placed : Placed p n (Code.guarded origin guards body n)) :
    Level p n (n + (Code.guarded origin guards body n).length) := by
  obtain ⟨last, h⟩ := placed.guarded
  have block := level_block hbody h.block
  rw [h.end_eq]
  have branches := depth_of_flat _ h.branches (List.forall_mem_map.2 fun _ _ => rfl)
  rw [List.length_map] at branches
  have range : last + 1 ≤ p.length := lt_length_of_getElem? h.block.leave
  have closed : ¬ Opens p (last + 1) := not_opens h.block.leave (show (-1 : Int) ≤ 0 by decide)
  exact (Level.jumps guards h.branches (fun _ => rfl) range (block.ends.trans branches) closed).trans
    block

end Layouts


mutual

/-- **Code of a statement is level**, by induction over the tree. -/
theorem level_code (t : Statement κ) (proper : t.Proper) (n : Nat) (placed : Placed p n (t.code n)) :
    Level p n (n + (t.code n).length) := by
  match t with
  | .single i origin => exact Level.leaf placed.head proper
  | .loop .group vars body origin =>
    exact level_group (fun n => level_codeAll body proper.2 n) proper.1 placed
  | .loop .combinations vars body origin =>
    exact level_combinations (fun n => level_codeAll body proper.2 n) placed
  | .guarded guards body origin =>
    exact level_guarded (fun n => level_codeAll body proper n) placed

theorem level_codeAll (ts : List (Statement κ)) (proper : Statement.ProperIn ts) (n : Nat)
    (placed : Placed p n (Statement.codeAll ts n)) :
    Level p n (n + (Statement.codeAll ts n).length) := by
  match ts with
  | [] => exact Level.refl n
  | t :: rest =>
    simp only [Statement.codeAll] at placed ⊢
    rw [List.length_append, ← Nat.add_assoc]
    exact (level_code t proper.1 n placed.left).trans (level_codeAll rest proper.2 _ placed.right)

end

theorem level_of_proper {ts : List (Statement κ)} (proper : Statement.ProperIn ts) :
    Level (compile ts) 0 (compile ts).length := by
  have level := level_codeAll ts proper 0 (Placed.compiled ts)
  rwa [Nat.zero_add, ← compile_eq_codeAll] at level

/-! ### Runs -/

theorem Level.depth_nonneg (level : Level p 0 p.length) {n : Nat} (hn : n ≤ p.length) :
    0 ≤ depth p n := by
  rcases Nat.eq_or_lt_of_le hn with rfl | hn
  · exact Int.le_of_eq level.ends.symm
  · exact (level.fits n _ (Nat.zero_le n) hn (List.getElem?_eq_getElem hn)).above

/-- What the depth says about a moment of a run that began on `base` scopes and opened one of its
own. -/
structure Moment (p : Program κ) (base : Nat) (n : Nat) (s : Scopes) : Prop where
  range : n ≤ p.length
  scopes : (s.length : Int) = base + 1 + depth p n
  fresh : Opens p n → s.getLast? = some []

theorem moment_zero (p : Program κ) (s : Scopes) : Moment p s.length 0 s.push where
  range := Nat.zero_le _
  scopes := by simp [Scopes.push, depth]
  fresh := by
    rintro ⟨k, origin, hk, -⟩
    cases hk

/-- **Every step keeps to the depth.** -/
theorem Moment.step {base n : Nat} {s : Scopes} {w : ω} {d : Config ω} (level : Level p 0 p.length)
    (keeps : ex.KeepsOpen) (m : Moment p base n s) (h : Step ex p ⟨n, s, w⟩ d) :
    ∃ m : Nat, d.pc = m ∧ Moment p base m d.scopes := by
  obtain ⟨line, line_eq, step_eq⟩ := h
  have hline : p[n]? = some line := line_eq
  have hn := lt_length_of_getElem? hline
  have fits := level.fits n line (Nat.zero_le n) hn hline
  have hs := m.scopes
  have habove := level.depth_nonneg m.range
  have hpos : 0 < s.length := by omega
  have length : (d.scopes.length : Int) = s.length + line.instruction.delta := by
    have hstep := length_step keeps fits.inner hpos (n : Int) w
    rw [step_eq] at hstep
    exact hstep
  rcases pc_of_step step_eq with next | jump
  · have hdepth := depth_succ hline
    refine ⟨n + 1, next, hn, by omega, ?_⟩
    rintro ⟨k, origin, hk, hpush⟩
    obtain rfl : n = k := by omega
    rw [hline] at hpush
    obtain rfl := Option.some.inj hpush
    obtain ⟨-, hd⟩ := Prod.mk.inj step_eq
    obtain ⟨hscopes, -⟩ := Prod.mk.inj hd
    rw [← hscopes]
    exact List.getLast?_concat
  · obtain ⟨m, hm, range, same, closed⟩ := fits.lands _ jump
    have flat := Instruction.delta_of_jump? jump
    exact ⟨m, hm, range, by omega, fun opens => absurd opens closed⟩

theorem exists_moment_of_trail {base : Nat} {c d : Config ω} {cs : List (Config ω)}
    (level : Level p 0 p.length) (keeps : ex.KeepsOpen) (h : Trail ex p c cs d)
    (start : ∃ n : Nat, c.pc = n ∧ Moment p base n c.scopes) :
    ∃ n : Nat, d.pc = n ∧ Moment p base n d.scopes := by
  induction h with
  | nil => exact start
  | @cons c d e cs first _ ih =>
    obtain ⟨pc, s, w⟩ := c
    obtain ⟨n, rfl, m⟩ := start
    exact ih (m.step level keeps first)

/-- However a run ends, the scopes on which it began are still below; behind a run that finishes there
is one more. -/
theorem length_of_ends {base : Nat} {flag : Nat → ω → Bool} {d : Config ω} {r : Outcome × Scopes × ω}
    (level : Level p 0 p.length) (keeps : ex.KeepsOpen)
    (here : ∃ n : Nat, d.pc = n ∧ Moment p base n d.scopes) (ends : Ends ex flag p d r) :
    base ≤ r.2.1.length ∧ (r.1 = .finished → r.2.1.length = base + 1) := by
  obtain ⟨n, hn, m⟩ := here
  have scopes := m.scopes
  have above := level.depth_nonneg m.range
  have hs : 0 < d.scopes.length := by omega
  have low : base ≤ d.scopes.length := by omega
  cases ends with
  | finished out finish =>
    have kept := keeps.finish d.scopes d.world hs
    rw [finish] at kept
    -- there is no instruction where the run finished, so it was behind the last one
    rw [hn] at out
    obtain rfl : n = p.length := Nat.le_antisymm m.range (List.getElem?_eq_none_iff.1 out)
    rw [level.ends, show depth p 0 = 0 from rfl] at scopes
    dsimp only at kept ⊢
    exact ⟨by omega, fun _ => by omega⟩
  | unfinished out finish =>
    have kept := keeps.finish d.scopes d.world hs
    rw [finish] at kept
    dsimp only at kept ⊢
    exact ⟨by omega, nofun⟩
  | stopped | astray | exhausted => exact ⟨low, nofun⟩
  | @failed line f here hat hstep =>
    rw [hn] at hat hstep
    have hline : p[n]? = some line := hat
    have fits := level.fits n line (Nat.zero_le n) (lt_length_of_getElem? hline) hline
    have length := length_step keeps fits.inner hs (n : Int) d.world
    rw [hstep] at length
    have shallow := line.instruction.neg_one_le_delta
    dsimp only at length ⊢
    exact ⟨by omega, by cases f <;> nofun⟩

theorem length_of_runFrom (level : Level p 0 p.length) (keeps : ex.KeepsOpen) (flag : Nat → ω → Bool)
    (budget : Nat) (s : Scopes) (w : ω) :
    s.length ≤ (runFrom ex flag p budget 0 0 s.push w).2.1.length ∧
      ((runFrom ex flag p budget 0 0 s.push w).1 = .finished →
        (runFrom ex flag p budget 0 0 s.push w).2.1.length = s.length + 1) := by
  obtain ⟨cs, d, trail, ends⟩ := exists_trail_of_runFrom ex flag p budget 0 ⟨(0 : Nat), s.push, w⟩
  have here := exists_moment_of_trail level keeps trail ⟨0, rfl, moment_zero p s⟩
  exact length_of_ends level keeps here ends

/-- **A run that takes its scope off again leaves as many scopes as there were**, however it ends. -/
theorem length_run (level : Level p 0 p.length) (keeps : ex.KeepsOpen) (flag : Nat → ω → Bool)
    (budget : Nat) (s : Scopes) (w : ω) : (run ex flag budget p false s w).2.1.length = s.length := by
  have low := (length_of_runFrom level keeps flag budget s w).1
  show ((runFrom ex flag p budget 0 0 s.push w).2.1.take s.length).length = s.length
  rw [List.length_take]
  omega

/-- A run that finishes and keeps its scope leaves one scope more. -/
theorem length_run_kept (level : Level p 0 p.length) (keeps : ex.KeepsOpen) (flag : Nat → ω → Bool)
    (budget : Nat) (s : Scopes) (w : ω) (finished : (run ex flag budget p true s w).1 = .finished) :
    (run ex flag budget p true s w).2.1.length = s.length + 1 :=
  (length_of_runFrom level keeps flag budget s w).2 finished

/-- A program is balanced: its jumps stay within it, and every position has a depth.  Whatever an
executor does that leaves the number of scopes alone, the run has at every moment exactly as many
scopes above those on which it began as the depth of its position says, and one of its own.  So no
scope is closed that the run did not open; right behind an instruction that opens a scope, which is
where bodies and blocks begin, the innermost scope is empty; and a run that finishes has only its own
scope left. -/
structure Balanced (p : Program κ) : Prop where
  jumps : ∀ line ∈ p, ∀ j, line.instruction.jump? = some j → 0 ≤ j ∧ j ≤ p.length
  static : ∃ depths : Nat → Nat, ∀ {ω : Type} (ex : Executor κ ω), ex.KeepsDepth →
    ∀ (s : Scopes) (w : ω),
      (∀ cs c, Trail ex p ⟨(0 : Nat), s.push, w⟩ cs c → ∃ n : Nat, c.pc = n ∧ n ≤ p.length ∧
        c.scopes.length = s.length + 1 + depths n ∧
        (∀ origin, p[n]? = some ⟨.popScope, origin⟩ → s.length + 1 < c.scopes.length) ∧
        (Opens p n → c.scopes.getLast? = some [])) ∧
      ∀ flag budget s' w', runFrom ex flag p budget 0 0 s.push w = (.finished, s', w') →
        s'.length = s.length + 1

theorem balanced_of_level (level : Level p 0 p.length) : Balanced p where
  jumps := by
    intro line hline j hj
    obtain ⟨n, hn, hget⟩ := List.mem_iff_getElem.1 hline
    have line_eq : p[n]? = some line := by rw [List.getElem?_eq_getElem hn, hget]
    obtain ⟨m, rfl, range, -, -⟩ := (level.fits n line (Nat.zero_le n) hn line_eq).lands j hj
    exact ⟨Int.natCast_nonneg m, Int.ofNat_le.2 range⟩
  static := by
    refine ⟨fun n => (depth p n).toNat, fun ex keeps s w => ⟨fun cs c trail => ?_, ?_⟩⟩
    · obtain ⟨n, hn, m⟩ :=
        exists_moment_of_trail level keeps.keepsOpen trail ⟨0, rfl, moment_zero p s⟩
      have scopes := m.scopes
      have above := level.depth_nonneg m.range
      refine ⟨n, hn, m.range, by dsimp only; omega, fun origin pop_eq => ?_, m.fresh⟩
      have low := (level.fits n _ (Nat.zero_le n) (lt_length_of_getElem? pop_eq) pop_eq).closes rfl
      have zero : depth p 0 = 0 := rfl
      omega
    · intro flag budget s' w' h
      have length := (length_of_runFrom level keeps.keepsOpen flag budget s w).2
      rw [h] at length
      exact length rfl

/-- **The code of proper statements is balanced.** -/
theorem balanced_of_proper {ts : List (Statement κ)} (proper : Statement.ProperIn ts) :
    Balanced (compile ts) :=
  balanced_of_level (level_of_proper proper)

end Machine

end Sweep
