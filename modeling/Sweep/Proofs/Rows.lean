import Sweep.Proofs.Balance

/-!
# Where loop variables begin

A loop in lock step opens a scope and begins its variables in it, one right behind the other.  If
their names are different, each of them is new to the innermost scope when its turn comes: there is
nothing in that scope but the variables that began before it.

* `begun`, `Behind` — the variables that begin directly in front of a position, and the positions behind
  an instruction that opens a scope or begins a variable;
* `Distinct` — the variables of each loop in lock step have different names;
* `Orderly` — a variable begins in a row behind the opening of a scope, under a new name, and no jump
  leads into a row;
* `orderly_codeAll` — code of statements is orderly, by induction over the tree.

Which bindings there are when a variable begins is a matter of runs.
-/

namespace Sweep

variable {κ ω : Type}

namespace Statement

mutual

/-- The variables of each loop in lock step have different names, however deep it stands. -/
def Distinct : Statement κ → Prop
  | single _ _ => True
  | loop .group vars body _ => (vars.map Prod.fst).Nodup ∧ DistinctIn body
  | loop .combinations _ body _ => DistinctIn body
  | guarded _ body _ => DistinctIn body

def DistinctIn : List (Statement κ) → Prop
  | [] => True
  | s :: rest => Distinct s ∧ DistinctIn rest

end

end Statement

namespace Machine

variable {p : Program κ} {n m k : Nat} {line : Line κ} {origin : Option String}

/-! ### Rows of beginnings -/

/-- The variables that begin directly in front of a position, the last one first. -/
def begun (p : Program κ) : Nat → List NameId
  | 0 => []
  | n + 1 =>
    match p[n]? with
    | some ⟨.start _ x _, _⟩ => x :: begun p n
    | _ => []

theorem begun_succ {t : Target} {x : NameId} {j : Int} (h : p[n]? = some ⟨.start t x j, origin⟩) :
    begun p (n + 1) = x :: begun p n := by
  rw [begun, h]

theorem begun_of_enter (h : p[n]? = some ⟨.pushScope, origin⟩) : begun p (n + 1) = [] := by
  rw [begun, h]

/-- A loop variable begins at a position. -/
def Begins (p : Program κ) (n : Nat) : Prop :=
  ∃ t x j origin, p[n]? = some ⟨.start t x j, origin⟩

/-- The position is right behind an instruction that opens a scope or begins a loop variable. -/
def Behind (p : Program κ) (n : Nat) : Prop :=
  ∃ k origin, n = k + 1 ∧ (p[k]? = some ⟨.pushScope, origin⟩ ∨
    ∃ t x j, p[k]? = some ⟨.start t x j, origin⟩)

theorem behind_enter (h : p[n]? = some ⟨.pushScope, origin⟩) : Behind p (n + 1) :=
  ⟨n, origin, rfl, .inl h⟩

theorem behind_start {t : Target} {x : NameId} {j : Int}
    (h : p[n]? = some ⟨.start t x j, origin⟩) : Behind p (n + 1) :=
  ⟨n, origin, rfl, .inr ⟨t, x, j, h⟩⟩

/-- An instruction of another kind begins nothing. -/
theorem not_begins (h : p[n]? = some line) (other : ∀ t x j, line.instruction ≠ .start t x j) :
    ¬ Begins p n := by
  rintro ⟨t, x, j, origin, start_eq⟩
  rw [h] at start_eq
  obtain rfl := Option.some.inj start_eq
  exact other t x j rfl

theorem not_behind_leave (h : p[n]? = some ⟨.popScope, origin⟩) : ¬ Behind p (n + 1) := by
  rintro ⟨k, o, hk, enter | ⟨t, x, j, start⟩⟩
  · obtain rfl : n = k := by omega
    rw [h] at enter
    cases enter
  · obtain rfl : n = k := by omega
    rw [h] at start
    cases start

/-- An instruction agrees with the rows: a variable begins in a row behind the opening of a scope, its
name is new there, and no jump leads into a row. -/
structure Orderly (p : Program κ) (n : Nat) (i : Instruction κ) : Prop where
  begins : ∀ t x j, i = .start t x j → Behind p n ∧ x ∉ begun p n
  lands : ∀ j, i.jump? = some j → ∃ m : Nat, j = m ∧ ¬ (Begins p m ∧ Behind p m)

/-- The instructions of a stretch agree with the rows. -/
def OrderlyFrom (p : Program κ) (n m : Nat) : Prop :=
  ∀ k line, n ≤ k → k < m → p[k]? = some line → Orderly p k line.instruction

namespace OrderlyFrom

theorem nil (n : Nat) : OrderlyFrom p n n := fun _ _ h h' => by omega

theorem append (h₁ : OrderlyFrom p n m) (h₂ : OrderlyFrom p m k) : OrderlyFrom p n k := by
  intro j line hn hk hline
  rcases Nat.lt_or_ge j m with hj | hj
  · exact h₁ j line hn hj hline
  · exact h₂ j line hj hk hline

theorem single (line_eq : p[n]? = some line) (orderly : Orderly p n line.instruction) :
    OrderlyFrom p n (n + 1) := by
  intro j line' hn hm hline
  obtain rfl : j = n := by omega
  rw [line_eq] at hline
  exact Option.some.inj hline ▸ orderly

/-- An instruction that neither begins a variable nor jumps. -/
theorem still (line_eq : p[n]? = some line) (other : ∀ t x j, line.instruction ≠ .start t x j)
    (stays : line.instruction.jump? = none) : OrderlyFrom p n (n + 1) := by
  refine single line_eq ⟨fun t x j h => absurd h (other t x j), fun j h => ?_⟩
  rw [stays] at h
  cases h

/-- An instruction that begins no variable and may jump to where no row goes on. -/
theorem jump (line_eq : p[n]? = some line) (other : ∀ t x j, line.instruction ≠ .start t x j)
    (jumps : line.instruction.jump? = some (m : Int)) (out : ¬ (Begins p m ∧ Behind p m)) :
    OrderlyFrom p n (n + 1) := by
  refine single line_eq ⟨fun t x j h => absurd h (other t x j), fun j h => ?_⟩
  rw [jumps] at h
  exact ⟨m, (Option.some.inj h).symm, out⟩

/-- Such instructions one after the other. -/
theorem jumps {ι : Type} {line : ι → Line κ} (xs : List ι) (placed : Placed p n (xs.map line))
    (other : ∀ u t x j, (line u).instruction ≠ .start t x j)
    (jumps : ∀ u, (line u).instruction.jump? = some (m : Int))
    (out : ¬ (Begins p m ∧ Behind p m)) : OrderlyFrom p n (n + xs.length) := by
  induction xs generalizing n with
  | nil => exact .nil n
  | cons u xs ih =>
    rw [List.length_cons, show n + (xs.length + 1) = n + 1 + xs.length by omega]
    exact (jump placed.head (other u) (jumps u) out).append (ih placed.tail)

/-- A row of beginnings with different names, behind the opening of a scope. -/
theorem starts {vars : List (NameId × Target)}
    (placed : Placed p n (vars.map fun v => ⟨.start v.2 v.1 (m : Nat), origin⟩))
    (behind : Behind p n) (distinct : (vars.map Prod.fst).Nodup)
    (new : ∀ v ∈ vars, v.1 ∉ begun p n) (out : ¬ (Begins p m ∧ Behind p m)) :
    OrderlyFrom p n (n + vars.length) := by
  induction vars generalizing n with
  | nil => exact .nil n
  | cons v vars ih =>
    rw [List.map_cons, List.nodup_cons] at distinct
    have first : Orderly p n (.start v.2 v.1 (m : Nat)) := by
      refine ⟨fun t x j h => ?_, fun j h => ⟨m, (Option.some.inj h).symm, out⟩⟩
      obtain ⟨-, rfl, -⟩ := Instruction.start.inj h
      exact ⟨behind, new v List.mem_cons_self⟩
    have rest := ih placed.tail (behind_start placed.head) distinct.2 (by
      intro u hu
      rw [begun_succ placed.head, List.mem_cons, not_or]
      constructor
      · intro same
        exact distinct.1 (List.mem_map.2 ⟨u, hu, same⟩)
      · exact new u (List.mem_cons_of_mem v hu))
    rw [List.length_cons, show n + (vars.length + 1) = n + 1 + vars.length by omega]
    exact (single placed.head first).append rest

end OrderlyFrom

/-! ### Code of statements -/

section Layouts

variable {body : Code.Block κ}
  (hbody : ∀ n, Placed p n (body n) → OrderlyFrom p n (n + (body n).length))

theorem not_begins_enter (h : p[n]? = some ⟨.pushScope, origin⟩) :
    ¬ (Begins p n ∧ Behind p n) := fun both => not_begins h nofun both.1

theorem not_begins_leave (h : p[n]? = some ⟨.popScope, origin⟩) :
    ¬ (Begins p n ∧ Behind p n) := fun both => not_begins h nofun both.1

include hbody

theorem orderly_block {last : Nat} (block : BlockAt p origin body n last) :
    OrderlyFrom p n (last + 1) := by
  have inside := hbody _ block.inside
  rw [← block.last_eq] at inside
  exact (OrderlyFrom.still block.enter nofun rfl).append
    (inside.append (.still block.leave nofun rfl))

theorem orderly_group {vars : List (NameId × Target)} (distinct : (vars.map Prod.fst).Nodup)
    (placed : Placed p n (Code.group origin vars body n)) :
    OrderlyFrom p n (n + (Code.group origin vars body n).length) := by
  obtain ⟨again, last, finish, h⟩ := placed.group
  have out := not_begins_leave h.leave
  have starts : OrderlyFrom p (n + 1) (n + 1 + vars.length) := by
    refine .starts h.starts (behind_enter h.enter) distinct (fun v _ => ?_) out
    rw [begun_of_enter h.enter]
    exact List.not_mem_nil
  rw [← h.again_eq] at starts
  have advances : OrderlyFrom p (last + 1) (last + 1 + vars.length) :=
    .jumps vars h.advances (fun _ _ _ _ => nofun) (fun _ => rfl) out
  have jump : OrderlyFrom p (last + 1 + vars.length) finish :=
    h.finish_eq ▸ .jump h.jump nofun rfl (not_begins_enter h.block.enter)
  rw [h.end_eq]
  exact (OrderlyFrom.still h.enter nofun rfl).append (starts.append
    ((orderly_block hbody h.block).append (advances.append
      (jump.append (.still h.leave nofun rfl)))))

theorem orderly_combinations {vars : List (NameId × Target)}
    (placed : Placed p n (Code.combinations origin body vars n)) :
    OrderlyFrom p n (n + (Code.combinations origin body vars n).length) := by
  induction vars generalizing n with
  | nil =>
    obtain ⟨last, block, end_eq⟩ := placed.block
    rw [end_eq]
    exact orderly_block hbody block
  | cons v vars ih =>
    obtain ⟨last, h⟩ := placed.nest
    have inside := ih h.inside
    rw [← h.last_eq] at inside
    have out := not_begins_leave h.leave
    -- the next loop of the nest, or its block, opens a scope first
    have next_enters : ∃ o, p[n + 2]? = some ⟨.pushScope, o⟩ := by
      cases vars with
      | nil =>
        obtain ⟨last', block, -⟩ := h.inside.block
        exact ⟨_, block.enter⟩
      | cons =>
        obtain ⟨last', layout⟩ := h.inside.nest
        exact ⟨_, layout.enter⟩
    obtain ⟨o, enters⟩ := next_enters
    have start : OrderlyFrom p (n + 1) (n + 1 + 1) := by
      refine .single h.start ⟨fun t x j same => ?_, fun j jumps => ?_⟩
      · rw [begun_of_enter h.enter]
        exact ⟨behind_enter h.enter, List.not_mem_nil⟩
      · exact ⟨last + 2, (Option.some.inj jumps).symm, out⟩
    rw [h.end_eq]
    exact (OrderlyFrom.still h.enter nofun rfl).append (start.append (inside.append
      ((OrderlyFrom.jump h.advance nofun rfl out).append
        ((OrderlyFrom.jump h.jump nofun rfl (not_begins_enter enters)).append
          (.still h.leave nofun rfl)))))

theorem orderly_guarded {guards : List Path}
    (placed : Placed p n (Code.guarded origin guards body n)) :
    OrderlyFrom p n (n + (Code.guarded origin guards body n).length) := by
  obtain ⟨last, h⟩ := placed.guarded
  have out : ¬ (Begins p (last + 1) ∧ Behind p (last + 1)) := fun both =>
    not_behind_leave h.block.leave both.2
  have branches : OrderlyFrom p n (n + guards.length) :=
    .jumps guards h.branches (fun _ _ _ _ => nofun) (fun _ => rfl) out
  rw [h.end_eq]
  exact branches.append (orderly_block hbody h.block)

end Layouts

theorem orderly_leaf (line_eq : p[n]? = some line) (leaf : line.instruction.isLeaf = true) :
    OrderlyFrom p n (n + 1) := by
  refine .still line_eq (fun t x j h => ?_) (Instruction.jump?_of_isLeaf leaf)
  rw [h] at leaf
  cases leaf

mutual

/-- **Code of a statement is orderly**, by induction over the tree. -/
theorem orderly_code (t : Statement κ) (proper : t.Proper) (distinct : t.Distinct) (n : Nat)
    (placed : Placed p n (t.code n)) : OrderlyFrom p n (n + (t.code n).length) := by
  match t with
  | .single i origin => exact orderly_leaf placed.head proper
  | .loop .group vars body origin =>
    exact orderly_group (fun n => orderly_codeAll body proper.2 distinct.2 n) distinct.1 placed
  | .loop .combinations vars body origin =>
    exact orderly_combinations (fun n => orderly_codeAll body proper.2 distinct n) placed
  | .guarded guards body origin =>
    exact orderly_guarded (fun n => orderly_codeAll body proper distinct n) placed

theorem orderly_codeAll (ts : List (Statement κ)) (proper : Statement.ProperIn ts)
    (distinct : Statement.DistinctIn ts) (n : Nat) (placed : Placed p n (Statement.codeAll ts n)) :
    OrderlyFrom p n (n + (Statement.codeAll ts n).length) := by
  match ts with
  | [] => exact .nil n
  | t :: rest =>
    simp only [Statement.codeAll] at placed ⊢
    rw [List.length_append, ← Nat.add_assoc]
    exact (orderly_code t proper.1 distinct.1 n placed.left).append
      (orderly_codeAll rest proper.2 distinct.2 _ placed.right)

end

theorem orderly_of_distinct {ts : List (Statement κ)} (proper : Statement.ProperIn ts)
    (distinct : Statement.DistinctIn ts) : OrderlyFrom (compile ts) 0 (compile ts).length := by
  have orderly := orderly_codeAll ts proper distinct 0 (Placed.compiled ts)
  rwa [Nat.zero_add, ← compile_eq_codeAll] at orderly

end Machine

end Sweep
