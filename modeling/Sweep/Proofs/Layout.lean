import Sweep.Proofs.Assembling

/-!
# Where the code of statements stands

The pieces of a loop and of a guarded block, each at its position in a program.

* `Placed` — some code stands in a program from a position on, with the lemmas that take it apart;
* `BlockAt`, `GroupAt`, `NestAt`, `GuardedAt` — the instructions of a layout, one field for each,
  with the positions as parameters and the equations between them;
* `Placed.block`, `Placed.group`, `Placed.nest`, `Placed.guarded` — placed code has its pieces.

Whoever follows jumps needs these facts only and never opens a layout.
-/

namespace Sweep.Machine

variable {κ : Type} {p code first second : Program κ} {line : Line κ} {n : Nat}
  {origin : Option String} {body : Code.Block κ}

/-- Some code stands in a program from a position on. -/
def Placed (p : Program κ) (position : Nat) (code : Program κ) : Prop := code <+: p.drop position

namespace Placed

theorem whole (p : Program κ) : Placed p 0 p := List.prefix_refl p

/-- A compiled program is nothing but the code of its statements. -/
theorem compiled (ts : List (Statement κ)) : Placed (compile ts) 0 (Statement.codeAll ts 0) := by
  rw [compile_eq_codeAll]
  exact whole _

theorem left (h : Placed p n (first ++ second)) : Placed p n first :=
  (List.prefix_append first second).trans h

theorem right (h : Placed p n (first ++ second)) : Placed p (n + first.length) second := by
  obtain ⟨rest, hrest⟩ := h
  have hdrop : p.drop (n + first.length) = (first ++ second ++ rest).drop first.length := by
    rw [hrest, List.drop_drop]
  exact ⟨rest, by rw [hdrop, List.append_assoc, List.drop_left]⟩

theorem head (h : Placed p n (line :: code)) : p[n]? = some line := by
  obtain ⟨rest, hrest⟩ := h
  rw [← List.head?_drop, ← hrest]
  rfl

theorem getElem? (h : Placed p n code) {k : Nat} (hk : k < code.length) : p[n + k]? = code[k]? := by
  obtain ⟨rest, hrest⟩ := h
  rw [← List.getElem?_drop, ← hrest, List.getElem?_append_left hk]

theorem tail (h : Placed p n (line :: code)) : Placed p (n + 1) code := by
  have split : Placed p n ([line] ++ code) := h
  exact split.right

end Placed

/-! ### The pieces of the layouts -/

/-- A block in a scope of its own, from `n` up to the end of its scope at `last`. -/
structure BlockAt (p : Program κ) (origin : Option String) (body : Code.Block κ) (n last : Nat) :
    Prop where
  last_eq : last = n + 1 + (body (n + 1)).length
  enter : p[n]? = some ⟨.pushScope, origin⟩
  inside : Placed p (n + 1) (body (n + 1))
  leave : p[last]? = some ⟨.popScope, origin⟩

/-- A loop in lock step from `n` on: its rounds start at `again`, the block of a round ends at
`last`, and every jump out of the loop leads to `finish`. -/
structure GroupAt (p : Program κ) (origin : Option String) (vars : List (NameId × Target))
    (body : Code.Block κ) (n again last finish : Nat) : Prop where
  again_eq : again = n + 1 + vars.length
  finish_eq : finish = last + 1 + vars.length + 1
  end_eq : n + (Code.group origin vars body n).length = finish + 1
  enter : p[n]? = some ⟨.pushScope, origin⟩
  starts : Placed p (n + 1) (vars.map fun v => ⟨.start v.2 v.1 finish, origin⟩)
  block : BlockAt p origin body again last
  advances : Placed p (last + 1) (vars.map fun v => ⟨.advance v.2 v.1 finish, origin⟩)
  jump : p[last + 1 + vars.length]? = some ⟨.goto again, origin⟩
  leave : p[finish]? = some ⟨.popScope, origin⟩

/-- The outermost loop of a loop over combinations from `n` on: a round is the loop over the other
variables, and `last` is the position behind it. -/
structure NestAt (p : Program κ) (origin : Option String) (body : Code.Block κ)
    (v : NameId × Target) (vars : List (NameId × Target)) (n last : Nat) : Prop where
  last_eq : last = n + 2 + (Code.combinations origin body vars (n + 2)).length
  end_eq : n + (Code.combinations origin body (v :: vars) n).length = last + 3
  enter : p[n]? = some ⟨.pushScope, origin⟩
  start : p[n + 1]? = some ⟨.start v.2 v.1 (last + 2 : Nat), origin⟩
  inside : Placed p (n + 2) (Code.combinations origin body vars (n + 2))
  advance : p[last]? = some ⟨.advance v.2 v.1 (last + 2 : Nat), origin⟩
  jump : p[last + 1]? = some ⟨.goto (n + 2 : Nat), origin⟩
  leave : p[last + 2]? = some ⟨.popScope, origin⟩

/-- A guarded block from `n` on, with the end of its scope at `last`. -/
structure GuardedAt (p : Program κ) (origin : Option String) (guards : List Path)
    (body : Code.Block κ) (n last : Nat) : Prop where
  end_eq : n + (Code.guarded origin guards body n).length = last + 1
  branches : Placed p n (guards.map fun g => ⟨.branch g (last + 1 : Nat), origin⟩)
  block : BlockAt p origin body (n + guards.length) last

/-- The first instruction of the body stands behind the beginnings of all variables. -/
theorem two_mul_length_lt_combinations (vars : List (NameId × Target)) (n : Nat) :
    2 * vars.length + 1 < (Code.combinations origin body vars n).length := by
  induction vars generalizing n with
  | nil =>
    simp only [Code.combinations, List.length_append, List.length_cons, List.length_nil]
    omega
  | cons v vars ih =>
    have inner := ih (n + 2)
    simp only [Code.combinations, List.length_append, List.length_cons, List.length_nil]
    omega

namespace Placed

theorem blockAt {rest : Program κ}
    (h : Placed p n (⟨.pushScope, origin⟩ :: (body (n + 1) ++ ⟨.popScope, origin⟩ :: rest))) :
    BlockAt p origin body n (n + 1 + (body (n + 1)).length) where
  last_eq := rfl
  enter := h.head
  inside := h.tail.left
  leave := h.tail.right.head

theorem group {vars : List (NameId × Target)} (h : Placed p n (Code.group origin vars body n)) :
    ∃ again last finish, GroupAt p origin vars body n again last finish := by
  simp only [Code.group, List.append_assoc, List.cons_append, List.nil_append] at h
  have rounds := h.tail.right
  rw [List.length_map] at rounds
  have advances := rounds.tail.right.tail
  have back := advances.right
  rw [List.length_map] at back
  refine ⟨_, _, _, rfl, rfl, ?_, h.head, h.tail.left, rounds.blockAt, advances.left, back.head,
    back.tail.head⟩
  simp only [Code.group, List.length_append, List.length_map, List.length_cons, List.length_nil]
  omega

/-- With no variable left, the round of a loop over combinations is its block. -/
theorem block (h : Placed p n (Code.combinations origin body [] n)) :
    ∃ last, BlockAt p origin body n last ∧
      n + (Code.combinations origin body [] n).length = last + 1 := by
  simp only [Code.combinations, List.cons_append, List.nil_append] at h
  refine ⟨_, h.blockAt, ?_⟩
  simp only [Code.combinations, List.length_append, List.length_cons, List.length_nil]
  omega

theorem nest {v : NameId × Target} {vars : List (NameId × Target)}
    (h : Placed p n (Code.combinations origin body (v :: vars) n)) :
    ∃ last, NestAt p origin body v vars n last := by
  simp only [Code.combinations, List.cons_append, List.nil_append] at h
  have inner := h.tail.tail
  have back := inner.right
  refine ⟨_, rfl, ?_, h.head, h.tail.head, inner.left, back.head, back.tail.head,
    back.tail.tail.head⟩
  simp only [Code.combinations, List.length_append, List.length_cons, List.length_nil]
  omega

/-- A loop over combinations begins with an instruction. -/
theorem exists_line_of_combinations {vars : List (NameId × Target)}
    (h : Placed p n (Code.combinations origin body vars n)) : ∃ line, p[n]? = some line := by
  cases vars with
  | nil =>
    obtain ⟨last, block, -⟩ := h.block
    exact ⟨_, block.enter⟩
  | cons =>
    obtain ⟨last, layout⟩ := h.nest
    exact ⟨_, layout.enter⟩

theorem guarded {guards : List Path} (h : Placed p n (Code.guarded origin guards body n)) :
    ∃ last, GuardedAt p origin guards body n last := by
  simp only [Code.guarded, List.append_assoc, List.cons_append, List.nil_append] at h
  have block := h.right
  rw [List.length_map] at block
  refine ⟨_, ?_, h.left, block.blockAt⟩
  simp only [Code.guarded, List.length_append, List.length_map, List.length_cons, List.length_nil]
  omega

end Placed

end Sweep.Machine
