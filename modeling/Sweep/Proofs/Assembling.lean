import Sweep.Statement.Builder

/-!
# What is built is laid out

Building code line by line gives the code that the layout asks for: the jumps that are patched behind a body
get the targets that can be told from the start, and every line has the origin of its own statement.  A body
may leave any origin behind; what matters is that it is put back.

* `patch_append`, `patchAll_row` — patching a row of jumps changes just these;
* `Builds` — a step of building adds the code of a block wherever it begins, and leaves an origin behind;
* `builds_scope`, `builds_group`, `builds_combinations`, `builds_guarded` — one step lemma for each layout;
* `build_eq`, `buildAll_lines` — the same for statements, by induction over them.

The main statement is `compile_eq_codeAll`.
-/

namespace Sweep

variable {κ : Type}

namespace Builder

variable {origin : Option String} {b : Builder κ} {body : Builder κ → Builder κ} {block : Code.Block κ}

theorem emit_mk (i : Instruction κ) (lines : Program κ) (origin : Option String) :
    emit i ⟨lines, origin⟩ = ⟨lines ++ [⟨i, origin⟩], origin⟩ := rfl

theorem emitAll_mk (is : List (Instruction κ)) (lines : Program κ) (origin : Option String) :
    emitAll is ⟨lines, origin⟩ = ⟨lines ++ is.map (⟨·, origin⟩), origin⟩ := by
  induction is generalizing lines with
  | nil => simp [emitAll]
  | cons i is ih =>
    have rest := ih (lines ++ [⟨i, origin⟩])
    rw [emitAll] at rest ⊢
    rw [List.foldl_cons]
    simpa [emit] using rest

/-! ### Patching -/

theorem patch_append (target : Nat) (front back : Program κ) (line : Line κ) (origin : Option String) :
    patch target front.length ⟨front ++ line :: back, origin⟩
      = ⟨front ++ line.retarget target :: back, origin⟩ := by
  have behind := List.modifyTailIdx_add (List.modifyHead (Line.retarget (target : Int))) 0 front (line :: back)
  rw [patch, List.modify, ← Nat.add_zero front.length, behind]
  rfl

/-- **Patching a row of jumps gives them their target** and leaves the other lines as they are. -/
theorem patchAll_row {α : Type} (jump : α → Int → Instruction κ)
    (retarget : ∀ a target, (jump a 0).retarget target = jump a target) (target : Nat)
    (front back : Program κ) (as : List α) (origin : Option String) :
    patchAll target (List.range' front.length as.length)
        ⟨front ++ (as.map (fun a => ⟨jump a 0, origin⟩) ++ back), origin⟩
      = ⟨front ++ (as.map (fun a => ⟨jump a target, origin⟩) ++ back), origin⟩ := by
  induction as generalizing front with
  | nil => rfl
  | cons a as ih =>
    have patched : Line.retarget target ⟨jump a 0, origin⟩ = ⟨jump a target, origin⟩ :=
      congrArg (Line.mk · origin) (retarget a target)
    have rest := ih (front ++ [⟨jump a target, origin⟩])
    rw [List.length_append, List.length_singleton] at rest
    rw [List.length_cons, List.range'_succ, patchAll, List.foldl_cons, List.map_cons, List.cons_append,
      patch_append, patched, ← patchAll]
    simpa using rest

theorem patchAll_append (target : Nat) (first second : List Nat) (b : Builder κ) :
    b.patchAll target (first ++ second) = (b.patchAll target first).patchAll target second :=
  List.foldl_append

/-! ### Layouts -/

/-- A step of building adds the code of a block to what stamps an origin, and leaves that origin behind. -/
def Builds (step : Builder κ → Builder κ) (origin : Option String) (block : Code.Block κ) : Prop :=
  ∀ lines, step ⟨lines, origin⟩ = ⟨lines ++ block lines.length, origin⟩

theorem builds_scope (inner : Builds body origin block) :
    Builds (scope body) origin
      fun n => [⟨.pushScope, origin⟩] ++ block (n + 1) ++ [⟨.popScope, origin⟩] := by
  intro lines
  have inside := inner (lines ++ [⟨.pushScope, origin⟩])
  rw [scope, emit_mk _ lines, inside, emit_mk, List.length_append, List.length_singleton]
  simp only [List.append_assoc]

/-- Both rows of jumps of a loop in lock step are patched with the position of its last line. -/
theorem builds_group (inner : Builds body origin block) (vars : List (NameId × Target)) :
    Builds (group vars body) origin (Code.group origin vars block) := by
  intro lines
  have inside : ∀ lines, scope body ⟨lines, origin⟩ = _ := builds_scope inner
  simp only [group, emit_mk, emitAll_mk, inside, size, List.map_map, Function.comp_def, patchAll_append,
    Code.group, List.length_append, List.length_singleton, List.length_map]
  generalize block (lines.length + 1 + vars.length + 1) = code
  have finish_eq : lines.length + 1 + vars.length + (1 + code.length + 1) + vars.length + 1
      = lines.length + 1 + vars.length + 1 + code.length + 1 + vars.length + 1 := by omega
  rw [finish_eq]
  generalize lines.length + 1 + vars.length + 1 + code.length + 1 + vars.length + 1 = finish
  let line (i : Instruction κ) : Program κ := [⟨i, origin⟩]
  let middle := line .pushScope ++ code ++ line .popScope
  let advances : Program κ := vars.map fun v => ⟨.advance v.2 v.1 0, origin⟩
  let back := line (.goto ↑(lines.length + 1 + vars.length)) ++ line .popScope
  let starts : Program κ := vars.map fun v => ⟨.start v.2 v.1 finish, origin⟩
  have first := patchAll_row (fun v : NameId × Target => .start v.2 v.1) (fun _ _ => rfl) finish
    (lines ++ line .pushScope) (middle ++ advances ++ back) vars origin
  have second := patchAll_row (fun v : NameId × Target => .advance v.2 v.1) (fun _ _ => rfl) finish
    (lines ++ line .pushScope ++ starts ++ middle) back vars origin
  simp only [line, middle, advances, back, starts, List.append_assoc, List.length_append,
    List.length_singleton, List.length_map, Nat.add_assoc] at first second ⊢
  rw [first, second]
  rfl

/-- Both jumps of a loop over combinations are patched when the loops inside are finished. -/
theorem builds_combinations (inner : Builds body origin block) (vars : List (NameId × Target)) :
    Builds (combinations body vars) origin (Code.combinations origin block vars) := by
  induction vars with
  | nil => exact builds_scope inner
  | cons v vars ih =>
    obtain ⟨x, t⟩ := v
    intro lines
    have inside : ∀ lines, combinations body vars ⟨lines, origin⟩ = _ := ih
    simp only [combinations, emit_mk, inside, size, Code.combinations, List.length_append,
      List.length_singleton]
    generalize Code.combinations origin block vars (lines.length + 1 + 1) = code
    have finish_eq : lines.length + 1 + 1 + code.length + 1 + 1 = lines.length + 2 + code.length + 2 := by
      omega
    rw [finish_eq]
    generalize lines.length + 2 + code.length + 2 = finish
    let back : Program κ := [⟨.goto (lines.length + 1 + 1 : Nat), origin⟩, ⟨.popScope, origin⟩]
    have first := patch_append finish (lines ++ [⟨.pushScope, origin⟩])
      (code ++ ⟨.advance t x 0, origin⟩ :: back) ⟨.start t x 0, origin⟩ origin
    have second := patch_append finish
      (lines ++ [⟨.pushScope, origin⟩] ++ ⟨.start t x finish, origin⟩ :: code) back
      ⟨.advance t x 0, origin⟩ origin
    simp only [patchAll, List.foldl_cons, List.foldl_nil]
    simp only [back, Line.retarget, Instruction.retarget, List.append_assoc, List.cons_append,
      List.nil_append, List.length_append, List.length_cons, List.length_nil, Nat.zero_add,
      Nat.add_assoc, Nat.add_comm 1] at first second ⊢
    rw [first, second]
    rfl

/-- The jumps of guards are patched with the position behind the block. -/
theorem builds_guarded (inner : Builds body origin block) (guards : List Path) :
    Builds (guarded guards body) origin (Code.guarded origin guards block) := by
  intro lines
  have inside : ∀ lines, scope body ⟨lines, origin⟩ = _ := builds_scope inner
  simp only [guarded, emitAll_mk, inside, size, List.map_map, Function.comp_def, Code.guarded,
    List.length_append, List.length_singleton, List.length_map]
  generalize block (lines.length + guards.length + 1) = code
  have finish_eq : lines.length + guards.length + (1 + code.length + 1)
      = lines.length + guards.length + 1 + code.length + 1 := by omega
  rw [finish_eq]
  generalize lines.length + guards.length + 1 + code.length + 1 = finish
  have patched := patchAll_row Instruction.branch (fun _ _ => rfl) finish lines
    ([⟨.pushScope, origin⟩] ++ code ++ [⟨.popScope, origin⟩]) guards origin
  simp only [List.append_assoc] at patched ⊢
  exact patched

end Builder

/-! ### Statements -/

namespace Statement

open Builder

/-- What a statement leaves as the origin to stamp: its own. -/
def origin : Statement κ → Option String
  | single _ origin | loop _ _ _ origin | guarded _ _ origin => origin

mutual

/-- **A statement is built as its code is laid out**, and leaves its own origin behind. -/
theorem build_eq (t : Statement κ) (b : Builder κ) :
    build t b = ⟨b.lines ++ code t b.size, t.origin⟩ := by
  match t with
  | .single i origin => rfl
  | .loop .group vars body origin => exact builds_group (builds_body body origin) vars b.lines
  | .loop .combinations vars body origin =>
    exact builds_combinations (builds_body body origin) vars b.lines
  | .guarded guards body origin => exact builds_guarded (builds_body body origin) guards b.lines

/-- Behind a body the origin of the statement around it is put back. -/
theorem builds_body (body : List (Statement κ)) (origin : Option String) :
    Builds (fun b => (buildAll body b).stamp origin) origin (codeAll body) := by
  intro lines
  have built := buildAll_lines body ⟨lines, origin⟩
  exact congrArg (Builder.mk · origin) built

theorem buildAll_lines (ts : List (Statement κ)) (b : Builder κ) :
    (buildAll ts b).lines = b.lines ++ codeAll ts b.size := by
  match ts with
  | [] => exact (List.append_nil _).symm
  | t :: rest =>
    rw [buildAll, build_eq t b, buildAll_lines rest, codeAll, size, size, List.length_append,
      List.append_assoc]

end

end Statement

/-- **The compiled program is the code as it is laid out.** -/
theorem compile_eq_codeAll (ts : List (Statement κ)) : compile ts = Statement.codeAll ts 0 := by
  rw [compile, Statement.buildAll_lines]
  rfl

end Sweep
