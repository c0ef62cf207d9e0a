import Sweep.Proofs.Frames
import Sweep.Proofs.Pushing

/-!
# What stands further out stays

Most instructions change no scope but the innermost one, whatever names they are about: a binding goes
there, and so does a loop variable when it begins; and when it moves on it is found there.  Only explicit
statements reach further out: one that overwrites, appends or yields.  So what an enclosing loop walks over
is changed by nothing else.

* `Known` — the scopes of a run bind what is known of them by the frames of the program, and go on to do so
  when one of them is overwritten;
* `known_of_trail` — that is so at every moment of a run, in any program;
* `outer_of_step` — a step that does not reach further out leaves all scopes but the innermost one;
* `Overwritten` — an explicit statement on the way has changed a binding.

The main statement is `kept_or_overwritten`.
-/

namespace Sweep

variable {κ ω : Type}

/-- A command of some kind binds in the innermost scope at most; any other command writes one variable at
most, in one scope. -/
structure Executor.WritesOnce (ex : Executor κ ω) (C : κ → Prop) : Prop extends ex.BindsOnly C where
  writes : ∀ c s w, 0 < s.length →
    (ex.execute c s w).2.1 = s ∨ ∃ n x v, (ex.execute c s w).2.1 = s.write n x v

namespace Statement

mutual

/-- What holds of all instructions holds of those of a statement. -/
theorem all_of {P : Instruction κ → Prop} (h : ∀ i, P i) : (t : Statement κ) → t.All P
  | single i _ => h i
  | loop _ _ body _ => allIn_of h body
  | guarded _ body _ => allIn_of h body

theorem allIn_of {P : Instruction κ → Prop} (h : ∀ i, P i) : (ts : List (Statement κ)) → AllIn P ts
  | [] => trivial
  | t :: rest => ⟨all_of h t, allIn_of h rest⟩

end

end Statement

namespace Scopes

variable {s s' : Scopes} {x : NameId} {v : Value} {n k : Nat}

theorem getElem?_write_of_ne (h : n ≠ k) (x : NameId) (v : Value) : (s.write n x v)[k]? = s[k]? :=
  List.getElem?_modify_ne _ _ h

/-- Binding changes the innermost scope. -/
theorem getElem?_bind_of_covered (h : k + 1 < s.length) (x : NameId) (v : Value) :
    (s.bind x v)[k]? = s[k]? := by
  rw [bind_eq_write (List.ne_nil_of_length_pos (by omega))]
  exact getElem?_write_of_ne (by omega) x v

theorem modify_snoc (s : Scopes) (scope : Scope) (n : Nat) (change : Scope → Scope) :
    (s ++ [scope]).modify n change
      = s.modify n change ++ [if n = s.length then change scope else scope] := by
  induction s generalizing n with
  | nil => cases n <;> simp
  | cons first s ih =>
    cases n with
    | zero => simp
    | succ n => simp [ih]

theorem exists_write_of_assign {scope : Option Int} (h : s.assign x v scope = .ok s') :
    ∃ n, s' = s.write n x v := by
  cases scope with
  | none =>
    obtain ⟨⟨n, u⟩, -, h⟩ := exists_of_bind_ok h
    exact ⟨n, (Except.ok.inj h).symm⟩
  | some i =>
    simp only [assign] at h
    split at h
    · exact ⟨_, (Except.ok.inj h).symm⟩
    · cases h

theorem exists_write_of_yield (h : 0 < s.length) (x : NameId) (v : Value) :
    ∃ u, s.yield x v = s.write 0 x u := by
  obtain ⟨root, inner, rfl⟩ := List.exists_cons_of_length_pos h
  rw [yield]
  split
  · exact ⟨_, rfl⟩
  · exact ⟨_, rfl⟩

end Scopes

namespace Machine

variable {ex : Executor κ ω} {p : Program κ} {C : κ → Prop} {P : Instruction κ → Prop}

/-! ### What is known stays known -/

/-- The scopes of a run bind what is known of them, whatever stands below. -/
def Known (f : Frames) (s : Scopes) : Prop := ∃ base, Above base f s

namespace Known

variable {f : Frames} {s s' : Scopes} {x : NameId} {v : Value}

/-- Changing one scope so that nothing becomes unbound. -/
theorem modify (h : Known f s) (n : Nat) {change : Scope → Scope}
    (keys : ∀ scope x, (Assoc.get? x scope).isSome = true → (Assoc.get? x (change scope)).isSome = true) :
    Known f (s.modify n change) := by
  obtain ⟨base, above⟩ := h
  induction above with
  | ground => exact ⟨_, .ground⟩
  | @scope f s names scope _ known ih =>
    obtain ⟨base', outer⟩ := ih
    rw [Scopes.modify_snoc]
    refine ⟨base', .scope outer fun x hx => ?_⟩
    split
    · exact keys scope x (known x hx)
    · exact known x hx

theorem write (h : Known f s) (n : Nat) (x : NameId) (v : Value) : Known f (s.write n x v) :=
  h.modify n fun _ _ => Assoc.isSome_get?_set

theorem pushTo (h : Known f s) (hs : s.pushTo x v = .ok s') : Known f s' := by
  obtain ⟨found, -, hs⟩ := exists_of_bind_ok hs
  obtain ⟨place, -, hs⟩ := exists_of_bind_ok hs
  split at hs
  · obtain rfl := Except.ok.inj hs
    refine h.modify _ fun scope y hy => ?_
    split
    · exact Assoc.isSome_get?_set hy
    · exact hy
  · obtain rfl := Except.ok.inj hs
    exact h
  · cases hs

theorem length_pos {names : List NameId} (h : Known (names :: f) s) : 0 < s.length := by
  obtain ⟨base, above⟩ := h
  cases above
  simp

end Known

section Steps

variable {f : Frames} {s : Scopes} {i : Instruction κ} {w : ω}

/-- Only single instructions reach further out. -/
theorem frames_of_not_spares (reaches : ¬ i.Spares C) (f : Frames) : i.frames f = f := by
  cases i with
  | assign | push | command => rfl
  | _ => exact absurd trivial reaches

theorem step_of_not_spares (reaches : ¬ i.Spares C) (pc : Int) (s : Scopes) (w : ω) :
    step ex pc i s w = ((plainStep ex i s w).1.map fun _ => pc + 1, (plainStep ex i s w).2) := by
  cases i with
  | assign | push | command => rfl
  | _ => exact absurd trivial reaches

/-- **What an explicit statement overwrites stays bound**, whether the statement succeeds or not. -/
theorem known_plainStep (writes : ex.WritesOnce C) (reaches : ¬ i.Spares C) (nonempty : 0 < s.length)
    (h : Known f s) (w : ω) : Known f (plainStep ex i s w).2.1 := by
  cases i with
  | assign x e scope =>
    refine scopes_reading h fun s' assigned => ?_
    obtain ⟨v, -, assigned⟩ := exists_of_bind_ok assigned
    obtain ⟨n, rfl⟩ := Scopes.exists_write_of_assign assigned
    exact h.write n x v
  | push x e =>
    refine scopes_reading h fun s' pushed => ?_
    obtain ⟨v, -, pushed⟩ := exists_of_bind_ok pushed
    exact h.pushTo pushed
  | command c =>
    rcases writes.writes c s w nonempty with same | ⟨n, x, v, written⟩
    · exact same.symm ▸ h
    · exact written.symm ▸ h.write n x v
  | _ => exact absurd trivial reaches

section Program

variable (level : Level p 0 p.length) (tidy : TidyFrom P p 0 p.length)

include level tidy

/-- **Every step keeps what is known**, whatever the instruction is. -/
theorem known_of_step (writes : ex.WritesOnce C) {n : Nat} {d : Config ω} (h : Known (frames p n) s)
    (first : Step ex p ⟨n, s, w⟩ d) : ∃ m : Nat, d.pc = m ∧ Known (frames p m) d.scopes := by
  obtain ⟨line, line_eq, step_eq⟩ := first
  have hline : p[n]? = some line := line_eq
  by_cases spares : line.instruction.Spares C
  · obtain ⟨base, above⟩ := h
    have only (other : Line κ) (other_eq : p[n]? = some other) : other.instruction.Spares C := by
      obtain rfl := Option.some.inj (hline.symm.trans other_eq)
      exact spares
    obtain ⟨m, hm, left⟩ :=
      above_of_step writes.toBindsOnly level tidy above ⟨line, line_eq, step_eq⟩ only
    exact ⟨m, hm, base, left⟩
  · obtain ⟨names, f, here⟩ := exists_frame level hline
    have nonempty : 0 < s.length := Known.length_pos (here ▸ h)
    have left := known_plainStep writes spares nonempty h w
    rw [step_of_not_spares spares] at step_eq
    obtain ⟨next, scopes_eq⟩ := Prod.mk.inj step_eq
    refine ⟨n + 1, next_of_map next, ?_⟩
    rw [frames_succ hline, frames_of_not_spares spares, ← show _ = d.scopes from congrArg Prod.fst scopes_eq]
    exact left

/-- **At every moment of a run** the scopes bind what is known there. -/
theorem known_of_trail (writes : ex.WritesOnce C) {c d : Config ω} {cs : List (Config ω)}
    (trail : Trail ex p c cs d) (start : ∃ n : Nat, c.pc = n ∧ Known (frames p n) c.scopes) :
    ∃ n : Nat, d.pc = n ∧ Known (frames p n) d.scopes := by
  induction trail with
  | nil => exact start
  | @cons c d e cs first _ ih =>
    obtain ⟨pc, s, w⟩ := c
    obtain ⟨n, rfl, h⟩ := start
    exact ih (known_of_step level tidy writes h first)

end Program

/-! ### Scopes further out -/

/-- **A step that does not reach further out** changes the innermost scope at most.  A loop variable that
moves on is found there, whatever its name is. -/
theorem outer_of_step {base : Scopes} {names : List NameId} {n k : Nat} (bindsOnly : ex.BindsOnly C)
    (tidy : Tidy P p n i) (spares : i.Spares C) (inner : i.isInner = true)
    (here : frames p n = names :: f) (h : Above base (names :: f) s) (covered : k + 1 < s.length)
    (pc : Int) (w : ω) : (step ex pc i s w).2.1[k]? = s[k]? := by
  have bound (x : NameId) (v : Value) : (s.bind x v)[k]? = s[k]? :=
    Scopes.getElem?_bind_of_covered covered x v
  cases i with
  | start t x jump =>
    show (begin_ ex x s w t).2.1[k]? = s[k]?
    rcases scopes_begin bindsOnly x s w t with ⟨v, begun⟩ | ⟨same, -⟩
    · rw [begun, bound]
    · rw [same]
  | advance t x jump =>
    show (proceed ex x s w).2.1[k]? = s[k]?
    rcases scopes_proceed bindsOnly x s w with same | ⟨m, u, v, found, written⟩
    · rw [same]
    · obtain ⟨names', f', here', hx⟩ := tidy.owns t x jump rfl
      obtain ⟨rfl, rfl⟩ := List.cons.inj (here.symm.trans here')
      have innermost : m + 1 = s.length := by
        cases h with
        | @scope _ outer_s _ scope outer known =>
          obtain ⟨u', hu'⟩ := Option.isSome_iff_exists.1 (known x hx)
          rw [Scopes.lookup_snoc, hu'] at found
          obtain ⟨rfl, -⟩ := Prod.mk.inj (Except.ok.inj found)
          rw [List.length_append, List.length_singleton]
      rw [written, Scopes.getElem?_write_of_ne (by omega)]
  | branch guard jump =>
    show (reading (isOpen s guard) s w fun yes => (Except.ok (ε := Failure) yes, s, w)).2.1[k]? = s[k]?
    exact scopes_reading (P := fun s' => s'[k]? = s[k]?) rfl fun _ _ => rfl
  | goto jump => rfl
  | pushScope => exact List.getElem?_append_left (by omega)
  | popScope =>
    show s.dropLast[k]? = s[k]?
    rw [List.getElem?_dropLast, if_pos (by omega)]
  | create x e scope =>
    cases scope with
    | some => cases inner
    | none => exact scopes_reading (P := fun s' => s'[k]? = s[k]?) rfl fun v _ => bound x v
  | assign | push => cases spares
  | command c =>
    show (ex.execute c s w).2.1[k]? = s[k]?
    rcases bindsOnly.execute c s w spares with same | ⟨x, v, binds⟩
    · rw [same]
    · rw [binds, bound]

end Steps

/-! ### Runs -/

/-- An explicit statement that was taken at one of some moments has changed what a variable is bound to in a
scope. -/
def Overwritten (ex : Executor κ ω) (C : κ → Prop) (p : Program κ) (k : Nat) (x : NameId)
    (cs : List (Config ω)) : Prop :=
  ∃ m ∈ cs, ∃ line, p.at? m.pc = some line ∧ ¬ line.instruction.Spares C ∧
    (step ex m.pc line.instruction m.scopes m.world).2.1.binding k x ≠ m.scopes.binding k x

theorem kept_or_overwritten_of_trail (writes : ex.WritesOnce C) (level : Level p 0 p.length)
    (tidy : TidyFrom P p 0 p.length) {c d : Config ω} {cs : List (Config ω)} (trail : Trail ex p c cs d)
    (start : ∃ n : Nat, c.pc = n ∧ Known (frames p n) c.scopes) {k : Nat}
    (covered : ∀ m ∈ cs, k + 1 < m.scopes.length) (x : NameId) :
    d.scopes.binding k x = c.scopes.binding k x ∨ Overwritten ex C p k x cs := by
  induction trail with
  | nil => exact .inl rfl
  | @cons c d e cs first _ ih =>
    obtain ⟨pc, s, w⟩ := c
    obtain ⟨n, rfl, known⟩ := start
    obtain ⟨here, later⟩ := List.forall_mem_cons.1 covered
    have next := known_of_step level tidy writes known first
    obtain ⟨line, line_eq, step_eq⟩ := first
    have hline : p[n]? = some line := line_eq
    have left : (step ex n line.instruction s w).2.1 = d.scopes := congrArg (·.2.1) step_eq
    rcases ih next later with kept | ⟨m, hm, overwritten⟩
    · by_cases spares : line.instruction.Spares C
      · -- nothing further out changes in the first step
        obtain ⟨base, above⟩ := known
        obtain ⟨names, f, frame⟩ := exists_frame level hline
        have fits := level.fits n line (Nat.zero_le n) (lt_length_of_getElem? hline) hline
        have outer := outer_of_step writes.toBindsOnly (tidy.tidy_at hline) spares fits.inner frame
          (frame ▸ above) here n w
        rw [left] at outer
        refine .inl (kept.trans ?_)
        rw [Scopes.binding_ofNat, Scopes.binding_ofNat, outer]
      · by_cases same : d.scopes.binding k x = s.binding k x
        · exact .inl (kept.trans same)
        · refine .inr ⟨_, List.mem_cons_self, line, line_eq, spares, ?_⟩
          rw [show step ex _ line.instruction s w = _ from step_eq]
          exact same
    · exact .inr ⟨m, List.mem_cons_of_mem _ hm, overwritten⟩

/-- **What stands further out stays, or an explicit statement has overwritten it.**  Let a program of
statements run, and look at a scope from some moment on for as long as it is not the innermost one.  A
variable in it stays bound to what it is bound to, unless a statement on the way that overwrites, appends or
yields has changed just this. -/
theorem kept_or_overwritten {ts : List (Statement κ)} (writes : ex.WritesOnce C)
    (proper : Statement.ProperIn ts) {s : Scopes} {w : ω} {cs ds : List (Config ω)} {c d : Config ω}
    (reached : Trail ex (compile ts) ⟨(0 : Nat), s.push, w⟩ cs c) (trail : Trail ex (compile ts) c ds d)
    {k : Nat} (covered : ∀ m ∈ ds, k + 1 < m.scopes.length) (x : NameId) :
    d.scopes.binding k x = c.scopes.binding k x ∨ Overwritten ex C (compile ts) k x ds := by
  have surrounds : Surrounds (κ := κ) fun _ => True :=
    ⟨trivial, trivial, fun _ _ _ => trivial, fun _ _ _ => trivial, fun _ _ => trivial, fun _ => trivial⟩
  have tidy := tidy_compile surrounds proper (Statement.allIn_of (fun _ => trivial) ts)
  have start : Known (frames (compile ts) 0) s.push := ⟨s, Above.ground.push⟩
  have level := level_of_proper proper
  have known := known_of_trail level tidy writes reached ⟨0, rfl, start⟩
  exact kept_or_overwritten_of_trail writes level tidy trail known covered x

end Machine

/-! ### What runs the programs of beds -/

theorem Rendering.writesOnce_executor (names : NameTable) :
    (Rendering.executor names).WritesOnce RenderCommand.Binds where
  toBindsOnly := bindsOnly_executor names
  writes c s v nonempty := by
    show (execute names c s v).2.1 = s ∨ ∃ n x u, (execute names c s v).2.1 = s.write n x u
    rw [execute]
    split
    · next value u _ =>
      cases c with
      | bind x b =>
        exact .inr ⟨_, x, value, Scopes.bind_eq_write (List.ne_nil_of_length_pos nonempty) x value⟩
      | yield x product =>
        obtain ⟨items, written⟩ := Scopes.exists_write_of_yield nonempty x value
        exact .inr ⟨0, x, items, written⟩
    · exact .inl rfl
    · exact .inl rfl
    · exact .inl rfl

theorem Supervision.writesOnce_executor (names : NameTable) (patience : Nat) :
    (Supervision.executor names patience).WritesOnce fun _ => True where
  toBindsOnly := bindsOnly_executor names patience
  writes _ _ _ _ := .inl rfl

end Sweep
