import Sweep.Proofs.Upkeep

/-!
# References never dangle

Only the machine makes references, and only for its loop variables.  This file shows that they stay
in order whatever program runs, also one that no statements became.

* `Anchored`, `WellFormed` — a binding of a scope is free of references, or it is a reference to a
  variable that is bound in this scope or in one further out, at a position from zero;
* `WellFormed.modify`, `WellFormed.append`, `WellFormed.take` — the three ways in which stacks
  change, and every operation on scopes as a case of them;
* `grounded_derefWithin`, `refFree_of_eval` — on well-formed stacks a reference resolves or fails for
  an index, and expressions give values without references;
* `Touches`, `Executor.Obeys` — what an executor may do: bind and yield values without references;
* `upheld_wellFormed`, `wellFormed_run` — every instruction keeps stacks well-formed, and so does a run;
* `LeftBehind`, `Reached` — the stacks at all points of all sequences of runs.

The main statement is `references_in_order`.
-/

namespace Sweep

namespace Value

theorem refFreeItems_iff {items : List Value} :
    refFreeItems items = true ↔ ∀ v ∈ items, v.refFree = true := by
  induction items with
  | nil => simp [refFreeItems]
  | cons v rest ih => simp [refFreeItems, ih]

theorem refFreeFields_iff {fields : List (NameId × Value)} :
    refFreeFields fields = true ↔ ∀ e ∈ fields, e.2.refFree = true := by
  induction fields with
  | nil => simp [refFreeFields]
  | cons e rest ih => simp [refFreeFields, ih]

theorem refFree_list {items : List Value} :
    (list items).refFree = true ↔ ∀ v ∈ items, v.refFree = true := by
  rw [refFree, refFreeItems_iff]

theorem refFree_struct {base : String} {fields : List (NameId × Value)} :
    (struct base fields).refFree = true ↔ ∀ e ∈ fields, e.2.refFree = true := by
  rw [refFree, refFreeFields_iff]

theorem isRef_of_refFree {v : Value} (h : v.refFree = true) : v.isRef = false := by
  cases v with
  | ref => cases h
  | counter | struct | list => rfl

/-- Being without references goes by the parts. -/
theorem structural_refFree : Structural fun v => v.refFree = true where
  list := refFree_list
  struct := refFree_struct
  counter _ := rfl

end Value

/-- A value without references, or a failure for an index; the index may have too many digits to be
written. -/
def Grounded : Except ReadError Value → Prop
  | .ok v => v.refFree = true
  | .error (.access e) => e.family = .invalidIndex
  | .error .unwritable => True

theorem Grounded.bind {r : Except ReadError Value} {next : Value → Except ReadError Value}
    (h : Grounded r) (hnext : ∀ v, v.refFree = true → Grounded (next v)) : Grounded (r >>= next) := by
  cases r with
  | error e => exact h
  | ok v => exact hnext v h

theorem grounded_telling {numbers : List Int} {e : AccessError} (h : e.family = .invalidIndex) :
    Grounded (.error (.telling numbers e)) := by
  rw [ReadError.telling]
  split
  · exact h
  · exact trivial

/-- An element of a value without references has none, and a selection fails for its index. -/
theorem grounded_select {v : Value} (hv : v.refFree = true) (offset : Int) :
    Grounded (v.select offset) := by
  cases v with
  | ref => cases hv
  | struct | counter =>
    simp only [Value.select]
    split
    · exact hv
    · exact grounded_telling rfl
  | list items =>
    simp only [Value.select]
    split
    · next u hu =>
      split at hu
      · exact Value.refFree_list.1 hv u (List.mem_of_getElem? hu)
      · cases hu
    · exact grounded_telling rfl

namespace Scopes

variable {s s' : Scopes} {x : NameId} {v w : Value} {i n : Nat}

/-! ### Anchored values -/

/-- A variable is bound in the scope with a number. -/
def Binds (s : Scopes) (n : Nat) (x : NameId) : Prop := ∃ v, s.binding n x = .ok v

theorem binds_iff : s.Binds n x ↔
    ∃ scope, s[n]? = some scope ∧ (Assoc.get? x scope).isSome = true := by
  constructor
  · rintro ⟨v, hv⟩
    obtain ⟨scope, hs, hget⟩ := binding_iff.1 hv
    exact ⟨scope, hs, by rw [hget]; rfl⟩
  · rintro ⟨scope, hs, hget⟩
    obtain ⟨v, hv⟩ := Option.isSome_iff_exists.1 hget
    exact ⟨v, binding_iff.2 ⟨scope, hs, hv⟩⟩

/-- What a scope with a number may hold: a value without references, or a reference to a variable
that is bound in this scope or in one further out, at a position from zero. -/
def Anchored (s : Scopes) (i : Nat) : Value → Prop
  | .ref scope target offset => 0 ≤ offset ∧ ∃ n : Nat, scope = n ∧ n ≤ i ∧ s.Binds n target
  | v => v.refFree = true

/-- Every binding of every scope is anchored. -/
def WellFormed (s : Scopes) : Prop :=
  ∀ i scope, s[i]? = some scope → ∀ e ∈ scope, s.Anchored i e.2

theorem anchored_of_refFree (h : v.refFree = true) (s : Scopes) (i : Nat) : s.Anchored i v := by
  cases v with
  | ref => cases h
  | counter | struct | list => exact h

theorem anchored_ref {offset : Int} (position : 0 ≤ offset) (le : n ≤ i) (binds : s.Binds n x) :
    s.Anchored i (.ref n x offset) := ⟨position, n, rfl, le, binds⟩

/-- An anchored value stays so while its target stays bound. -/
theorem Anchored.mono (h : s.Anchored i v)
    (keeps : ∀ n x, n ≤ i → s.Binds n x → s'.Binds n x) : s'.Anchored i v := by
  cases v with
  | ref scope target offset =>
    obtain ⟨position, n, hn, le, binds⟩ := h
    exact ⟨position, n, hn, le, keeps n target le binds⟩
  | counter | struct | list => exact h

theorem WellFormed.of_binding (h : s.WellFormed) (hv : s.binding n x = .ok v) : s.Anchored n v := by
  obtain ⟨scope, hs, hget⟩ := binding_iff.1 hv
  exact h n scope hs (x, v) (Assoc.mem_of_get? hget)

theorem lt_length_of_binds (h : s.Binds n x) : n < s.length := by
  obtain ⟨scope, hs, -⟩ := binds_iff.1 h
  exact (List.getElem?_eq_some_iff.1 hs).1

theorem binds_of_lookup (h : s.lookup x = .ok (n, v)) : s.Binds n x := ⟨v, binding_of_lookup h⟩

theorem wellFormed_nil : WellFormed [] := by
  intro i scope h
  cases h

/-! ### How stacks change -/

/-- Changing one scope so that nothing becomes unbound. -/
theorem WellFormed.modify (h : s.WellFormed) {change : Scope → Scope}
    (keys : ∀ scope x, s[n]? = some scope → (Assoc.get? x scope).isSome = true →
      (Assoc.get? x (change scope)).isSome = true)
    (values : ∀ scope, s[n]? = some scope → ∀ e ∈ change scope, s.Anchored n e.2) :
    WellFormed (s.modify n change) := by
  have keeps (k : Nat) (x : NameId) (hb : s.Binds k x) : Binds (s.modify n change) k x := by
    obtain ⟨scope, hs, hget⟩ := binds_iff.1 hb
    refine binds_iff.2 ⟨if n = k then change scope else scope, ?_, ?_⟩
    · rw [List.getElem?_modify, hs]
      rfl
    · split
      · next hk => exact keys scope x (hk ▸ hs) hget
      · exact hget
  intro i scope hs e he
  rw [List.getElem?_modify] at hs
  obtain ⟨old, hold, rfl⟩ := Option.map_eq_some_iff.1 hs
  refine Anchored.mono ?_ fun k x _ hb => keeps k x hb
  split at he
  · next hn => exact hn ▸ values old (hn ▸ hold) e he
  · exact h i old hold e he

theorem WellFormed.write (h : s.WellFormed) (hv : s.Anchored n v) (x : NameId) :
    (s.write n x v).WellFormed := by
  refine h.modify (fun _ _ _ => Assoc.isSome_get?_set) fun scope hs e he => ?_
  rcases Assoc.mem_set he with rfl | he
  · exact hv
  · exact h n scope hs e he

/-- More scopes without bindings. -/
theorem WellFormed.append (h : s.WellFormed) {extra : Scopes} (empty : ∀ scope ∈ extra, scope = []) :
    WellFormed (s ++ extra) := by
  intro i scope hs e he
  rcases Nat.lt_or_ge i s.length with hi | hi
  · rw [List.getElem?_append_left hi] at hs
    exact (h i scope hs e he).mono fun _ _ _ ⟨v, hv⟩ => ⟨v, binding_append hv extra⟩
  · rw [List.getElem?_append_right hi] at hs
    rw [empty scope (List.mem_of_getElem? hs)] at he
    cases he

/-- Fewer scopes: what is left refers to nothing further in. -/
theorem WellFormed.take (h : s.WellFormed) (depth : Nat) : WellFormed (s.take depth) := by
  intro i scope hs e he
  obtain ⟨hi, hs⟩ : i < depth ∧ s[i]? = some scope := by
    rw [List.getElem?_take] at hs
    split at hs
    · next hi => exact ⟨hi, hs⟩
    · cases hs
  refine (h i scope hs e he).mono fun n x hn hb => ?_
  obtain ⟨owner, howner, hget⟩ := binds_iff.1 hb
  exact binds_iff.2 ⟨owner, by rw [List.getElem?_take, if_pos (by omega), howner], hget⟩

theorem WellFormed.push (h : s.WellFormed) : s.push.WellFormed :=
  h.append fun _ hscope => List.mem_singleton.1 hscope

theorem WellFormed.bind (h : s.WellFormed) (hv : s.Anchored (s.length - 1) v) (x : NameId) :
    (s.bind x v).WellFormed := by
  cases s with
  | nil =>
    have ground : WellFormed [[]] := wellFormed_nil.push
    refine ground.write (n := 0) (hv.mono fun n x _ hb => ?_) x
    exact absurd (lt_length_of_binds hb) (Nat.not_lt_zero n)
  | cons => exact h.write hv x

theorem WellFormed.bindAt (h : s.WellFormed) (hv : v.refFree = true) {scope : Int}
    (hs : s.bindAt? scope x v = some s') : s'.WellFormed := by
  cases scope with
  | ofNat n =>
    obtain rfl := Option.some.inj hs
    exact (h.append fun _ hscope => (List.mem_replicate.1 hscope).2).write
      (anchored_of_refFree hv _ _) x
  | negSucc k =>
    rw [bindAt?] at hs
    split at hs
    · obtain rfl := Option.some.inj hs
      exact h.write (anchored_of_refFree hv _ _) x
    · cases hs

theorem WellFormed.assign (h : s.WellFormed) (hv : v.refFree = true) {scope : Option Int}
    (hs : s.assign x v scope = .ok s') : s'.WellFormed := by
  cases scope with
  | none =>
    obtain ⟨found, -, hs⟩ := exists_of_bind_ok hs
    obtain rfl := Except.ok.inj hs
    exact h.write (anchored_of_refFree hv _ _) x
  | some i =>
    simp only [Scopes.assign] at hs
    split at hs
    · obtain rfl := Except.ok.inj hs
      exact h.write (anchored_of_refFree hv _ _) x
    · cases hs

theorem WellFormed.yield (h : s.WellFormed) (hv : v.refFree = true) (x : NameId) :
    (s.yield x v).WellFormed := by
  have single : (Value.list [v]).refFree = true :=
    Value.refFree_list.2 fun w hw => List.mem_singleton.1 hw ▸ hv
  cases s with
  | nil => exact wellFormed_nil.push.write (n := 0) (anchored_of_refFree single _ _) x
  | cons root inner =>
    rw [Scopes.yield]
    split
    · next items hget =>
      have old : (Value.list items).refFree = true := h 0 root rfl (x, _) (Assoc.mem_of_get? hget)
      refine h.write (n := 0) (anchored_of_refFree ?_ _ _) x
      exact Value.structural_refFree.appendAt hv old []
    · exact h.write (n := 0) (anchored_of_refFree single _ _) x

theorem WellFormed.appendAt (h : s.WellFormed) (hv : v.refFree = true) (p : Place) :
    (s.appendAt p v).WellFormed := by
  refine h.modify (fun scope x _ hget => ?_) fun scope hs e he => ?_
  · split
    · exact Assoc.isSome_get?_set hget
    · exact hget
  · split at he
    · next stored hget =>
      rcases Assoc.mem_set he with rfl | he
      · have old := h _ scope hs (p.var, stored) (Assoc.mem_of_get? hget)
        cases stored with
        | ref =>
          -- nothing is appended to a reference
          cases hp : p.positions <;> exact old
        | counter | struct | list => exact anchored_of_refFree (Value.structural_refFree.appendAt hv old _) _ _
      · exact h _ scope hs e he
    · exact h _ scope hs e he

theorem WellFormed.pushTo (h : s.WellFormed) (hv : v.refFree = true) (hs : s.pushTo x v = .ok s') :
    s'.WellFormed := by
  obtain ⟨found, -, hs⟩ := exists_of_bind_ok hs
  obtain ⟨place, -, hs⟩ := exists_of_bind_ok hs
  split at hs
  · obtain rfl := Except.ok.inj hs
    exact h.appendAt hv _
  · obtain rfl := Except.ok.inj hs
    exact h
  · cases hs

/-! ### What reading gives -/

/-- **A reference resolves or fails for an index**: what it names is there. -/
theorem grounded_derefWithin (h : s.WellFormed) (budget : Nat) (hv : s.Anchored i v) :
    Grounded (s.derefWithin budget v) := by
  induction budget generalizing i v with
  | zero =>
    cases v with
    | ref => rfl
    | counter | struct | list => exact hv
  | succ budget ih =>
    cases v with
    | counter | struct | list => exact hv
    | ref scope target offset =>
      obtain ⟨-, n, rfl, -, bound, hbound⟩ := hv
      rw [derefWithin, hbound]
      refine (ih (h.of_binding hbound)).bind fun whole hwhole => ?_
      refine (grounded_select hwhole offset).bind fun part hpart => ?_
      exact ih (anchored_of_refFree hpart s 0)

theorem refFree_of_deref (h : s.WellFormed) (hv : s.Anchored i v) (hw : s.deref v = .ok w) :
    w.refFree = true := by
  have grounded := grounded_derefWithin h chainLimit hv
  rw [deref] at hw
  rwa [hw] at grounded

theorem deref_of_refFree (h : v.refFree = true) : s.deref v = .ok v :=
  derefWithin_of_isRef_eq_false (Value.isRef_of_refFree h) chainLimit

theorem refFree_of_valueOf (h : s.WellFormed) (hv : s.valueOf x = .ok v) : v.refFree = true := by
  obtain ⟨⟨n, bound⟩, hlookup, hv⟩ := exists_of_bind_ok hv
  exact refFree_of_deref h (h.of_binding (binding_of_lookup hlookup)) hv

/-- There is nothing to follow in a value without references. -/
theorem refFree_of_deref_of_refFree (hv : v.refFree = true) (hw : s.deref v = .ok w) : w.refFree = true := by
  rw [deref_of_refFree hv] at hw
  exact Except.ok.inj hw ▸ hv

theorem refFree_of_fieldOf {field : NameId} (hv : v.refFree = true)
    (hw : s.fieldOf field v = .ok w) : w.refFree = true :=
  Value.structural_refFree.of_fieldOf refFree_of_deref_of_refFree hv hw

theorem refFree_of_choose {pick : Pick} (hv : v.refFree = true) (hw : s.choose pick v = .ok w) :
    w.refFree = true :=
  Value.structural_refFree.of_choose refFree_of_deref_of_refFree hv hw

theorem refFree_of_project (p : Path) {v : Value} (hv : v.refFree = true)
    (hw : s.project p v = .ok w) : w.refFree = true :=
  Value.structural_refFree.of_project refFree_of_deref_of_refFree p hv hw

theorem refFree_of_resolve (h : s.WellFormed) {p : Path} (hv : s.resolve p = .ok v) :
    v.refFree = true := by
  obtain ⟨start, hstart, hv⟩ := exists_of_bind_ok hv
  exact refFree_of_project p (refFree_of_valueOf h hstart) hv

end Scopes

/-- **Expressions give values without references.** -/
theorem Expr.refFree_of_eval {s : Scopes} (h : s.WellFormed) (e : Expr) {v : Value} (hv : e.eval s = .ok v) :
    v.refFree = true :=
  Value.structural_refFree.of_eval (Scopes.refFree_of_resolve h) e hv

/-! ### What executors may do -/

namespace Scopes

variable {s s' : Scopes}

/-- `Touches s s'`: the stack `s` becomes `s'` by binding and yielding values without references. -/
inductive Touches (s : Scopes) : Scopes → Prop where
  | refl : Touches s s
  | bind {s' : Scopes} {v : Value} (h : Touches s s') (hv : v.refFree = true) (x : NameId) :
      Touches s (s'.bind x v)
  | bindAt {s' s'' : Scopes} {v : Value} (h : Touches s s') (hv : v.refFree = true) (x : NameId)
      (scope : Int) (hs : s'.bindAt? scope x v = some s'') : Touches s s''
  | yield {s' : Scopes} {v : Value} (h : Touches s s') (hv : v.refFree = true) (x : NameId) :
      Touches s (s'.yield x v)

theorem WellFormed.touches (h : s.WellFormed) (ht : s.Touches s') : s'.WellFormed := by
  induction ht with
  | refl => exact h
  | bind _ hv x ih => exact ih.bind (anchored_of_refFree hv _ _) x
  | bindAt _ hv x scope hs ih => exact ih.bindAt hv hs
  | yield _ hv x ih => exact ih.yield hv x

end Scopes

/-- The executor changes well-formed stacks only by binding and yielding values without references,
whether it succeeds or not.  Nothing is said about other stacks: it never meets one. -/
structure Executor.Obeys {κ ω : Type} (ex : Executor κ ω) : Prop where
  execute : ∀ c (s : Scopes) w, s.WellFormed → s.Touches (ex.execute c s w).2.1
  visit : ∀ x position v (s : Scopes) w, s.WellFormed → s.Touches (ex.visit x position v s w).2.1
  finish : ∀ (s : Scopes) w, s.WellFormed → s.Touches (ex.finish s w).2.1

namespace Machine

variable {κ ω : Type} {ex : Executor κ ω} {s : Scopes}

/-! ### Runs -/

/-- A loop variable begins as a counter or as a reference to a variable that is visible, and keeps its
target when it moves on. -/
theorem upheld_wellFormed : Scopes.Upheld Scopes.WellFormed where
  push h := h.push
  take depth h := h.take depth
  bind h hv x := h.bind (Scopes.anchored_of_refFree (Expr.refFree_of_eval h _ hv) _ _) x
  bindAt h hv hs := h.bindAt (Expr.refFree_of_eval h _ hv) hs
  assign h hv hs := h.assign (Expr.refFree_of_eval h _ hv) hs
  pushTo h hv hs := h.pushTo (Expr.refFree_of_eval h _ hv) hs
  count h x _ _ := h.bind (Scopes.anchored_of_refFree rfl _ _) x
  walk h found x := by
    have binds := Scopes.binds_of_lookup found
    have inside := Scopes.lt_length_of_binds binds
    exact h.bind (Scopes.anchored_ref (Int.le_refl 0) (by omega) binds) x
  countOn h _ := h.write (Scopes.anchored_of_refFree rfl _ _) _
  walkOn h found := by
    obtain ⟨position, m, rfl, le, binds⟩ := h.of_binding (Scopes.binding_of_lookup found)
    exact h.write (Scopes.anchored_ref (by omega) le binds) _

theorem keeps_wellFormed (obeys : ex.Obeys) : ex.Keeps Scopes.WellFormed where
  execute c s w h := h.touches (obeys.execute c s w h)
  visit x position v s w h := h.touches (obeys.visit x position v s w h)
  finish s w h := h.touches (obeys.finish s w h)

/-- **Every instruction keeps stacks well-formed**, whether it succeeds or not. -/
theorem wellFormed_step (obeys : ex.Obeys) (h : s.WellFormed) (pc : Int) (i : Instruction κ) (w : ω) :
    (step ex pc i s w).2.1.WellFormed :=
  keeps_step upheld_wellFormed (keeps_wellFormed obeys) h pc i w

/-- **A run keeps stacks well-formed**, from any position and wherever its budget ends it. -/
theorem wellFormed_runFrom (obeys : ex.Obeys) (h : s.WellFormed) (flag : Nat → ω → Bool)
    (p : Program κ) (budget taken : Nat) (pc : Int) (w : ω) :
    (runFrom ex flag p budget taken pc s w).2.1.WellFormed :=
  keeps_runFrom upheld_wellFormed (keeps_wellFormed obeys) h flag p budget taken pc w

theorem wellFormed_run (obeys : ex.Obeys) (h : s.WellFormed) (flag : Nat → ω → Bool) (budget : Nat)
    (p : Program κ) (keep : Bool) (w : ω) : (run ex flag budget p keep s w).2.1.WellFormed :=
  keeps_run upheld_wellFormed (keeps_wellFormed obeys) h flag budget p keep w

/-- The stacks that runs leave, one after the other, beginning with the empty one.  Each run has an
executor, a flag, a budget and a program of its own. -/
inductive LeftBehind : Scopes → Prop where
  | nothing : LeftBehind []
  | run {κ ω : Type} {ex : Executor κ ω} {s : Scopes} (before : LeftBehind s) (obeys : ex.Obeys)
      (flag : Nat → ω → Bool) (budget : Nat) (p : Program κ) (keep : Bool) (w : ω) :
      LeftBehind (run ex flag budget p keep s w).2.1

/-- The stacks at all points of all sequences of runs: between two runs, and in the midst of a run,
where its budget may end it after any number of instructions. -/
inductive Reached : Scopes → Prop where
  | between {s : Scopes} (h : LeftBehind s) : Reached s
  | within {κ ω : Type} {ex : Executor κ ω} {s : Scopes} (before : LeftBehind s) (obeys : ex.Obeys)
      (flag : Nat → ω → Bool) (budget : Nat) (p : Program κ) (w : ω) :
      Reached (runFrom ex flag p budget 0 0 s.push w).2.1

theorem LeftBehind.wellFormed (h : LeftBehind s) : s.WellFormed := by
  induction h with
  | nothing => exact Scopes.wellFormed_nil
  | run _ obeys flag budget p keep w ih => exact wellFormed_run obeys ih flag budget p keep w

theorem Reached.wellFormed (h : Reached s) : s.WellFormed := by
  cases h with
  | between h => exact h.wellFormed
  | within before obeys flag budget p w =>
    exact wellFormed_runFrom obeys before.wellFormed.push flag p budget 0 0 w

/-- **References never dangle.**  Let any programs run one after the other from the empty stack, also
such that no statements became, under executors that only bind and yield values without references.
At every point each reference is the whole value of a variable and names a variable that is bound in
the same scope or in one further out, at a position from zero.  So a variable that is bound resolves
or fails for an index, and expressions give values without references. -/
theorem references_in_order (h : Reached s) :
    s.WellFormed ∧
    (∀ (n : Int) x v, s.binding n x = .ok v → Grounded (s.deref v)) ∧
    ∀ e v, Expr.eval s e = .ok v → v.refFree = true := by
  have wellFormed := h.wellFormed
  refine ⟨wellFormed, fun n x v hv => ?_, fun e v hv => Expr.refFree_of_eval wellFormed e hv⟩
  cases n with
  | ofNat n => exact Scopes.grounded_derefWithin wellFormed chainLimit (wellFormed.of_binding hv)
  | negSucc => cases hv

/-- A loop over a list of one element, without anything to repeat. -/
def walkOfOne : Program String :=
  [⟨.create 0 (.list [.struct [.literal "a"] []]) none, none⟩, ⟨.start (.elements 0) 1 3, none⟩,
    ⟨.advance (.elements 0) 1 3, none⟩]

/-- A loop variable that is left behind the last element: its target is there, but no such
element. -/
theorem references_in_order_walkOfOne :
    Reached [[(0, .list [.ofText "a"]), (1, .ref 0 0 1)]] ∧
    Grounded (Scopes.deref [[(0, .list [.ofText "a"]), (1, .ref 0 0 1)]] (.ref 0 0 1)) ∧
    Scopes.deref [[(0, .list [.ofText "a"]), (1, .ref 0 0 1)]] (.ref 0 0 1)
      = .error (.access (.listRange 1 1)) := by
  have obeys : depthKeeper.Obeys :=
    ⟨fun _ _ _ _ => .refl, fun _ _ _ _ _ _ => .refl, fun _ _ _ => .refl⟩
  have reached : Reached [[(0, .list [.ofText "a"]), (1, .ref 0 0 1)]] :=
    .between (.run .nothing obeys never 3 walkOfOne true [])
  have told : ReadError.telling [1, 1] (.listRange 1 1) = .access (.listRange 1 1) :=
    ReadError.telling_eq_access (by decide +kernel)
  exact ⟨reached, (references_in_order reached).2.1 0 1 _ rfl, congrArg Except.error told⟩

end Machine

end Sweep
