import Sweep.Proofs.Parts
import Sweep.Proofs.Trail

/-!
# What runs keep of the scopes

Whatever program runs, the machine changes the scopes in a few ways only: it pushes and pops, it binds,
assigns and pushes values of expressions, it begins loop variables and moves them on; the rest is up to the
executor.  A property of stacks that all of these keep holds at every moment of every run, also of programs
that no statements became.

* `Scopes.Upheld` — such a property;
* `keeps_step` — every instruction keeps it, whether it succeeds or not;
* `keeps_trail`, `keeps_runFrom`, `keeps_run` — and so does every run;
* `Scope.Kept`, `upheld_each` — a property that writing keeps in one scope is upheld in all scopes.
-/

namespace Sweep

variable {κ ω : Type}

/-- All that a machine does with a stack keeps a property of it. -/
structure Scopes.Upheld (I : Scopes → Prop) : Prop where
  push : ∀ {s}, I s → I s.push
  take : ∀ {s} (depth : Nat), I s → I (s.take depth)
  bind : ∀ {s e v}, I s → Expr.eval s e = .ok v → ∀ x, I (s.bind x v)
  bindAt : ∀ {s s' e v x scope}, I s → Expr.eval s e = .ok v → s.bindAt? scope x v = some s' → I s'
  assign : ∀ {s s' e v x scope}, I s → Expr.eval s e = .ok v → s.assign x v scope = .ok s' → I s'
  pushTo : ∀ {s s' e v x}, I s → Expr.eval s e = .ok v → s.pushTo x v = .ok s' → I s'
  /-- A loop variable begins over a range. -/
  count : ∀ {s}, I s → ∀ x a b, I (s.bind x (.counter a b 0))
  /-- A loop variable begins over a variable. -/
  walk : ∀ {s t n v}, I s → s.lookup t = .ok (n, v) → ∀ x, I (s.bind x (.ref n t 0))
  countOn : ∀ {s x n a b offset}, I s → s.lookup x = .ok (n, .counter a b offset) →
    I (s.write n x (.counter a b (offset + 1)))
  walkOn : ∀ {s x n scope t offset}, I s → s.lookup x = .ok (n, .ref scope t offset) →
    I (s.write n x (.ref scope t (offset + 1)))

/-- The executor keeps a property of stacks. -/
structure Executor.Keeps (ex : Executor κ ω) (I : Scopes → Prop) : Prop where
  execute : ∀ c s w, I s → I (ex.execute c s w).2.1
  visit : ∀ x position v s w, I s → I (ex.visit x position v s w).2.1
  finish : ∀ s w, I s → I (ex.finish s w).2.1

namespace Machine

variable {ex : Executor κ ω} {p : Program κ} {I : Scopes → Prop} {s : Scopes}
  (upheld : Scopes.Upheld I) (keeps : ex.Keeps I)

/-! ### One instruction -/

include keeps

theorem keeps_visiting (h : I s) (x : NameId) (position : Int) (v : Value) (w : ω) :
    I (visiting ex x position v s w).2.1 := by
  rw [scopes_visiting]
  exact keeps.visit x position v s w h

include upheld

theorem keeps_begin (h : I s) (x : NameId) (w : ω) (t : Target) : I (begin_ ex x s w t).2.1 := by
  cases t with
  | range lo hi =>
    refine scopes_reading h fun ⟨a, b⟩ _ => ?_
    dsimp only
    split
    · exact keeps_visiting keeps (upheld.count h x a b) x _ _ w
    · exact h
  | elements t =>
    refine scopes_reading h fun ⟨n, whole⟩ found => ?_
    obtain ⟨⟨m, v⟩, hlookup, rest⟩ := exists_of_bind_ok found
    obtain ⟨whole', -, rest⟩ := exists_of_bind_ok rest
    obtain ⟨rfl, -⟩ := Prod.mk.inj (Except.ok.inj rest)
    have begun := upheld.walk h hlookup x
    dsimp only
    split
    · exact h
    · exact scopes_reading begun fun whole _ => keeps_visiting keeps begun x _ whole w

theorem keeps_proceed (h : I s) (x : NameId) (w : ω) : I (proceed ex x s w).2.1 := by
  refine scopes_reading h fun found hlookup => ?_
  split
  · next n a b offset =>
    have moved := upheld.countOn h hlookup
    dsimp only
    split
    · exact keeps_visiting keeps moved x _ _ w
    · exact moved
  · next n scope t offset =>
    have moved := upheld.walkOn h hlookup
    refine scopes_reading h fun whole _ => ?_
    dsimp only
    split
    · exact keeps_visiting keeps moved x _ _ w
    · exact moved
  · exact h

theorem keeps_plainStep (h : I s) (i : Instruction κ) (w : ω) : I (plainStep ex i s w).2.1 := by
  cases i with
  | pushScope => exact upheld.push h
  | popScope =>
    show I s.pop
    rw [Scopes.pop, List.dropLast_eq_take]
    exact upheld.take _ h
  | create x e scope =>
    cases scope with
    | none => exact scopes_reading h fun v hv => upheld.bind h hv x
    | some n =>
      refine scopes_reading h fun v hv => ?_
      split
      · next s' hs => exact upheld.bindAt h hv hs
      · exact h
  | assign x e scope =>
    refine scopes_reading h fun s' hs => ?_
    obtain ⟨v, hv, hs⟩ := exists_of_bind_ok hs
    exact upheld.assign h hv hs
  | push x e =>
    refine scopes_reading h fun s' hs => ?_
    obtain ⟨v, hv, hs⟩ := exists_of_bind_ok hs
    exact upheld.pushTo h hv hs
  | command c => exact keeps.execute c s w h
  | start | advance | branch | goto => exact h

/-- **Every instruction keeps what is upheld**, whether it succeeds or not. -/
theorem keeps_step (h : I s) (pc : Int) (i : Instruction κ) (w : ω) : I (step ex pc i s w).2.1 := by
  cases i with
  | start t x jump => exact keeps_begin upheld keeps h x w t
  | advance t x jump => exact keeps_proceed upheld keeps h x w
  | branch guard jump => exact scopes_reading h fun _ _ => h
  | goto jump => exact h
  | pushScope | popScope | create | assign | push | command => exact keeps_plainStep upheld keeps h _ w

/-! ### Runs -/

theorem keeps_trail {c d : Config ω} {cs : List (Config ω)} (trail : Trail ex p c cs d) (h : I c.scopes) :
    I d.scopes := by
  induction trail with
  | nil => exact h
  | @cons c d e cs first _ ih =>
    obtain ⟨line, -, taken⟩ := first
    have after := keeps_step upheld keeps h c.pc line.instruction c.world
    rw [taken] at after
    exact ih after

/-- **A run keeps what is upheld**, from any position and wherever its budget ends it. -/
theorem keeps_runFrom (h : I s) (flag : Nat → ω → Bool) (p : Program κ) (budget taken : Nat) (pc : Int)
    (w : ω) : I (runFrom ex flag p budget taken pc s w).2.1 := by
  obtain ⟨cs, d, trail, ends⟩ := exists_trail_of_runFrom ex flag p budget taken ⟨pc, s, w⟩
  have here := keeps_trail upheld keeps trail h
  generalize runFrom ex flag p budget taken pc s w = r at ends
  cases ends with
  | finished _ finish | unfinished _ finish =>
    have after := keeps.finish d.scopes d.world here
    rw [finish] at after
    exact after
  | stopped | astray | exhausted => exact here
  | @failed line _ _ _ fails =>
    have after := keeps_step upheld keeps here d.pc line.instruction d.world
    rw [fails] at after
    exact after

theorem keeps_run (h : I s) (flag : Nat → ω → Bool) (budget : Nat) (p : Program κ) (keep : Bool) (w : ω) :
    I (run ex flag budget p keep s w).2.1 := by
  have inside := keeps_runFrom upheld keeps (upheld.push h) flag p budget 0 0 w
  rw [run]
  dsimp only
  split
  · exact inside
  · exact upheld.take s.length inside

end Machine

/-! ### Scope by scope -/

/-- A property that writing keeps in a scope, as long as the values that are written have a property of their
own.  That one goes by the parts, and loop variables have it from their first position on. -/
structure Scope.Kept (Q : Scope → Prop) (P : Value → Prop) : Prop where
  parts : Value.Structural P
  empty : Q []
  holds : ∀ {scope}, Q scope → ∀ e ∈ scope, P e.2
  set : ∀ {scope v}, Q scope → P v → ∀ x, Q (Assoc.set x v scope)
  begins : ∀ n t, P (.ref n t 0)
  counts : ∀ {a b offset}, P (.counter a b offset) → P (.counter a b (offset + 1))
  moves : ∀ {n t offset}, P (.ref n t offset) → P (.ref n t (offset + 1))

/-- Every scope has a property. -/
def Scopes.Each (Q : Scope → Prop) (s : Scopes) : Prop := ∀ scope ∈ s, Q scope

namespace Scopes.Each

variable {Q : Scope → Prop} {P : Value → Prop} {s s' : Scopes} {v : Value} (kept : Scope.Kept Q P)

theorem modify (h : s.Each Q) (n : Nat) {change : Scope → Scope} (changed : ∀ scope ∈ s, Q (change scope)) :
    Scopes.Each Q (s.modify n change) := by
  intro scope hscope
  obtain ⟨k, hk⟩ := List.mem_iff_getElem?.1 hscope
  rw [List.getElem?_modify] at hk
  obtain ⟨old, hold, rfl⟩ := Option.map_eq_some_iff.1 hk
  have there := List.mem_of_getElem? hold
  split
  · exact changed old there
  · exact h old there

theorem take (h : s.Each Q) (depth : Nat) : Scopes.Each Q (s.take depth) :=
  fun scope hscope => h scope (List.mem_of_mem_take hscope)

include kept

theorem every (h : s.Each Q) : s.Every P := fun scope hscope => kept.holds (h scope hscope)

theorem append (h : s.Each Q) {extra : Scopes} (empty : ∀ scope ∈ extra, scope = []) :
    Scopes.Each Q (s ++ extra) := by
  intro scope hscope
  rcases List.mem_append.1 hscope with old | new
  · exact h scope old
  · exact empty scope new ▸ kept.empty

theorem write (h : s.Each Q) (hv : P v) (n : Nat) (x : NameId) : (s.write n x v).Each Q :=
  h.modify n fun scope hscope => kept.set (h scope hscope) hv x

theorem bind (h : s.Each Q) (hv : P v) (x : NameId) : (s.bind x v).Each Q := by
  cases s with
  | nil => exact fun scope hscope => List.mem_singleton.1 hscope ▸ kept.set kept.empty hv x
  | cons => exact h.write kept hv _ x

theorem bindAt (h : s.Each Q) (hv : P v) {x : NameId} {scope : Int} (hs : s.bindAt? scope x v = some s') :
    s'.Each Q := by
  cases scope with
  | ofNat n =>
    obtain rfl := Option.some.inj hs
    exact (h.append kept fun _ hscope => (List.mem_replicate.1 hscope).2).write kept hv n x
  | negSucc k =>
    rw [bindAt?] at hs
    split at hs
    · obtain rfl := Option.some.inj hs
      exact h.write kept hv _ x
    · cases hs

theorem assign (h : s.Each Q) (hv : P v) {x : NameId} {scope : Option Int}
    (hs : s.assign x v scope = .ok s') : s'.Each Q := by
  cases scope with
  | none =>
    obtain ⟨found, -, hs⟩ := exists_of_bind_ok hs
    exact Except.ok.inj hs ▸ h.write kept hv _ x
  | some i =>
    simp only [Scopes.assign] at hs
    split at hs
    · exact Except.ok.inj hs ▸ h.write kept hv _ x
    · cases hs

theorem pushTo (h : s.Each Q) (hv : P v) {x : NameId} (hs : s.pushTo x v = .ok s') : s'.Each Q := by
  obtain ⟨found, -, hs⟩ := exists_of_bind_ok hs
  obtain ⟨place, -, hs⟩ := exists_of_bind_ok hs
  split at hs
  · obtain rfl := Except.ok.inj hs
    refine h.modify _ fun scope hscope => ?_
    split
    · next stored hget =>
      have old := kept.holds (h scope hscope) _ (Assoc.mem_of_get? hget)
      exact kept.set (h scope hscope) (kept.parts.appendAt hv old _) _
    · exact h scope hscope
  · exact Except.ok.inj hs ▸ h
  · cases hs

theorem yield (h : s.Each Q) (hv : P v) (x : NameId) : (s.yield x v).Each Q := by
  have single : P (.list [v]) := kept.parts.list.2 fun w hw => List.mem_singleton.1 hw ▸ hv
  cases s with
  | nil => exact fun scope hscope => List.mem_singleton.1 hscope ▸ kept.set kept.empty single x
  | cons root inner =>
    obtain ⟨first, others⟩ := List.forall_mem_cons.1 h
    rw [Scopes.yield]
    split
    · next items hget =>
      have old := kept.holds first _ (Assoc.mem_of_get? hget)
      exact List.forall_mem_cons.2 ⟨kept.set first (kept.parts.appendAt hv old []) x, others⟩
    · exact List.forall_mem_cons.2 ⟨kept.set first single x, others⟩

theorem of_eval (h : s.Each Q) {e : Expr} (hv : e.eval s = .ok v) : P v :=
  kept.parts.of_eval (kept.parts.of_resolve (h.every kept)) e hv

end Scopes.Each

/-- **What writing keeps in one scope is upheld in all scopes.** -/
theorem Scopes.upheld_each {Q : Scope → Prop} {P : Value → Prop} (kept : Scope.Kept Q P) :
    Scopes.Upheld (Scopes.Each Q) where
  push h := h.append kept fun _ hscope => List.mem_singleton.1 hscope
  take depth h := h.take depth
  bind h hv x := h.bind kept (h.of_eval kept hv) x
  bindAt h hv hs := h.bindAt kept (h.of_eval kept hv) hs
  assign h hv hs := h.assign kept (h.of_eval kept hv) hs
  pushTo h hv hs := h.pushTo kept (h.of_eval kept hv) hs
  count h x _ _ := h.bind kept (kept.parts.counter (Int.le_refl 0)) x
  walk h _ x := h.bind kept (kept.begins _ _) x
  countOn h found := h.write kept (kept.counts ((h.every kept).of_binding (binding_of_lookup found))) _ _
  walkOn h found := h.write kept (kept.moves ((h.every kept).of_binding (binding_of_lookup found))) _ _

end Sweep
