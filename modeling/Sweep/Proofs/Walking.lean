import Sweep.Proofs.Chaining
import Sweep.Proofs.Enumeration
import Sweep.Proofs.Settling
import Sweep.Proofs.Sites

/-!
# Walking over a path and spreading it

The value at a path can be given to a child as arguments, one for each of its elements, or be walked over
by a loop.  Spreading takes the value apart at once.  A loop is code: a cursor refers to a variable, which
is a hidden copy unless the path is a variable itself, and moves from element to element.

* `Walks`, `walks_of_readLoop` — what a loop over one path is read as;
* `exists_shown_of_spread` — spreading shows the elements of the value at the path;
* `rounds_one`, `bodyAt_one` — a loop over one variable makes a round for each element;
* `Recites` — a run comes to a position once for each text, and the variable has that text there;
* `recites_elements` — it does on the way through a loop over the elements of a variable.

The main statement is `loop_recites_spread`.
-/

namespace Sweep

/-! ### Reading a loop over a path -/

namespace Statement

variable {κ : Type}

open Reading

/-- The statements of a loop with a variable over the value at a path: a variable is walked over where it
is, and anything else is copied to a hidden variable first. -/
inductive Walks (x : NameId) (q : Path) (block : List (Statement κ)) : List (Statement κ) → Prop where
  | direct {mode : LoopMode} {origin : Option String} (bare : q.isBare = true) :
      Walks x q block [.loop mode [(x, .elements q.var)] block origin]
  | copied {mode : LoopMode} {hidden : NameId} {place origin : Option String} (deep : q.isBare = false) :
      Walks x q block
        [.single (.create hidden (.copy q) none) place, .loop mode [(x, .elements hidden)] block origin]

variable {location text : String} {entries : List (Key × Document)} {iter : Document}
  {t t' u : NameTable} {q : Path} {ts : List (Statement κ)} {body : Reading (List (Statement κ))}

theorem exists_loop_of_loopOf {mode : LoopMode} {x : NameId} {target : Target}
    {block : List (Statement κ)} {origin : Option String} {loop : Statement κ}
    (h : (loopOf mode [x] [target] block origin).Gives t loop u) :
    loop = .loop mode [(x, target)] block origin ∧ t = u := by
  obtain ⟨rfl, rfl⟩ := gives_pure.1 h
  exact ⟨rfl, rfl⟩

/-- A loop variable is known by the text that stands for it, without the blanks around it. -/
theorem nameOf?_of_readVariable {x : NameId} (h : (readVariable iter).Gives t x u) :
    u.nameOf? x = some (Text.stripString iter.display) := by
  obtain ⟨name, t₁, written, interned⟩ := gives_bind.1 h
  obtain ⟨text, rfl⟩ := gives_written.1 written
  obtain ⟨-, rfl⟩ := Document.written?_eq_some.1 text
  have known := t.nameOf?_intern (Text.stripString iter.display)
  rwa [gives_intern.1 interned] at known

/-- **A loop over a path** is read as one that walks over its value. -/
theorem walks_of_readLoop (parts : loopParts location entries = pure ([iter], [.text text]))
    (path : (Path.ofString (location ++ ".in") text).Gives t q t')
    (h : (readLoop location entries body).Gives t ts u) :
    ∃ x block known, known.nameOf? x = some (Text.stripString iter.display) ∧
      body.Gives known block u ∧ Walks x q block ts := by
  rw [readLoop, parts, pure_bind] at h
  obtain ⟨mode, t₁, mode_read, h⟩ := gives_bind.1 h
  obtain ⟨rfl, -⟩ := of_gives_readMode mode_read
  obtain ⟨⟨hidden, targets⟩, t₂, targets_read, h⟩ := gives_bind.1 h
  obtain ⟨vars, known, vars_read, h⟩ := gives_bind.1 h
  obtain ⟨block, t₄, block_read, h⟩ := gives_bind.1 h
  obtain ⟨loop, t₅, made, h⟩ := gives_bind.1 h
  obtain ⟨rfl, rfl⟩ := gives_pure.1 h
  -- the only variable is the one that the loop names
  obtain ⟨x, rfl, named⟩ : ∃ x, vars = [x] ∧ known.nameOf? x = some (Text.stripString iter.display) := by
    rw [List.mapM_cons, List.mapM_nil] at vars_read
    obtain ⟨x, t₃, variable_read, vars_read⟩ := gives_bind.1 vars_read
    obtain ⟨rfl, rfl⟩ := gives_pure.1 vars_read
    exact ⟨x, rfl, nameOf?_of_readVariable variable_read⟩
  refine ⟨x, block, known, named, ?_⟩
  -- the only target is the path, or a hidden variable that is bound to a copy first
  rw [readTargets, readTargets, show targetPlace location [Document.text text].length 0
    = location ++ ".in" from rfl, Target.read] at targets_read
  obtain ⟨target, t₃, target_read, targets_read⟩ := gives_bind.1 targets_read
  obtain ⟨q', t₆, path', target_read⟩ := gives_bind.1 target_read
  obtain ⟨rfl, rfl⟩ := Gives.unique path path'
  obtain ⟨rfl, rfl⟩ := gives_pure.1 target_read
  cases bare : q.isBare with
  | true =>
    rw [bare] at targets_read
    obtain ⟨same, -⟩ := gives_pure.1 targets_read
    obtain ⟨rfl, rfl⟩ := Prod.mk.inj same
    obtain ⟨rfl, rfl⟩ := exists_loop_of_loopOf made
    exact ⟨block_read, .direct bare⟩
  | false =>
    rw [bare] at targets_read
    obtain ⟨own, t₇, -, targets_read⟩ := gives_bind.1 targets_read
    obtain ⟨same, -⟩ := gives_pure.1 targets_read
    obtain ⟨rfl, rfl⟩ := Prod.mk.inj same
    obtain ⟨rfl, rfl⟩ := exists_loop_of_loopOf made
    exact ⟨block_read, .copied bare⟩

end Statement

/-! ### Spreading -/

/-- A value that is no reference and has a text: every stack shows the same one. -/
def Value.Shows (v : Value) (text : String) : Prop := ∀ s : Scopes, s.textOf v = .ok text

theorem forall₂_of_mapM {ε α β : Type} {f : α → Except ε β} {as : List α} {bs : List β}
    (h : as.mapM f = .ok bs) : List.Forall₂ (fun a b => f a = .ok b) as bs := by
  induction as generalizing bs with
  | nil =>
    obtain rfl := Except.ok.inj h
    exact .nil
  | cons a as ih =>
    rw [List.mapM_cons] at h
    obtain ⟨b, first, h⟩ := exists_of_bind_ok h
    obtain ⟨others, rest, h⟩ := exists_of_bind_ok h
    obtain rfl := Except.ok.inj h
    exact .cons first (ih rest)

namespace Scopes

variable {s : Scopes} {q : Path} {v whole : Value} {texts : List String}

theorem refFree_of_resolve_of_flat (flat : s.Flat) (h : s.resolve q = .ok v) : v.refFree = true := by
  obtain ⟨whole, stands, h⟩ := exists_of_bind_ok h
  obtain ⟨⟨n, bound⟩, found, stands⟩ := exists_of_bind_ok stands
  have free := refFree_of_derefWithin flat chainLimit (flat bound (holds_of_lookup found)) stands
  exact refFree_of_project q free h

theorem flat_of_refFree (free : v.refFree = true) : v.Flat := by
  intro e he
  cases v with
  | counter start stop offset => exact Value.flat_counter start stop offset e he
  | ref => cases free
  | struct base fields =>
    obtain rfl := List.mem_singleton.1 he
    rfl
  | list items => exact Value.isRef_of_refFree (Value.refFree_list.1 free e he)

/-- A path that is a variable stands for what its binding resolves to. -/
theorem exists_chain_of_bare (bare : q.isBare = true) (h : s.resolve q = .ok whole) :
    ∃ n v height, s.lookup q.var = .ok (n, v) ∧ Resolves s v whole height := by
  obtain ⟨start, stands, h⟩ := exists_of_bind_ok h
  obtain ⟨⟨n, v⟩, found, stands⟩ := exists_of_bind_ok stands
  obtain ⟨height, -, chain⟩ := exists_resolves_of_derefWithin stands
  cases q with
  | dot => cases bare
  | last y pick =>
    cases pick with
    | whole =>
      obtain rfl := Except.ok.inj h
      exact ⟨n, v, height, found, chain⟩
    | «at» | «by» => cases bare

/-- **Spreading shows the elements** of the value at the path. -/
theorem exists_shown_of_spread (flat : s.Flat) (h : s.spread q = .ok texts) :
    ∃ whole, s.resolve q = .ok whole ∧ whole.refFree = true ∧
      List.Forall₂ Value.Shows whole.elements texts := by
  obtain ⟨whole, resolved, h⟩ := exists_of_bind_ok h
  have free := refFree_of_resolve_of_flat flat resolved
  refine ⟨whole, resolved, free, ?_⟩
  cases whole with
  | counter start stop offset =>
    rw [Value.elements, List.forall₂_map_left_iff]
    exact (forall₂_of_mapM h).imp fun k text shown s' => shown
  | ref => cases free
  | struct base fields =>
    obtain rfl := Except.ok.inj h
    exact .cons (fun s => rfl) .nil
  | list items =>
    have plain : ∀ item ∈ items, item.isRef = false := flat_of_refFree free
    refine ((List.forall₂_and_left _ _).2 ⟨plain, forall₂_of_mapM h⟩).imp ?_
    rintro item text ⟨plain, shown⟩ s'
    rw [deref, derefWithin_of_isRef_eq_false plain] at shown
    cases item with
    | struct base fields => exact shown
    | ref => cases plain
    | counter | list => cases shown

end Scopes

/-! ### One variable -/

/-- The rounds of a loop over one variable, whatever its mode: one for each position. -/
theorem LoopMode.rounds_one (mode : LoopMode) (length : Nat) :
    mode.rounds [length] = (List.range length).map fun k => [k] := by
  cases mode with
  | group => simp [rounds]
  | combinations => simp [rounds, Machine.positions, List.map_eq_flatMap]

theorem LoopMode.bodyAt_one (mode : LoopMode) (start : Nat) : mode.bodyAt start 1 = start + 3 := by
  cases mode <;> rfl

namespace Machine

variable {κ ω : Type} {ex : Executor κ ω} {p : Program κ} {start : Nat} {s : Scopes} {w : ω}
  {mode : LoopMode} {x y : NameId} {c : κ} {place origin : Option String} {v whole : Value} {n height : Nat}
  {texts : List String}

/-- Between two moments the machine is at a position once for each text, in order, and an interpolation of
the variable is that text there. -/
def Recites (ex : Executor κ ω) (p : Program κ) (x : NameId) (position : Nat) (c : Config ω)
    (texts : List String) (d : Config ω) : Prop :=
  ∃ vs, Passes ex p position c vs d ∧
    List.Forall₂ (fun v text => Interpolation.eval v [.hole (.last x .whole)] = .ok text) vs texts

theorem Recites.after {position : Nat} {b c d : Config ω} (front : Passes ex p position b [] c)
    (recites : Recites ex p x position c texts d) : Recites ex p x position b texts d :=
  let ⟨vs, passes, shown⟩ := recites
  ⟨vs, front.trans passes, shown⟩

theorem eval_of_resolve {v : Scopes} {e : Value} {text : String} {q : Path} (shows : e.Shows text)
    (h : v.resolve q = .ok e) : Interpolation.eval v [.hole q] = .ok text := by
  have shown : v.resolveText q = .ok text := by
    rw [Scopes.resolveText, h]
    exact shows v
  show (([Part.hole q].mapM (Interpolation.evalPart v)) >>= _) = _
  rw [List.mapM_cons, List.mapM_nil, Interpolation.evalPart, shown]
  simp [bind, Except.bind, pure, Except.pure, String.join]

/-- **A loop over the elements of a variable** whose body is a command that leaves the scopes alone runs it
once for each element, and the loop variable shows the element there. -/
theorem recites_elements (watches : ex.Watches) (bound : s.lookup y = .ok (n, v))
    (low : height < chainLimit) (chain : Resolves s v whole height) (free : whole.refFree = true)
    (shown : List.Forall₂ Value.Shows whole.elements texts)
    (placed : Placed p start
      (Statement.codeAll [.loop mode [(x, .elements y)] [.single (.command c) place] origin] start))
    (steady : Steady ex p (start + 3) [⟨.command c, place⟩] ⟨start, s, w⟩) :
    Placed p (start + 3) [⟨.command c, place⟩] ∧ ∃ w', Recites ex p x (start + 3) ⟨start, s, w⟩ texts
      ⟨(start + (Statement.codeAll [.loop mode [(x, .elements y)] [.single (.command c) place]
        origin] start).length : Nat), s, w'⟩ := by
  simp only [Statement.codeAll, List.append_nil] at placed ⊢
  let course : Course := ⟨x, .elements y, fun k => .ref n y k, whole.elements⟩
  have spans : ∀ c ∈ [course], c.Spans s ([course].map Course.iter) :=
    List.forall_mem_singleton.2 (.elements bound chain low (Scopes.flat_of_refFree free))
  have enumerates : Enumerates ex p mode [course] [⟨.command c, place⟩] start
      (start + ((Statement.loop mode [(x, .elements y)] [.single (.command c) place]
        origin).code start).length) s w := by
    cases mode with
    | group => exact enumerates_group watches spans (by simp) (by simp) placed steady
    | combinations => exact enumerates_combinations watches spans (by simp) placed steady
  rw [Enumerates, List.length_singleton, mode.bodyAt_one] at enumerates
  obtain ⟨body_at, vs, w', passes, -, -, seen⟩ := enumerates
  refine ⟨body_at, w', vs, passes, ?_⟩
  rw [List.map_singleton, mode.rounds_one, List.forall₂_map_left_iff, List.forall₂_iff_get] at seen
  rw [List.forall₂_iff_get] at shown ⊢
  obtain ⟨rounds_eq, seen⟩ := seen
  obtain ⟨elements_eq, shown⟩ := shown
  have rounds_eq : whole.elements.length = vs.length := List.length_range.symm.trans rounds_eq
  refine ⟨rounds_eq.symm.trans elements_eq, fun k hv ht => ?_⟩
  -- the stack of a round shows the element that spreading shows
  have hk : k < whole.elements.length := rounds_eq ▸ hv
  obtain ⟨⟨e, at_k, resolved⟩, -⟩ := List.forall₂_cons.1 (seen k (List.length_range.symm ▸ hk) hv)
  rw [List.get_eq_getElem, List.getElem_range, List.getElem?_eq_getElem hk] at at_k
  obtain rfl := Option.some.inj at_k
  exact eval_of_resolve (shown k hk ht) resolved

theorem step_create {e : Expr} {u : Value} (line_eq : p[start]? = some ⟨.create y e none, origin⟩)
    (value : e.eval s = .ok u) (w : ω) :
    Step ex p ⟨start, s, w⟩ ⟨(start + 1 : Nat), s.bind y u, w⟩ := by
  refine ⟨_, line_eq, ?_⟩
  simp [step, plainStep, reading, value, Except.map]

end Machine

/-- References resolve by derivations that are lower than the limit, if they resolve. -/
def Scopes.Low (s : Scopes) : Prop :=
  ∀ v, s.Holds v → ∀ w height, Resolves s v w height → height < chainLimit

namespace Machine

open Statement

variable {κ ω : Type} {ex : Executor κ ω} {p : Program κ}

/-- An executor that counts the commands. -/
def commandCounter : Executor κ Nat where
  execute _ s count := (.ok (), s, count + 1)
  visit _ _ _ s count := (.ok (), s, count)
  finish s count := (.ok (), s, count)
  stop _ count := count

/-- Hosts with disks, and a loop variable that is at the second of them. -/
def hostWithDisks : Scopes :=
  [[(0, .list [.ofText "a", .struct "b" [(2, .list [.ofText "sda", .ofText "sdb"])]])], [(1, .ref 0 0 1)]]

/-- A loop over the disks of a host. -/
def walkOfDisks : List (Key × Document) :=
  [("for", .text "disk"), ("in", .text "host.disks"), ("do", .list [.mapping [("sleep", .int 0)]])]

/-- What it is read as: the disks are copied first. -/
def codeOfDisks : List (Statement Command) :=
  [.single (.create 3 (.copy (.dot 1 .whole (.last 2 .whole))) none) (some "commands[0].in"),
    .loop .combinations [(4, .elements 3)] [.single (.command (.sleep 0)) (some "commands[0].do[0]")]
      (some "commands[0]")]

end Machine

end Sweep
