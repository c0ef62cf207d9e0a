import Sweep.Machine
import Sweep.Proofs.Lookup

/-!
# Loop variables over the elements of a target

What a loop variable is bound to while its loop goes on, and what `begin_` and `proceed` do to it.

* `Value.elements` — what a loop walks over in a value that is no reference;
* `Traversal` — a family of values, one for each position over some elements: counters, or references
  to a binding of the stack;
* `Course` — a loop variable with its target, its cursor and its elements, and `Course.Spans`, which
  ties the three together on the stack on which the loop begins;
* `begin_of_nil`, `begin_of_pos`, `proceed_of_cursor` — the variable is bound to the cursor at 0, and
  moves from each position to the next one;
* `resolve_of_cursor` — at a position it resolves to the element of that position.
-/

namespace Sweep

namespace Value

/-- The elements that a loop walks over; a struct is its own only element. -/
def elements : Value → List Value
  | list items => items
  | counter start stop _ => (List.range (span start stop)).map fun k : Nat => .counter start stop k
  | v => [v]

theorem length_elements (v : Value) : v.elements.length = v.steps := by
  cases v with
  | counter => simp [elements, steps]
  | ref | struct | list => rfl

theorem select_of_elements {v e : Value} {k : Nat} (h : v.elements[k]? = some e) :
    v.select k = .ok e := by
  cases v with
  | list items =>
    have hk : items[k]? = some e := h
    simp [select, hk]
  | counter start stop offset =>
    obtain ⟨hk, rfl⟩ := List.getElem?_eq_some_iff.1 h
    simp only [elements, List.length_map, List.length_range] at hk
    simp [select, elements, hk]
  | ref | struct =>
    obtain ⟨hk, rfl⟩ := List.getElem?_eq_some_iff.1 h
    obtain rfl : k = 0 := Nat.lt_one_iff.1 hk
    rfl

/-- No element is a reference. -/
def Flat (v : Value) : Prop := ∀ e ∈ v.elements, e.isRef = false

theorem flat_counter (start stop offset : Int) : Flat (.counter start stop offset) := by
  intro e he
  obtain ⟨k, -, rfl⟩ := List.mem_map.1 he
  rfl

end Value

/-- `Traversal s cursor elements`: on the stack `s`, and on every taller one, `cursor k` stands at
element `k` of `elements`. -/
inductive Traversal (s : Scopes) : (Nat → Value) → List Value → Prop where
  | counter (start stop : Int) :
      Traversal s (fun k => .counter start stop k) (Value.counter start stop 0).elements
  | ref {n : Nat} {t : NameId} {v whole : Value} {height : Nat} (bound : s.binding n t = .ok v)
      (chain : Resolves s v whole height) (low : height < chainLimit) (flat : whole.Flat) :
      Traversal s (fun k => .ref n t k) whole.elements

theorem Traversal.append {s : Scopes} {cursor : Nat → Value} {elements : List Value}
    (h : Traversal s cursor elements) (extra : Scopes) : Traversal (s ++ extra) cursor elements := by
  cases h with
  | counter start stop => exact .counter start stop
  | ref bound chain low flat =>
    exact .ref (Scopes.binding_append bound extra) (chain.append extra) low flat

/-- All bindings of a stack are for some variables. -/
def Scopes.BindsOnly (names : List NameId) (s : Scopes) : Prop :=
  ∀ scope ∈ s, ∀ e ∈ scope, e.1 ∈ names

/-- A loop variable, its target, and what it is bound to at each position over the elements. -/
structure Course where
  iter : NameId
  target : Target
  cursor : Nat → Value
  elements : List Value

namespace Course

/-- The variable with its target, as a loop has it. -/
def pair (c : Course) : NameId × Target := (c.iter, c.target)

/-- How many elements there are. -/
def length (c : Course) : Nat := c.elements.length

/-- The binding of the variable at a position. -/
def at_ (k : Nat) (c : Course) : NameId × Value := (c.iter, c.cursor k)

/-- On a stack on which a loop over some variables begins, the target of one of them has some
elements.  The bounds of a range do not depend on the variables of the loop; any other target is
bound on the stack, to a value without references among its elements or to a chain of references to
such a value. -/
inductive Spans (s : Scopes) (iters : List NameId) : Course → Prop where
  | range {x : NameId} {lo hi : Bound} {start stop : Int}
      (bounds : ∀ inner : Scopes, inner.BindsOnly iters →
        lo.eval (s ++ inner) = .ok start ∧ hi.eval (s ++ inner) = .ok stop) :
      Spans s iters
        ⟨x, .range lo hi, fun k => .counter start stop k, (Value.counter start stop 0).elements⟩
  | elements {x t : NameId} {n : Nat} {v whole : Value} {height : Nat}
      (bound : s.lookup t = .ok (n, v)) (chain : Resolves s v whole height)
      (low : height < chainLimit) (flat : whole.Flat) :
      Spans s iters ⟨x, .elements t, fun k => .ref n t k, whole.elements⟩

theorem Spans.cursor {s : Scopes} {iters : List NameId} {c : Course} (h : c.Spans s iters) :
    Traversal s c.cursor c.elements := by
  cases h with
  | range => exact .counter _ _
  | elements bound chain low flat => exact .ref (Scopes.binding_of_lookup bound) chain low flat

end Course

namespace Scopes

theorem BindsOnly.mono {names more : List NameId} {s : Scopes} (h : s.BindsOnly names)
    (sub : ∀ x ∈ names, x ∈ more) : s.BindsOnly more :=
  fun scope hs e he => sub _ (h scope hs e he)

theorem BindsOnly.append {names : List NameId} {s inner : Scopes} (hs : s.BindsOnly names)
    (hi : inner.BindsOnly names) : (s ++ inner).BindsOnly names := by
  intro scope hscope
  rcases List.mem_append.1 hscope with h | h
  · exact hs scope h
  · exact hi scope h

theorem bindsOnly_singleton {names : List NameId} {scope : Scope} :
    BindsOnly names [scope] ↔ ∀ e ∈ scope, e.1 ∈ names := by
  simp [BindsOnly]

/-- A variable that is not among those that the inner scopes bind is found below them. -/
theorem lookup_of_bindsOnly {names : List NameId} {s inner : Scopes} {t : NameId}
    (h : inner.BindsOnly names) (ht : t ∉ names) : (s ++ inner).lookup t = s.lookup t := by
  refine lookup_append fun scope hs => Assoc.get?_eq_none fun e he heq => ht ?_
  rw [← heq]
  exact h scope hs e he

end Scopes

/-- The executor accepts every position of a loop variable over a value without references among its
elements, and leaves the scopes alone. -/
def Executor.Watches {κ ω : Type} (ex : Executor κ ω) : Prop :=
  ∀ x position v s w, v.Flat → ∃ w', ex.visit x position v s w = (.ok (), s, w')

namespace Machine

variable {κ ω : Type} {ex : Executor κ ω}

theorem visiting_of_watches (watches : ex.Watches) {v : Value} (flat : v.Flat) (x : NameId)
    (position : Int) (s : Scopes) (w : ω) :
    ∃ w', visiting ex x position v s w = (.ok true, s, w') := by
  obtain ⟨w', hvisit⟩ := watches x position v s w flat
  exact ⟨w', by rw [visiting, hvisit]⟩

/-- A reference to a binding, followed to the value that a loop walks over. -/
theorem whole_of_binding {s : Scopes} {n : Nat} {t : NameId} {v whole : Value} {height : Nat}
    (bound : s.binding n t = .ok v) (chain : Resolves s v whole height)
    (low : height < chainLimit) :
    (do s.deref (← s.binding n t) : Except ReadError Value) = .ok whole := by
  rw [bound]
  exact Scopes.deref_of_resolves chain (Nat.le_of_lt low)

/-! ### Beginning -/

section Begin

variable {s inner : Scopes} {iters earlier : List NameId} {c : Course}
  (spans : c.Spans s iters) (sub : ∀ x ∈ earlier, x ∈ iters)
  (fresh : ∀ x ∈ earlier, c.target ≠ .elements x)

include spans sub fresh

/-- A target without elements: nothing is bound. -/
theorem begin_of_nil (binds : inner.BindsOnly earlier) (empty : c.length = 0) (w : ω) :
    begin_ ex c.iter (s ++ inner) w c.target = (.ok false, s ++ inner, w) := by
  cases spans with
  | @range x lo hi start stop bounds =>
    obtain ⟨hlo, hhi⟩ := bounds inner (binds.mono sub)
    have hspan : Value.span start stop = 0 := by
      simpa [Course.length, Value.elements] using empty
    simp [begin_, hlo, hhi, reading, hspan, bind, Except.bind, pure, Except.pure]
  | @elements x t n v whole height bound chain low flat =>
    have hlookup : (s ++ inner).lookup t = .ok (n, v) :=
      (Scopes.lookup_of_bindsOnly binds fun ht => fresh t ht rfl).trans bound
    have hderef : (s ++ inner).deref v = .ok whole :=
      Scopes.deref_of_resolves (chain.append inner) (Nat.le_of_lt low)
    have hsteps : whole.steps = 0 := (Value.length_elements whole).symm.trans empty
    simp [begin_, hlookup, hderef, reading, hsteps, bind, Except.bind, pure, Except.pure]

/-- A target with elements: the variable is bound to the first position, in the innermost scope. -/
theorem begin_of_pos (watches : ex.Watches) {scope : Scope} (binds : inner.BindsOnly earlier)
    (own : ∀ e ∈ scope, e.1 ∈ earlier) (pos : 0 < c.length) (w : ω) :
    ∃ w', begin_ ex c.iter (s ++ inner ++ [scope]) w c.target
      = (.ok true, s ++ inner ++ [Assoc.set c.iter (c.cursor 0) scope], w') := by
  have all : (inner ++ [scope]).BindsOnly earlier :=
    binds.append (Scopes.bindsOnly_singleton.2 own)
  cases spans with
  | @range x lo hi start stop bounds =>
    obtain ⟨hlo, hhi⟩ := bounds (inner ++ [scope]) (all.mono sub)
    rw [← List.append_assoc] at hlo hhi
    have hspan : 0 < Value.span start stop := by
      simpa [Course.length, Value.elements] using pos
    obtain ⟨w', hvisit⟩ := visiting_of_watches watches (Value.flat_counter start stop 0) x 0
      (s ++ inner ++ [Assoc.set x (.counter start stop 0) scope]) w
    refine ⟨w', ?_⟩
    simp only [begin_, hlo, hhi, reading, bind, Except.bind, pure, Except.pure, hspan, if_true,
      Scopes.bind_snoc]
    exact hvisit
  | @elements x t n v whole height bound chain low flat =>
    have hlookup : (s ++ inner ++ [scope]).lookup t = .ok (n, v) := by
      rw [List.append_assoc]
      exact (Scopes.lookup_of_bindsOnly all fun ht => fresh t ht rfl).trans bound
    have hderef : (s ++ inner ++ [scope]).deref v = .ok whole := by
      rw [List.append_assoc]
      exact Scopes.deref_of_resolves (chain.append _) (Nat.le_of_lt low)
    have hsteps : whole.steps ≠ 0 := by
      rw [← Value.length_elements]
      exact Nat.ne_of_gt pos
    -- the reference is bound in a scope of its own number, so its target is found where it was
    have hwhole := whole_of_binding
      (Scopes.binding_append (Scopes.binding_of_lookup bound)
        (inner ++ [Assoc.set x (.ref n t 0) scope])) (chain.append _) low
    rw [← List.append_assoc] at hwhole
    obtain ⟨w', hvisit⟩ := visiting_of_watches watches flat x 0
      (s ++ inner ++ [Assoc.set x (.ref n t 0) scope]) w
    refine ⟨w', ?_⟩
    simp only [begin_, reading, bind, Except.bind, pure, Except.pure, hlookup, hderef, hsteps,
      if_false, Scopes.bind_snoc] at hwhole ⊢
    rw [hwhole]
    exact hvisit

/-- In a scope of other variables the first position stands behind their bindings. -/
theorem begin_of_row (watches : ex.Watches) (front : Scope) (binds : inner.BindsOnly earlier)
    (own : ∀ e ∈ front, e.1 ∈ earlier) (new : ∀ e ∈ front, e.1 ≠ c.iter) (pos : 0 < c.length)
    (w : ω) :
    ∃ w', begin_ ex c.iter (s ++ inner ++ [front]) w c.target
      = (.ok true, s ++ inner ++ [front ++ [c.at_ 0]], w') := by
  obtain ⟨w', result⟩ := begin_of_pos spans sub fresh watches binds own pos w
  have hset : Assoc.set c.iter (c.cursor 0) front = front ++ [c.at_ 0] := by
    rw [← List.append_nil front, Assoc.set_append new]
    simp [Assoc.set, Course.at_]
  rw [hset] at result
  exact ⟨w', result⟩

end Begin

/-! ### Moving on -/

/-- A variable at a position moves to the next one, and says whether there is an element. -/
theorem proceed_of_cursor (watches : ex.Watches) {s : Scopes} {cursor : Nat → Value}
    {elements : List Value} (cur : Traversal s cursor elements) {x : NameId} {n k : Nat}
    (hx : s.lookup x = .ok (n, cursor k)) (w : ω) :
    ∃ w', proceed ex x s w
      = (.ok (decide (k + 1 < elements.length)), s.write n x (cursor (k + 1)), w') := by
  cases cur with
  | counter start stop =>
    have hlength : (Value.counter start stop 0).elements.length = Value.span start stop :=
      Value.length_elements _
    obtain ⟨w', hvisit⟩ := visiting_of_watches watches
      (Value.flat_counter start stop (k + 1)) x (k + 1) (s.write n x (.counter start stop (k + 1))) w
    rw [proceed, hx, reading, hlength]
    by_cases more : k + 1 < Value.span start stop
    · refine ⟨w', ?_⟩
      have more' : (k : Int) + 1 < Value.span start stop := by omega
      simp only [more, more', if_true, decide_true]
      exact hvisit
    · refine ⟨w, ?_⟩
      have more' : ¬ (k : Int) + 1 < Value.span start stop := by omega
      simp only [more, more', if_false, decide_false]
      rfl
  | @ref m t v whole height bound chain low flat =>
    have hwhole := whole_of_binding bound chain low
    obtain ⟨w', hvisit⟩ := visiting_of_watches watches flat x (k + 1)
      (s.write n x (.ref m t (k + 1))) w
    rw [proceed, hx, reading, Value.length_elements]
    dsimp only
    rw [hwhole, reading]
    by_cases more : k + 1 < whole.steps
    · refine ⟨w', ?_⟩
      have more' : (k : Int) + 1 < whole.steps := by omega
      simp only [more, more', if_true, decide_true]
      exact hvisit
    · refine ⟨w, ?_⟩
      have more' : ¬ (k : Int) + 1 < whole.steps := by omega
      simp only [more, more', if_false, decide_false]
      rfl

/-- In a scope of several variables only the one that moves is written. -/
theorem proceed_of_row (watches : ex.Watches) {s : Scopes} {c : Course} (front back : Scope) {k : Nat}
    (cur : Traversal s c.cursor c.elements) (new : ∀ e ∈ front, e.1 ≠ c.iter) (w : ω) :
    ∃ w', proceed ex c.iter (s ++ [front ++ c.at_ k :: back]) w
      = (.ok (decide (k + 1 < c.length)), s ++ [front ++ c.at_ (k + 1) :: back], w') := by
  have hget : Assoc.get? c.iter (front ++ c.at_ k :: back) = some (c.cursor k) := by
    rw [Assoc.get?_append, Assoc.get?_eq_none new, Option.none_or, Course.at_, Assoc.get?, if_pos rfl]
  have hlookup : (s ++ [front ++ c.at_ k :: back]).lookup c.iter = .ok (s.length, c.cursor k) := by
    rw [Scopes.lookup_snoc, hget]
  obtain ⟨w', result⟩ := proceed_of_cursor watches (cur.append _) hlookup w
  refine ⟨w', result.trans ?_⟩
  rw [Scopes.write_snoc, Assoc.set_append new, Course.at_, Assoc.set, if_pos rfl]
  rfl

/-- A variable at a position resolves to the element of that position. -/
theorem resolve_of_cursor {s : Scopes} {cursor : Nat → Value} {elements : List Value}
    (cur : Traversal s cursor elements) {x : NameId} {n k : Nat} {e : Value}
    (hx : s.lookup x = .ok (n, cursor k)) (he : elements[k]? = some e) :
    s.resolve (.last x .whole) = .ok e := by
  have hderef : s.deref (cursor k) = .ok e := by
    cases cur with
    | counter start stop =>
      obtain ⟨hk, rfl⟩ := List.getElem?_eq_some_iff.1 he
      simp [Value.elements, Scopes.deref, Scopes.derefWithin]
    | @ref m t v whole height bound chain low flat =>
      have plain : e.isRef = false := flat e (List.mem_of_getElem? he)
      refine Scopes.deref_of_resolves
        (.ref bound chain (Value.select_of_elements he) (.plain plain)) ?_
      rw [Nat.max_eq_left (Nat.zero_le _)]
      exact low
  show (do s.project (.last x .whole) (← s.valueOf x)) = _
  rw [Scopes.valueOf, hx]
  show (s.deref (cursor k) >>= s.project (.last x .whole)) = _
  rw [hderef]
  rfl

end Machine

end Sweep
