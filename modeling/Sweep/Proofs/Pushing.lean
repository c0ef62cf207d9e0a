import Sweep.Proofs.Chaining
import Sweep.Proofs.Settling

/-!
# Pushing through loop variables

A list that is pushed to may stand several elements deep in a variable of an outer scope, and be known
only through loop variables over loop variables.  On a stack on which references are never parts of
other values every step of such a chain selects an element of a list that is itself stored somewhere,
so the end of the chain has a place, and pushing changes the stack there and nowhere else.

* `Value.at?`, `Value.Exchanged` — what stands at positions inside lists, and two values that differ
  only there;
* `Reaches` — a chain of references that leads to a place, with `exists_reaches` and
  `Reaches.locateWithin`: every chain that ends at a list does, and the machine finds the place;
* `appendAt_eq_write` — the one binding that changes;
* `Reaches.appendAt` — afterwards the same chain leads to the list that was pushed to;
* `Refused`, `exists_refused` — there is no other way to fail;
* `Pushed` — what a push does to the stack.

The main statement is `pushTo_exact`.
-/

namespace Sweep

namespace Value

variable {item v w : Value}

/-! ### Positions inside lists -/

/-- What stands at positions inside lists. -/
def at? : List Nat → Value → Option Value
  | [], v => some v
  | i :: rest, .list items => items[i]?.bind (at? rest)
  | _ :: _, _ => none

theorem at?_append (front back : List Nat) (v : Value) :
    at? (front ++ back) v = (at? front v).bind (at? back) := by
  induction front generalizing v with
  | nil => rfl
  | cons i rest ih =>
    cases v with
    | list items =>
      rw [List.cons_append, at?, at?]
      cases items[i]? with
      | none => rfl
      | some u => exact ih u
    | counter | ref | struct => rfl

/-- `Exchanged old new positions before after`: the value `after` is the value `before`, but for the
positions, where `new` stands in place of `old`. -/
inductive Exchanged (old new : Value) : List Nat → Value → Value → Prop where
  | here : Exchanged old new [] old new
  | inside {rest : List Nat} {before after : Value} (front back : List Value)
      (element : Exchanged old new rest before after) :
      Exchanged old new (front.length :: rest) (.list (front ++ before :: back))
        (.list (front ++ after :: back))

/-- **Appending to a list that stands at positions changes nothing around it.** -/
theorem exchanged_appendAt (item : Value) {positions : List Nat} {items : List Value}
    (h : at? positions v = some (.list items)) :
    Exchanged (.list items) (.list (items ++ [item])) positions v (appendAt item positions v) := by
  induction positions generalizing v with
  | nil =>
    obtain rfl := Option.some.inj h
    exact .here
  | cons i rest ih =>
    cases v with
    | counter | ref | struct => cases h
    | list elements =>
      obtain ⟨u, hu, hrest⟩ := Option.bind_eq_some_iff.1 h
      obtain ⟨hi, rfl⟩ := List.getElem?_eq_some_iff.1 hu
      have parts : elements = elements.take i ++ elements[i] :: elements.drop (i + 1) := by
        rw [← List.drop_eq_getElem_cons hi, List.take_append_drop]
      have changed : elements.modify i (appendAt item rest)
          = elements.take i ++ appendAt item rest elements[i] :: elements.drop (i + 1) :=
        List.modify_eq_take_cons_drop hi
      have step := Exchanged.inside (elements.take i) (elements.drop (i + 1)) (ih hrest)
      rw [List.length_take_of_le (Nat.le_of_lt hi), ← parts, ← changed] at step
      exact step

theorem isRef_appendAt (item : Value) (positions : List Nat) (h : v.isRef = false) :
    (appendAt item positions v).isRef = false := by
  cases v with
  | ref => cases h
  | counter | struct => cases positions <;> rfl
  | list => cases positions <;> rfl

end Value

namespace Scopes

variable {s s' : Scopes} {v w : Value} {x y : NameId} {n m height : Nat} {place : Place}
  {items : List Value}

/-! ### Chains that lead to a place -/

/-- `Reaches s n x place w height`: the binding of `x` in scope `n` leads, reference by reference and
each time to an element of a list, to the value `w`, which is stored at a place. -/
inductive Reaches (s : Scopes) : Nat → NameId → Place → Value → Nat → Prop where
  | here {n : Nat} {x : NameId} {v : Value} (bound_eq : s.binding n x = .ok v)
      (plain : v.isRef = false) : Reaches s n x ⟨n, x, []⟩ v 0
  | element {n m offset : Nat} {x y : NameId} {place : Place} {items : List Value} {w : Value}
      {height : Nat} (bound_eq : s.binding n x = .ok (.ref m y offset))
      (owner : Reaches s m y place (.list items) height) (part_eq : items[offset]? = some w) :
      Reaches s n x (place.element offset) w (height + 1)

/-- Only a list has an element that is a list. -/
theorem exists_of_select_list {whole : Value} {offset : Int} (free : whole.refFree = true)
    (h : whole.select offset = .ok (.list items)) :
    ∃ (elements : List Value) (i : Nat), whole = .list elements ∧ offset = i ∧
      elements[i]? = some (.list items) := by
  cases whole with
  | ref => cases free
  | counter | struct =>
    simp only [Value.select] at h
    split at h <;> cases h
  | list elements =>
    simp only [Value.select] at h
    split at h
    · next u hu =>
      obtain rfl := Except.ok.inj h
      split at hu
      · next nonneg =>
        exact ⟨elements, offset.toNat, rfl, (Int.toNat_of_nonneg nonneg).symm, hu⟩
      · cases hu
    · cases h

theorem refFree_of_resolves (flat : s.Flat) (hv : s.Holds v) (h : Resolves s v w height) :
    w.refFree = true :=
  refFree_of_derefWithin flat height (flat v hv) (derefWithin_of_resolves h (Nat.le_refl height))

/-- **A chain that ends at a list leads to a place**, by induction over the rules of resolution.  What
a reference selects has no references, so only its target goes on. -/
theorem exists_reaches (flat : s.Flat) {bound : Value} (hbound : s.binding n x = .ok bound)
    (h : Resolves s bound w height) (isList : w = .list items) :
    ∃ place, Reaches s n x place w height := by
  induction h generalizing n x items with
  | plain hv => exact ⟨_, .here hbound hv⟩
  | @ref scope target offset bound' whole part w m k bound_eq target_resolves part_eq part_resolves
      ih _ =>
    have free_whole := refFree_of_resolves flat (holds_of_binding bound_eq) target_resolves
    have free_part : part.refFree = true := by
      have grounded := grounded_select free_whole offset
      rwa [part_eq] at grounded
    have plain := Resolves.plain (s := s) (Value.isRef_of_refFree free_part)
    obtain ⟨rfl, rfl⟩ := part_resolves.unique plain
    subst isList
    obtain ⟨elements, i, rfl, rfl, selected⟩ := exists_of_select_list free_whole part_eq
    cases scope with
    | negSucc => cases bound_eq
    | ofNat m' =>
      obtain ⟨place, owner⟩ := ih bound_eq rfl
      rw [Nat.max_eq_left (Nat.zero_le m)]
      exact ⟨place.element i, .element hbound owner selected⟩

namespace Reaches

/-- What is reached is stored where it is said to be, in a binding that is no reference. -/
theorem stored (h : Reaches s n x place w height) :
    ∃ before, s.binding place.scope place.var = .ok before ∧ before.isRef = false ∧
      before.at? place.positions = some w := by
  induction h with
  | here bound_eq plain => exact ⟨_, bound_eq, plain, rfl⟩
  | @element n m offset x y place items w height bound_eq owner part_eq ih =>
    obtain ⟨before, hbefore, plain, inside⟩ := ih
    refine ⟨before, hbefore, plain, ?_⟩
    show before.at? (place.positions ++ [offset]) = some w
    rw [Value.at?_append, inside]
    show items[offset]?.bind (Value.at? []) = some w
    rw [part_eq]
    rfl

theorem select_eq {offset : Nat} (h : items[offset]? = some w) :
    (Value.list items).select offset = .ok w := by
  simp [Value.select, h]

/-- A chain to a place is a derivation by the rules of resolution, of the same height. -/
theorem resolves (h : Reaches s n x place w height) (plain : w.isRef = false) :
    ∃ bound, s.binding n x = .ok bound ∧ Resolves s bound w height := by
  induction h with
  | here bound_eq plain => exact ⟨_, bound_eq, .plain plain⟩
  | element bound_eq owner part_eq ih =>
    obtain ⟨bound, hbound, target_resolves⟩ := ih rfl
    refine ⟨_, bound_eq, ?_⟩
    have found := Resolves.ref hbound target_resolves (select_eq part_eq) (.plain plain)
    rwa [Nat.max_eq_left (Nat.zero_le _)] at found

/-- The machine finds the place, if its budget covers the height. -/
theorem locateWithin (h : Reaches s n x place w height) (plain : w.isRef = false) {budget : Nat}
    (enough : height ≤ budget) :
    ∃ bound, s.binding n x = .ok bound ∧
      s.locateWithin budget (some ⟨n, x, []⟩) bound = .ok (some place, w) := by
  have ends {v : Value} (hv : v.isRef = false) (budget : Nat) (p : Option Place) :
      s.locateWithin budget p v = .ok (p, v) := by
    cases v with
    | ref => cases hv
    | counter | struct | list => cases budget <;> rfl
  induction h generalizing budget with
  | here bound_eq plain => exact ⟨_, bound_eq, ends plain budget _⟩
  | @element n m offset x y place items w height bound_eq owner part_eq ih =>
    obtain ⟨rest, rfl⟩ : ∃ rest, budget = rest + 1 := ⟨budget - 1, by omega⟩
    obtain ⟨bound, hbound, hlocate⟩ := ih rfl (show height ≤ rest by omega)
    refine ⟨_, bound_eq, ?_⟩
    rw [Scopes.locateWithin, hbound]
    show (s.locateWithin rest (some ⟨m, y, []⟩) bound >>= _) = _
    rw [hlocate]
    show ((Value.list items).select offset >>= _) = _
    rw [select_eq part_eq]
    exact ends plain rest _

end Reaches

/-! ### The binding that changes -/

theorem binding_write_self (h : n < s.length) (x : NameId) (v : Value) :
    (s.write n x v).binding n x = .ok v := by
  refine binding_iff.2 ⟨Assoc.set x v s[n], ?_, ?_⟩
  · rw [write, List.getElem?_modify_eq, List.getElem?_eq_getElem h]
    rfl
  · rw [Assoc.get?_set, if_pos rfl]

theorem binding_write_of_ne {k : Int} (h : ¬ (k = n ∧ y = x)) (v : Value) :
    (s.write n x v).binding k y = s.binding k y := by
  cases k with
  | negSucc => rfl
  | ofNat k =>
    show (s.write n x v).binding (k : Nat) y = s.binding (k : Nat) y
    rw [binding_ofNat, binding_ofNat, write]
    by_cases same : n = k
    · have other : ¬ y = x := fun hy => h ⟨by rw [same]; rfl, hy⟩
      subst same
      rw [List.getElem?_modify_eq]
      cases s[n]? with
      | none => rfl
      | some scope => simp [Assoc.get?_set, other]
    · rw [List.getElem?_modify_ne _ _ same]

/-- Appending at a place rewrites the binding in which the place is. -/
theorem appendAt_eq_write {before : Value} (h : s.binding place.scope place.var = .ok before)
    (v : Value) :
    s.appendAt place v
      = s.write place.scope place.var (Value.appendAt v place.positions before) := by
  obtain ⟨scope, hs, hget⟩ := binding_iff.1 h
  apply List.ext_getElem?
  intro k
  rw [appendAt, write]
  by_cases same : place.scope = k
  · subst same
    rw [List.getElem?_modify_eq, List.getElem?_modify_eq, hs]
    simp [hget]
  · rw [List.getElem?_modify_ne _ _ same, List.getElem?_modify_ne _ _ same]

theorem fst_findFrom_cons (x : NameId) (start : Nat) (scope : Scope) (inner : Scopes) :
    (findFrom x start (scope :: inner)).map Prod.fst
      = ((findFrom x (start + 1) inner).map Prod.fst).or
          (if (Assoc.get? x scope).isSome then some start else none) := by
  rw [findFrom]
  cases findFrom x (start + 1) inner with
  | some found => rfl
  | none => cases Assoc.get? x scope <;> rfl

/-- In which scope a variable is found depends only on which scopes bind it. -/
theorem fst_findFrom_modify {change : Scope → Scope}
    (keeps : ∀ scope, s[n]? = some scope →
      (Assoc.get? x (change scope)).isSome = (Assoc.get? x scope).isSome) (start : Nat) :
    (findFrom x start (s.modify n change)).map Prod.fst = (findFrom x start s).map Prod.fst := by
  induction s generalizing start n with
  | nil => cases n <;> rfl
  | cons scope inner ih =>
    cases n with
    | zero =>
      rw [List.modify_zero_cons, fst_findFrom_cons, fst_findFrom_cons, keeps scope rfl]
    | succ n =>
      rw [List.modify_succ_cons, fst_findFrom_cons, fst_findFrom_cons, ih keeps]

/-- Writing over a binding that exists leaves every variable to be found where it was. -/
theorem lookup_write (old : s.Binds n x) (h : s.lookup y = .ok (m, w)) {u : Value}
    (hu : (s.write n x v).binding m y = .ok u) : (s.write n x v).lookup y = .ok (m, u) := by
  have found : (findFrom y 0 (s.write n x v)).map Prod.fst = some m := by
    rw [write, fst_findFrom_modify]
    · rw [lookup] at h
      cases hfound : findFrom y 0 s with
      | none =>
        rw [hfound] at h
        cases h
      | some found =>
        rw [hfound] at h
        rw [Except.ok.inj h]
        rfl
    · intro scope hs
      rw [Assoc.get?_set]
      split
      · next same =>
        obtain ⟨owner, howner, hget⟩ := binds_iff.1 old
        obtain rfl := Option.some.inj (hs.symm.trans howner)
        rw [same, hget]
        rfl
      · rfl
  obtain ⟨⟨m', u'⟩, hfound, rfl⟩ := Option.map_eq_some_iff.1 found
  have hlookup : (s.write n x v).lookup y = .ok (m', u') := by rw [lookup, hfound]
  rw [hlookup]
  obtain rfl := Except.ok.inj ((binding_of_lookup hlookup).symm.trans hu)
  rfl

/-! ### After a push -/

/-- **The same chain leads to the same place**, and to what has become of the value there: the lists on
the way are changed at the element that comes next.  By induction over the chain. -/
theorem Reaches.appendAt (h : Reaches s n x place w height) (plain : w.isRef = false)
    (rest : List Nat) (v : Value) :
    Reaches (s.appendAt ⟨place.scope, place.var, place.positions ++ rest⟩ v) n x place
      (Value.appendAt v rest w) height := by
  induction h generalizing rest with
  | @here n x w bound_eq _ =>
    refine .here ?_ (Value.isRef_appendAt v rest plain)
    have old : s.binding (⟨n, x, rest⟩ : Place).scope x = .ok w := bound_eq
    show (s.appendAt ⟨n, x, rest⟩ v).binding n x = _
    rw [appendAt_eq_write old]
    exact binding_write_self (lt_length_of_binds ⟨w, bound_eq⟩) x _
  | @element n m offset x y place items w height bound_eq owner part_eq ih =>
    have positions : (place.element offset).positions ++ rest = place.positions ++ offset :: rest := by
      simp [Place.element]
    rw [positions]
    refine .element ?_ (ih rfl (offset :: rest)) ?_
    · obtain ⟨before, hbefore, stays, -⟩ := owner.stored
      show (s.appendAt ⟨place.scope, place.var, place.positions ++ offset :: rest⟩ v).binding n x = _
      have old : s.binding
          (⟨place.scope, place.var, place.positions ++ offset :: rest⟩ : Place).scope place.var
            = .ok before := hbefore
      rw [appendAt_eq_write old, binding_write_of_ne ?_, bound_eq]
      -- the chain goes through references, and the place is in a binding that is none
      rintro ⟨hn, rfl⟩
      rw [← hn, bound_eq] at hbefore
      obtain rfl := Except.ok.inj hbefore
      cases stays
    · rw [List.getElem?_modify_eq, part_eq]
      rfl

theorem Flat.write (flat : s.Flat) (hv : v.isRef = true ∨ v.refFree = true) (n : Nat) (x : NameId) :
    (s.write n x v).Flat := by
  rintro w ⟨scope, hscope, y, hmem⟩
  obtain ⟨k, hk⟩ := List.mem_iff_getElem?.1 hscope
  rw [Scopes.write, List.getElem?_modify] at hk
  obtain ⟨old, hold, rfl⟩ := Option.map_eq_some_iff.1 hk
  have held (e : NameId × Value) (he : e ∈ old) : e.2.isRef = true ∨ e.2.refFree = true :=
    flat e.2 ⟨old, List.mem_of_getElem? hold, e.1, he⟩
  split at hmem
  · rcases Assoc.mem_set hmem with written | kept
    · obtain ⟨-, rfl⟩ := Prod.mk.inj written
      exact hv
    · exact held _ kept
  · exact held _ hmem

/-- What a push does to a stack: in the binding of a place a list has one item more, and nothing else
is different. -/
structure Pushed (s s' : Scopes) (place : Place) (items : List Value) (v : Value) : Prop where
  inside : ∃ before after, s.binding place.scope place.var = .ok before ∧
    s'.binding place.scope place.var = .ok after ∧
    Value.Exchanged (.list items) (.list (items ++ [v])) place.positions before after
  outside : ∀ (k : Int) y, ¬ (k = place.scope ∧ y = place.var) → s'.binding k y = s.binding k y
  depth : s'.length = s.length

theorem Reaches.pushed (h : Reaches s n x place (.list items) height) (v : Value) :
    Pushed s (s.appendAt place v) place items v := by
  obtain ⟨before, hbefore, -, stands⟩ := h.stored
  rw [appendAt_eq_write hbefore]
  refine ⟨?_, fun k y other => binding_write_of_ne other _, by simp [write]⟩
  exact ⟨before, _, hbefore, binding_write_self (lt_length_of_binds ⟨before, hbefore⟩) _ _,
    Value.exchanged_appendAt v stands⟩

theorem Reaches.flat_appendAt (h : Reaches s n x place (.list items) height) (flat : s.Flat)
    (free : v.refFree = true) : (s.appendAt place v).Flat := by
  obtain ⟨before, hbefore, stays, -⟩ := h.stored
  have free_before : before.refFree = true := by
    rcases flat before (holds_of_binding hbefore) with isRef | free
    · rw [stays] at isRef
      cases isRef
    · exact free
  rw [appendAt_eq_write hbefore]
  exact flat.write (.inr (Value.structural_refFree.appendAt free free_before _)) _ _

/-- What a variable stands for after a push through it. -/
theorem Reaches.valueOf_appendAt (h : Reaches s n x place (.list items) height)
    (enough : height ≤ chainLimit) {bound : Value} (hlookup : s.lookup x = .ok (n, bound))
    (v : Value) : (s.appendAt place v).valueOf x = .ok (.list (items ++ [v])) := by
  have after := h.appendAt rfl [] v
  rw [List.append_nil] at after
  obtain ⟨u, hu, resolves⟩ := after.resolves rfl
  obtain ⟨before, hbefore, -⟩ := h.stored
  have found : (s.appendAt place v).lookup x = .ok (n, u) := by
    change (s.appendAt place v).binding n x = .ok u at hu
    rw [appendAt_eq_write hbefore] at hu ⊢
    exact lookup_write ⟨before, hbefore⟩ hlookup hu
  rw [valueOf, found]
  exact deref_of_resolves resolves enough

/-! ### When there is no list to push to -/

/-- The machine finds a place for just what it finds by following references. -/
theorem snd_locateWithin (s : Scopes) (budget : Nat) (p : Option Place) (v : Value) :
    (s.locateWithin budget p v).map Prod.snd = s.derefWithin budget v := by
  induction budget generalizing p v with
  | zero => cases v <;> rfl
  | succ budget ih =>
    cases v with
    | counter | struct | list => rfl
    | ref scope target offset =>
      rw [locateWithin, derefWithin]
      cases s.binding scope target with
      | error e => rfl
      | ok bound =>
        show (s.locateWithin budget _ bound >>= _).map Prod.snd = (s.derefWithin budget bound >>= _)
        rw [← ih (some ⟨scope.toNat, target, []⟩) bound]
        cases s.locateWithin budget (some ⟨scope.toNat, target, []⟩) bound with
        | error e => rfl
        | ok found =>
          obtain ⟨place, whole⟩ := found
          show (whole.select offset >>= _).map Prod.snd = (whole.select offset >>= _)
          cases whole.select offset with
          | error e => rfl
          | ok part => exact ih _ part

/-- Why a push is refused: the variable is no list, or its chain of references breaks, and then a number in
the wording of that may have too many digits to be written. -/
def Refused : ReadError → Prop
  | .access e => e.family = .notAList ∨ Broken e
  | .unwritable => True

/-- The chain of references of a variable comes to an index that leads nowhere, and of which nothing can be
told. -/
def MissesFrom (s : Scopes) (x : NameId) : Prop :=
  ∃ n bound whole i, s.lookup x = .ok (n, bound) ∧ Misses s 64 bound whole i

theorem lookup_error_eq {e : ReadError} (h : s.lookup x = .error e) : e = .access (.missingVariable x) := by
  rw [lookup] at h
  split at h
  · cases h
  · exact (Except.error.inj h).symm

theorem refused_of_thwarted {e : ReadError} (h : Thwarted e) : Refused e := by
  cases e with
  | access e => exact .inr h
  | unwritable => exact trivial

/-- **A push that has no list to go to is refused.** -/
theorem exists_refused (v : Value)
    (h : ¬ ∃ n bound items height, s.lookup x = .ok (n, bound) ∧
      Resolves s bound (.list items) height ∧ height ≤ chainLimit) :
    ∃ e, Refused e ∧ s.pushTo x v = .error e ∧ (e = .unwritable ↔ MissesFrom s x) := by
  rw [pushTo]
  cases hlookup : s.lookup x with
  | error e =>
    obtain rfl := lookup_error_eq hlookup
    refine ⟨.access (.missingVariable x), .inr (.inl rfl), rfl, nofun,
      fun ⟨n, bound, whole, i, found, _⟩ => ?_⟩
    rw [hlookup] at found
    cases found
  | ok found =>
    obtain ⟨n, bound⟩ := found
    have same := snd_locateWithin s chainLimit (some ⟨n, x, []⟩) bound
    have misses : MissesFrom s x ↔ s.derefWithin chainLimit bound = .error .unwritable := by
      rw [derefWithin_unwritable_iff]
      refine ⟨fun ⟨n', bound', whole, i, found, missed⟩ => ?_,
        fun ⟨whole, i, missed⟩ => ⟨n, bound, whole, i, hlookup, missed⟩⟩
      obtain ⟨rfl, rfl⟩ := Prod.mk.inj (Except.ok.inj (hlookup.symm.trans found))
      exact ⟨whole, i, missed⟩
    rw [misses]
    show ∃ e, Refused e ∧ (s.locateWithin chainLimit (some ⟨n, x, []⟩) bound >>= _) = .error e ∧ _
    cases hlocate : s.locateWithin chainLimit (some ⟨n, x, []⟩) bound with
    | error e =>
      rw [hlocate] at same
      refine ⟨e, refused_of_thwarted (thwarted_of_derefWithin same.symm), rfl, ?_⟩
      rw [← same]
      exact ⟨congrArg Except.error, Except.error.inj⟩
    | ok located =>
      obtain ⟨place, w⟩ := located
      rw [hlocate] at same
      rw [← same]
      cases w with
      | counter | ref | struct =>
        cases place <;> exact ⟨.access (.variableNotList x), .inl rfl, rfl, nofun, nofun⟩
      | list items =>
        obtain ⟨height, enough, resolves⟩ := exists_resolves_of_derefWithin same.symm
        exact absurd ⟨n, bound, items, height, hlookup, resolves, enough⟩ h

/-! ### Pushing -/

/-- **A push changes the list where it is stored, and nothing else.**  On a stack on which references
are never parts of other values, take a value without references and a variable.  If the variable
resolves to a list, by a derivation that is not higher than 64, its chain of references leads to a
place, the list there has the value as one item more, and the variable stands for it afterwards.  In
all other cases the push is refused, and the instruction leaves the stack and the world as they
were; the failure is one of the variable, unless its chain comes to an index that leads nowhere and the
complaint about it would name a number that has too many digits to be written. -/
theorem pushTo_exact (flat : s.Flat) (free : v.refFree = true) (x : NameId) :
    (∀ n bound items height, s.lookup x = .ok (n, bound) → Resolves s bound (.list items) height →
      height ≤ 64 →
      ∃ s' place, s.pushTo x v = .ok s' ∧ s'.resolve (.last x .whole) = .ok (.list (items ++ [v])) ∧
        Reaches s n x place (.list items) height ∧ Pushed s s' place items v ∧ s'.Flat) ∧
    ((¬ ∃ n bound items height, s.lookup x = .ok (n, bound) ∧
        Resolves s bound (.list items) height ∧ height ≤ 64) →
      ∃ e, Refused e ∧ s.pushTo x v = .error e ∧ (e = .unwritable ↔ MissesFrom s x) ∧
        ∀ (κ ω : Type) (ex : Executor κ ω) (pc : Int) (w : ω) (expr : Expr),
          expr.eval s = .ok v →
          Machine.step ex pc (.push x expr) s w = (.error (.ofRead e), s, w)) := by
  constructor
  · intro n bound items height hlookup resolves enough
    have hbound := binding_of_lookup hlookup
    obtain ⟨place, reaches⟩ := exists_reaches flat hbound resolves rfl
    obtain ⟨bound', hbound', hlocate⟩ := reaches.locateWithin rfl enough
    obtain rfl := Except.ok.inj (hbound.symm.trans hbound')
    refine ⟨s.appendAt place v, place, ?_, ?_, reaches, reaches.pushed v,
      reaches.flat_appendAt flat free⟩
    · rw [pushTo, hlookup]
      show (s.locateWithin chainLimit (some ⟨n, x, []⟩) bound >>= _) = _
      rw [chainLimit, hlocate]
      rfl
    · show ((s.appendAt place v).valueOf x >>= _) = _
      rw [reaches.valueOf_appendAt enough hlookup v]
      rfl
  · intro unresolved
    obtain ⟨e, refused, failed, long⟩ := exists_refused v unresolved
    refine ⟨e, refused, failed, long, fun κ ω ex pc w expr heval => ?_⟩
    have pushing : (do s.pushTo x (← expr.eval s)) = Except.error e := by
      rw [heval]
      exact failed
    simp only [Machine.step, Machine.plainStep, pushing, Machine.reading]
    rfl

/-- A table with two rows: `1` stands for the second row, `2` for the first cell of it, and `3` is no
loop variable. -/
def tableOfCells : Scopes :=
  [[(0, .list [.list [.list [.ofText "a"]], .list [.list [.ofText "b"], .list []]])],
    [(1, .ref 0 0 1), (3, .ofText "c")], [(2, .ref 1 1 0)]]

/-- The cell grows inside the table, and a text has no place for more. -/
theorem pushTo_exact_tableOfCells :
    tableOfCells.Flat ∧ (Value.ofText "x").refFree = true ∧
    (∃ s', tableOfCells.pushTo 2 (.ofText "x") = .ok s' ∧
      s'.resolve (.last 2 .whole) = .ok (.list [.ofText "b", .ofText "x"])) ∧
    ∃ e, Refused e ∧ tableOfCells.pushTo 3 (.ofText "x") = .error e := by
  have flat : tableOfCells.Flat := by
    rintro v ⟨scope, hscope, x, hmem⟩
    simp only [tableOfCells, List.mem_cons, List.not_mem_nil, or_false] at hscope
    rcases hscope with rfl | rfl | rfl <;>
      simp only [List.mem_cons, List.not_mem_nil, or_false, Prod.mk.injEq] at hmem
    · exact .inr (hmem.2 ▸ rfl)
    · rcases hmem with ⟨-, rfl⟩ | ⟨-, rfl⟩
      · exact .inl rfl
      · exact .inr rfl
    · exact .inl (hmem.2 ▸ rfl)
  refine ⟨flat, rfl, ?_, ?_⟩
  · have cell : Resolves tableOfCells (.ref 1 1 0) (.list [.ofText "b"]) 2 :=
      .ref rfl (.ref rfl (.plain rfl) rfl (.plain rfl)) rfl (.plain rfl)
    obtain ⟨s', place, pushed, grown, -⟩ :=
      (pushTo_exact (v := .ofText "x") flat rfl 2).1 2 _ _ 2 rfl cell (by decide)
    exact ⟨s', pushed, grown⟩
  · obtain ⟨e, refused, failed, -⟩ := (pushTo_exact (v := .ofText "x") flat rfl 3).2 (by
      rintro ⟨n, bound, items, height, hlookup, resolves, -⟩
      obtain ⟨rfl, rfl⟩ := Prod.mk.inj (Except.ok.inj hlookup)
      cases resolves)
    exact ⟨e, refused, failed⟩

/-! ### Chains that are too high -/

/-- So many lists in each other. -/
def nest : Nat → Value
  | 0 => .list []
  | k + 1 => .list [nest k]

/-- References over references: `0` holds lists in each other, and each of the following variables
stands for the element of the one before. -/
def tower (k : Nat) : Scopes :=
  [(0, nest k) :: (List.range k).map fun (i : Nat) => (i + 1, .ref 0 i 0)]

theorem get?_tower {i k : Nat} (h : i < k) :
    Assoc.get? (i + 1) ((List.range k).map fun (j : Nat) => (j + 1, Value.ref 0 j 0))
      = some (.ref 0 i 0) := by
  induction k with
  | zero => exact absurd h (Nat.not_lt_zero i)
  | succ k ih =>
    rw [List.range_succ, List.map_append, Assoc.get?_append]
    rcases Nat.lt_or_ge i k with hlt | hge
    · rw [ih hlt]
      rfl
    · obtain rfl : i = k := by omega
      rw [Assoc.get?_eq_none]
      · simp [Assoc.get?]
      · intro e he
        obtain ⟨j, hj, rfl⟩ := List.mem_map.1 he
        have := List.mem_range.1 hj
        show j + 1 ≠ i + 1
        omega

theorem resolves_tower {i k : Nat} (h : i < k) :
    Resolves (tower k) (.ref 0 i 0) (nest (k - (i + 1))) (i + 1) := by
  have opened (j : Nat) (hj : j < k) : nest (k - j) = .list [nest (k - (j + 1))] := by
    rw [show k - j = k - (j + 1) + 1 by omega]
    rfl
  have plain (j : Nat) : (nest j).isRef = false := by cases j <;> rfl
  induction i with
  | zero =>
    have selected : (nest k).select 0 = .ok (nest (k - (0 + 1))) := by
      rw [← Nat.sub_zero k, opened 0 h]
      rfl
    exact .ref rfl (.plain (plain k)) selected (.plain (plain _))
  | succ i ih =>
    have bound : (tower k).binding 0 (i + 1) = .ok (.ref 0 i 0) := by
      refine binding_iff.2 ⟨_, rfl, ?_⟩
      rw [Assoc.get?, if_neg (Nat.succ_ne_zero i).symm]
      exact get?_tower (show i < k by omega)
    have selected : (nest (k - (i + 1))).select 0 = .ok (nest (k - (i + 1 + 1))) := by
      rw [opened (i + 1) h]
      rfl
    have step := Resolves.ref bound (ih (by omega)) selected (.plain (plain _))
    rwa [Nat.max_eq_left (Nat.zero_le _)] at step

theorem refFree_nest (k : Nat) : (nest k).refFree = true := by
  induction k with
  | zero => rfl
  | succ k ih => exact Value.refFree_list.2 fun v hv => List.mem_singleton.1 hv ▸ ih

theorem flat_tower (k : Nat) : (tower k).Flat := by
  rintro v ⟨scope, hscope, x, hmem⟩
  obtain rfl := List.mem_singleton.1 hscope
  rcases List.mem_cons.1 hmem with whole | element
  · obtain ⟨-, rfl⟩ := Prod.mk.inj whole
    exact .inr (refFree_nest k)
  · obtain ⟨j, -, hj⟩ := List.mem_map.1 element
    obtain ⟨-, rfl⟩ := Prod.mk.inj hj
    exact .inl rfl

/-- **A push does not go through every chain of references**: one that is higher than 64 resolves to a
list, and the push is refused. -/
theorem pushTo_tower :
    (tower 65).Flat ∧ (Value.ofText "a").refFree = true ∧
    (tower 65).lookup 65 = .ok (0, .ref 0 64 0) ∧
    Resolves (tower 65) (.ref 0 64 0) (.list []) 65 ∧
    ∃ e, Refused e ∧ (tower 65).pushTo 65 (.ofText "a") = .error e := by
  have found : (tower 65).lookup 65 = .ok (0, .ref 0 64 0) := by
    rw [lookup, tower, findFrom, findFrom, Assoc.get?, if_neg (by decide), get?_tower (by decide)]
    rfl
  have resolves : Resolves (tower 65) (.ref 0 64 0) (.list []) 65 := resolves_tower (by decide)
  have unreachable : ¬ ∃ n bound items height, (tower 65).lookup 65 = .ok (n, bound) ∧
      Resolves (tower 65) bound (.list items) height ∧ height ≤ chainLimit := by
    rintro ⟨n, bound, items, height, hlookup, lower, enough⟩
    obtain ⟨rfl, rfl⟩ := Prod.mk.inj (Except.ok.inj (found.symm.trans hlookup))
    obtain ⟨-, rfl⟩ := resolves.unique lower
    exact absurd enough (by decide)
  obtain ⟨e, refused, failed, -⟩ := exists_refused (.ofText "a") unreachable
  exact ⟨flat_tower 65, rfl, found, resolves, e, refused, failed⟩

end Scopes

end Sweep
