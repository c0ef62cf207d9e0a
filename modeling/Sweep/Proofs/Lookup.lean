import Sweep.Scope.Resolution

/-!
# Reading a stack of scopes

What reading a variable gives on a stack that is put together from parts.

* `eraseDups_snoc` — one more item in a list that is kept in the order of first use;
* `Assoc.set_append`, `Assoc.get?_append` — keys of a scope that is written piece by piece;
* `Assoc.mem_of_get?`, `Assoc.mem_set` — what is read was there, and what is there was written;
* `lookup_append`, `lookup_snoc` — an inner scope that does not bind a variable changes nothing;
* `binding_of_lookup`, `binding_append` — a scope is found under its number on every taller stack;
* `bind_snoc`, `write_snoc`, `lookup_bind` — binding goes to the innermost scope, where it is found;
* `Resolves.append`, `deref_of_resolves` — what a chain of references stands for is the same on
  every taller stack, and is found when the chain is not higher than the limit.
-/

namespace Sweep

/-- A computation that gives an answer gave one at its first step. -/
theorem exists_of_bind_ok {ε α β : Type} {r : Except ε α} {next : α → Except ε β} {b : β}
    (h : r >>= next = .ok b) : ∃ a, r = .ok a ∧ next a = .ok b := by
  cases r with
  | error e => cases h
  | ok a => exact ⟨a, rfl, h⟩

/-- A computation that fails, fails at its first step or behind it. -/
theorem error_of_bind {ε α β : Type} {r : Except ε α} {next : α → Except ε β} {e : ε}
    (h : r >>= next = .error e) : r = .error e ∨ ∃ a, r = .ok a ∧ next a = .error e := by
  cases r with
  | error e' => exact .inl (congrArg Except.error (Except.error.inj h))
  | ok a => exact .inr ⟨a, rfl, h⟩

/-- A list of computations that fails, fails at one of them. -/
theorem exists_error_of_mapM {ε α β : Type} {f : α → Except ε β} {as : List α} {e : ε}
    (h : as.mapM f = .error e) : ∃ a ∈ as, f a = .error e := by
  induction as with
  | nil => cases h
  | cons a as ih =>
    rw [List.mapM_cons] at h
    cases first : f a with
    | error e' =>
      rw [first] at h
      obtain rfl := Except.error.inj h
      exact ⟨a, List.mem_cons_self, first⟩
    | ok b =>
      cases rest : as.mapM f with
      | error e' =>
        rw [first, rest] at h
        obtain rfl := Except.error.inj h
        obtain ⟨a', known, refused⟩ := ih rest
        exact ⟨a', List.mem_cons_of_mem _ known, refused⟩
      | ok bs =>
        rw [first, rest] at h
        cases h

/-- What was there before keeps its place, and anything else comes to the end. -/
theorem eraseDups_snoc {α : Type} [BEq α] [LawfulBEq α] (used : List α) (a : α) :
    (used ++ [a]).eraseDups = if a ∈ used.eraseDups then used.eraseDups else used.eraseDups ++ [a] := by
  rw [List.eraseDups_append]
  by_cases known : a ∈ used
  · simp [known, List.removeAll]
  · simp [known, List.removeAll, List.eraseDups_cons]

namespace Assoc

variable {κ α : Type} [DecidableEq κ]

theorem get?_eq_none {key : κ} {entries : List (κ × α)} (h : ∀ e ∈ entries, e.1 ≠ key) :
    get? key entries = none := by
  induction entries with
  | nil => rfl
  | cons e rest ih =>
    rw [get?, if_neg (h e List.mem_cons_self)]
    exact ih fun e' he' => h e' (List.mem_cons_of_mem e he')

theorem get?_append (key : κ) (front back : List (κ × α)) :
    get? key (front ++ back) = (get? key front).or (get? key back) := by
  induction front with
  | nil => rfl
  | cons e rest ih =>
    by_cases hk : e.1 = key
    · simp [get?, hk]
    · simp [get?, hk, ih]

/-- A key that is new to the front part is written in the back part. -/
theorem set_append {key : κ} {front : List (κ × α)} (h : ∀ e ∈ front, e.1 ≠ key) (value : α)
    (back : List (κ × α)) : set key value (front ++ back) = front ++ set key value back := by
  induction front with
  | nil => rfl
  | cons e rest ih =>
    rw [List.cons_append, set, if_neg (h e List.mem_cons_self),
      ih fun e' he' => h e' (List.mem_cons_of_mem e he')]
    rfl

theorem mem_of_get? {key : κ} {value : α} {entries : List (κ × α)}
    (h : get? key entries = some value) : (key, value) ∈ entries := by
  induction entries with
  | nil => cases h
  | cons e rest ih =>
    rw [get?] at h
    split at h
    · next hk =>
      obtain rfl := Option.some.inj h
      exact hk ▸ List.mem_cons_self
    · exact List.mem_cons_of_mem e (ih h)

theorem mem_set {key : κ} {value : α} {entries : List (κ × α)} {e : κ × α}
    (h : e ∈ set key value entries) : e = (key, value) ∨ e ∈ entries := by
  induction entries with
  | nil => exact .inl (List.mem_singleton.1 h)
  | cons e' rest ih =>
    rw [set] at h
    split at h
    · next hk =>
      rcases List.mem_cons.1 h with rfl | h
      · exact .inl (hk ▸ rfl)
      · exact .inr (List.mem_cons_of_mem e' h)
    · rcases List.mem_cons.1 h with rfl | h
      · exact .inr List.mem_cons_self
      · exact (ih h).imp id (List.mem_cons_of_mem e')

theorem isSome_get?_set {key other : κ} {value : α} {entries : List (κ × α)}
    (h : (get? other entries).isSome = true) : (get? other (set key value entries)).isSome = true := by
  rw [get?_set]
  split
  · rfl
  · exact h

theorem mem_of_mem_ofList {pairs : List (κ × α)} {e : κ × α} (h : e ∈ ofList pairs) : e ∈ pairs := by
  have written (pairs acc : List (κ × α))
      (h : e ∈ pairs.foldl (fun acc p => set p.1 p.2 acc) acc) : e ∈ pairs ∨ e ∈ acc := by
    induction pairs generalizing acc with
    | nil => exact .inr h
    | cons p rest ih =>
      rcases ih _ h with h | h
      · exact .inl (List.mem_cons_of_mem p h)
      · exact (mem_set h).imp (fun hp => List.mem_cons.2 (.inl hp)) id
  exact (written pairs [] h).elim id nofun

end Assoc

namespace Scopes

variable {s extra : Scopes} {scope : Scope} {x : NameId} {v w : Value} {n : Nat}

/-! ### The innermost binding -/

theorem findFrom_append (x : NameId) (start : Nat) (outer inner : Scopes) :
    findFrom x start (outer ++ inner)
      = (findFrom x (start + outer.length) inner).or (findFrom x start outer) := by
  induction outer generalizing start with
  | nil =>
    show findFrom x start inner = (findFrom x start inner).or none
    cases findFrom x start inner <;> rfl
  | cons scope outer ih =>
    rw [List.cons_append, findFrom, findFrom, ih (start + 1),
      show start + (scope :: outer).length = start + 1 + outer.length by
        rw [List.length_cons]
        omega]
    cases findFrom x (start + 1 + outer.length) inner with
    | some r => rfl
    | none => rfl

theorem findFrom_eq_none {start : Nat} (h : ∀ scope ∈ s, Assoc.get? x scope = none) :
    findFrom x start s = none := by
  induction s generalizing start with
  | nil => rfl
  | cons scope inner ih =>
    rw [findFrom, ih fun sc hsc => h sc (List.mem_cons_of_mem _ hsc), h scope List.mem_cons_self]
    rfl

/-- Inner scopes without a binding for a variable do not matter. -/
theorem lookup_append (h : ∀ scope ∈ extra, Assoc.get? x scope = none) :
    (s ++ extra).lookup x = s.lookup x := by
  rw [lookup, findFrom_append, findFrom_eq_none h]
  rfl

theorem lookup_snoc (s : Scopes) (scope : Scope) (x : NameId) :
    (s ++ [scope]).lookup x = match Assoc.get? x scope with
      | some v => .ok (s.length, v)
      | none => s.lookup x := by
  rw [lookup, findFrom_append]
  cases h : Assoc.get? x scope with
  | none => simp [findFrom, h, lookup]
  | some v => simp [findFrom, h]

theorem get?_of_findFrom {start : Nat} (h : findFrom x start s = some (n, v)) :
    start ≤ n ∧ ∃ scope, s[n - start]? = some scope ∧ Assoc.get? x scope = some v := by
  induction s generalizing start with
  | nil => cases h
  | cons scope inner ih =>
    rw [findFrom] at h
    cases hr : findFrom x (start + 1) inner with
    | some r =>
      rw [hr] at h
      obtain rfl := Option.some.inj h
      obtain ⟨hle, sc, hsc, hget⟩ := ih hr
      refine ⟨by omega, sc, ?_, hget⟩
      rw [show n - start = n - (start + 1) + 1 by omega]
      exact hsc
    | none =>
      rw [hr] at h
      obtain ⟨u, hu, hn⟩ := Option.map_eq_some_iff.1 h
      obtain ⟨rfl, rfl⟩ := Prod.mk.inj hn
      exact ⟨Nat.le_refl _, scope, by simp, hu⟩

theorem binding_ofNat (s : Scopes) (n : Nat) (x : NameId) :
    s.binding n x = match (s[n]?).bind (Assoc.get? x) with
      | some v => .ok v
      | none => .error (.access (.missingVariable x)) := rfl

theorem binding_iff {x : NameId} : s.binding n x = .ok v ↔
    ∃ scope, s[n]? = some scope ∧ Assoc.get? x scope = some v := by
  rw [binding_ofNat]
  cases s[n]? with
  | none => simp
  | some scope => cases h : Assoc.get? x scope <;> simp [h]

/-- What is found for a variable is bound in the scope with the number that is given. -/
theorem binding_of_lookup (h : s.lookup x = .ok (n, v)) : s.binding n x = .ok v := by
  rw [lookup] at h
  cases hr : findFrom x 0 s with
  | none =>
    rw [hr] at h
    cases h
  | some r =>
    rw [hr] at h
    obtain rfl := Except.ok.inj h
    obtain ⟨-, sc, hsc, hget⟩ := get?_of_findFrom hr
    rw [Nat.sub_zero] at hsc
    rw [binding_ofNat, hsc]
    simp [hget]

theorem binding_append {i : Int} (h : s.binding i x = .ok v) (extra : Scopes) :
    (s ++ extra).binding i x = .ok v := by
  rw [binding] at h ⊢
  cases i with
  | negSucc k => cases h
  | ofNat n =>
    rw [scopeAt?] at h ⊢
    cases hs : s[n]? with
    | none => simp [hs] at h
    | some scope =>
      have hlt : n < s.length := (List.getElem?_eq_some_iff.1 hs).1
      rw [List.getElem?_append_left hlt, hs]
      rw [hs] at h
      exact h

/-! ### The innermost scope -/

theorem write_snoc (s : Scopes) (scope : Scope) (x : NameId) (v : Value) :
    (s ++ [scope]).write s.length x v = s ++ [Assoc.set x v scope] := by
  rw [write, List.modify_eq_take_cons_drop (by simp)]
  simp

theorem bind_eq_write (nonempty : s ≠ []) (x : NameId) (v : Value) :
    s.bind x v = s.write (s.length - 1) x v := by
  cases s with
  | nil => exact absurd rfl nonempty
  | cons => rfl

theorem bind_snoc (s : Scopes) (scope : Scope) (x : NameId) (v : Value) :
    (s ++ [scope]).bind x v = s ++ [Assoc.set x v scope] := by
  rw [bind_eq_write (by simp), List.length_append, List.length_singleton, Nat.add_sub_cancel, write_snoc]

/-- What was bound last is found in the innermost scope. -/
theorem lookup_bind (s : Scopes) (x : NameId) (v : Value) :
    (s.bind x v).lookup x = .ok (s.length - 1, v) := by
  rcases s.eq_nil_or_concat with rfl | ⟨outer, scope, rfl⟩
  · simp [bind, lookup, findFrom, Assoc.set, Assoc.get?]
  · rw [List.concat_eq_append, bind_snoc, lookup_snoc, Assoc.get?_set, if_pos rfl, List.length_append]
    rfl

theorem pop_snoc (s : Scopes) (scope : Scope) : (s ++ [scope]).pop = s := List.dropLast_concat

/-! ### Chains of references -/

theorem derefWithin_of_isRef_eq_false (h : v.isRef = false) (budget : Nat) :
    s.derefWithin budget v = .ok v := by
  cases v with
  | ref => cases h
  | counter | struct | list => cases budget <;> rfl

/-- A chain that is not higher than the budget is followed to its end. -/
theorem derefWithin_of_resolves (h : Resolves s v w n) {budget : Nat} (hn : n ≤ budget) :
    s.derefWithin budget v = .ok w := by
  induction h generalizing budget with
  | plain hv => exact derefWithin_of_isRef_eq_false hv budget
  | @ref scope target offset bound whole part w m n bound_eq _ part_eq _ ih₁ ih₂ =>
    obtain ⟨rest, rfl⟩ : ∃ rest, budget = rest + 1 := ⟨budget - 1, by omega⟩
    rw [derefWithin, bound_eq]
    show (s.derefWithin rest bound >>= _) = _
    rw [ih₁ (by omega)]
    show (whole.select offset >>= _) = _
    rw [part_eq]
    exact ih₂ (by omega)

theorem deref_of_resolves (h : Resolves s v w n) (hn : n ≤ chainLimit) : s.deref v = .ok w :=
  derefWithin_of_resolves h hn

end Scopes

/-- Inner scopes do not change what a chain of references stands for. -/
theorem Resolves.append {s : Scopes} {v w : Value} {n : Nat} (h : Resolves s v w n)
    (extra : Scopes) : Resolves (s ++ extra) v w n := by
  induction h with
  | plain hv => exact .plain hv
  | ref bound_eq _ part_eq _ ih₁ ih₂ =>
    exact .ref (Scopes.binding_append bound_eq extra) ih₁ part_eq ih₂

end Sweep
