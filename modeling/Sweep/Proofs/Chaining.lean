import Mathlib.Algebra.Group.Int.Defs
import Mathlib.Algebra.Group.Nat.Defs
import Sweep.Proofs.Lookup

/-!
# How far references are followed

Following references within a budget finds exactly what the rules of resolution give with derivations
that are not higher than the budget.  One budget serves the reference and everything behind it: the
target gets what is left of it, and so does the element that is selected, so it bounds the height and
not the number of references that are met.

* `exists_resolves_of_derefWithin` — what is found is what the rules give, within the height;
* `derefWithin_iff` — both directions, with `derefWithin_of_resolves`;
* `Broken`, `Thwarted` — how a chain can break: a target is not bound, or an index leads nowhere; and then a
  number in the wording may have too many digits to be written;
* `thwarted_of_derefWithin` — there is no other way for following it to fail;
* `Misses`, `derefWithin_unwritable_iff` — where it fails because of such a number.

The main statement is `deref_exact`.
-/

namespace Sweep.Scopes

variable {s : Scopes} {v w : Value} {e : ReadError}

/-! ### What is found -/

/-- **What is found is what the rules give**, by a derivation within the budget. -/
theorem exists_resolves_of_derefWithin {budget : Nat} (h : s.derefWithin budget v = .ok w) :
    ∃ height, height ≤ budget ∧ Resolves s v w height := by
  induction budget generalizing v w with
  | zero =>
    cases v with
    | ref => cases h
    | counter | struct | list =>
      obtain rfl := Except.ok.inj h
      exact ⟨0, Nat.le_refl 0, .plain rfl⟩
  | succ budget ih =>
    cases v with
    | counter | struct | list =>
      obtain rfl := Except.ok.inj h
      exact ⟨0, Nat.zero_le _, .plain rfl⟩
    | ref scope target offset =>
      rw [derefWithin] at h
      obtain ⟨bound, hbound, h⟩ := exists_of_bind_ok h
      obtain ⟨whole, hwhole, h⟩ := exists_of_bind_ok h
      obtain ⟨part, hpart, h⟩ := exists_of_bind_ok h
      obtain ⟨m, hm, target_resolves⟩ := ih hwhole
      obtain ⟨n, hn, part_resolves⟩ := ih h
      exact ⟨max m n + 1, by omega, .ref hbound target_resolves hpart part_resolves⟩

theorem derefWithin_iff {budget : Nat} :
    s.derefWithin budget v = .ok w ↔ ∃ height, height ≤ budget ∧ Resolves s v w height := by
  constructor
  · intro h
    exact exists_resolves_of_derefWithin h
  · rintro ⟨height, hheight, resolves⟩
    exact derefWithin_of_resolves resolves hheight

/-! ### How it fails -/

/-- A chain of references breaks where a target is not bound or an index leads nowhere. -/
def Broken (e : AccessError) : Prop :=
  e.family = .missingVariable ∨ e.family = .invalidIndex

/-- Why following references fails: the chain breaks, or it does and a number in the wording of that has too
many digits to be written. -/
def Thwarted : ReadError → Prop
  | .access e => Broken e
  | .unwritable => True

theorem thwarted_of_binding {n : Int} {x : NameId} (h : s.binding n x = .error e) : Thwarted e := by
  rw [binding] at h
  split at h
  · cases h
  · obtain rfl := Except.error.inj h
    exact .inl rfl

theorem binding_ne_unwritable {n : Int} {x : NameId} : s.binding n x ≠ .error .unwritable := by
  intro failed
  rw [binding] at failed
  split at failed <;> cases failed

theorem thwarted_telling {numbers : List Int} {e : AccessError} (h : Broken e) :
    Thwarted (.telling numbers e) := by
  rw [ReadError.telling]
  split
  · exact h
  · exact trivial

theorem isWritable_one : Text.isWritable 1 = true := Text.isWritable_of_lt (k := 1) (by decide) (by decide)

/-- Where there is no element at an index, the complaint about it names the index, and the number of the
elements of a list or a counter. -/
theorem select_eq_telling {i : Int} (none : ∀ part, v.select i ≠ .ok part) :
    ∃ numbers e, v.select i = .error (.telling numbers e) ∧ Broken e ∧
      numbers.all Text.isWritable = (Text.isWritable i && Text.isWritable v.steps) := by
  cases v with
  | list items =>
    cases at_ : if 0 ≤ i then items[i.toNat]? else Option.none with
    | some part => exact absurd (by simp only [Value.select, at_]) (none part)
    | none =>
      refine ⟨[i, items.length], .listRange i items.length, by simp only [Value.select, at_], .inr rfl, ?_⟩
      rw [List.all_cons, List.all_cons, List.all_nil, Bool.and_true]
      rfl
  | counter start stop offset =>
    by_cases within : 0 ≤ i ∧ i < Value.span start stop
    · exact absurd (if_pos within) (none (.counter start stop i))
    · refine ⟨[i, Value.span start stop], .counterRange i (Value.span start stop),
        if_neg within, .inr rfl, ?_⟩
      rw [List.all_cons, List.all_cons, List.all_nil, Bool.and_true]
      rfl
  | struct | ref =>
    by_cases first : i = 0
    · exact absurd (if_pos first) (none _)
    · refine ⟨[i], .singleValue i, if_neg first, .inr rfl, ?_⟩
      rw [List.all_cons, List.all_nil]
      exact congrArg (Text.isWritable i && ·) isWritable_one.symm

theorem thwarted_of_select {i : Int} (h : v.select i = .error e) : Thwarted e := by
  obtain ⟨numbers, complaint, told, broken, -⟩ := select_eq_telling (v := v) (i := i) fun part found => by
    rw [found] at h
    cases h
  obtain rfl := Except.error.inj (told.symm.trans h)
  exact thwarted_telling broken

/-- **Following references fails only where the chain breaks**, a chain that is too high included. -/
theorem thwarted_of_derefWithin {budget : Nat} (h : s.derefWithin budget v = .error e) : Thwarted e := by
  induction budget generalizing v e with
  | zero =>
    cases v with
    | ref =>
      obtain rfl := Except.error.inj h
      exact .inr rfl
    | counter | struct | list => cases h
  | succ budget ih =>
    cases v with
    | counter | struct | list => cases h
    | ref scope target offset =>
      rw [derefWithin] at h
      rcases error_of_bind h with unbound | ⟨bound, -, h⟩
      · exact thwarted_of_binding unbound
      rcases error_of_bind h with lost | ⟨whole, -, h⟩
      · exact ih lost
      rcases error_of_bind h with absent | ⟨part, -, h⟩
      · exact thwarted_of_select absent
      · exact ih h

/-! ### Numbers that cannot be written -/

/-- A value has no element at an index, and the index or the number of its elements cannot be written. -/
structure Untold (whole : Value) (i : Int) : Prop where
  none : ∀ part, whole.select i ≠ .ok part
  long : (Text.isWritable i && Text.isWritable whole.steps) = false

/-- Following references within a budget comes to a value and an index for which nothing can be told. -/
inductive Misses (s : Scopes) : (budget : Nat) → Value → (whole : Value) → (i : Int) → Prop where
  | here {budget : Nat} {scope offset : Int} {target : NameId} {bound whole : Value}
      (bound_eq : s.binding scope target = .ok bound) (found : s.derefWithin budget bound = .ok whole)
      (untold : Untold whole offset) : Misses s (budget + 1) (.ref scope target offset) whole offset
  /-- On the way to the target of a reference. -/
  | target {budget : Nat} {scope offset i : Int} {target : NameId} {bound whole : Value}
      (bound_eq : s.binding scope target = .ok bound) (missed : Misses s budget bound whole i) :
      Misses s (budget + 1) (.ref scope target offset) whole i
  /-- Behind the element that a reference selects. -/
  | element {budget : Nat} {scope offset i : Int} {target : NameId} {bound whole part lacking : Value}
      (bound_eq : s.binding scope target = .ok bound) (found : s.derefWithin budget bound = .ok whole)
      (part_eq : whole.select offset = .ok part) (missed : Misses s budget part lacking i) :
      Misses s (budget + 1) (.ref scope target offset) lacking i

/-- Nothing is told of an index for just this reason. -/
theorem select_unwritable_iff {i : Int} :
    v.select i = .error .unwritable ↔ Untold v i := by
  constructor
  · intro h
    have none (part : Value) (found : v.select i = .ok part) : False := by
      rw [found] at h
      cases h
    obtain ⟨numbers, e, told, -, all⟩ := select_eq_telling none
    exact ⟨none, all.symm.trans (ReadError.telling_eq_unwritable_iff.1 (Except.error.inj (told.symm.trans h)))⟩
  · intro h
    obtain ⟨numbers, e, told, -, all⟩ := select_eq_telling h.none
    rw [told, ReadError.telling_eq_unwritable_iff.2 (all.trans h.long)]

/-- A reference is followed by following its target, and then the element that it selects there. -/
theorem derefWithin_ref {budget : Nat} {scope offset : Int} {target : NameId} {bound : Value}
    (bound_eq : s.binding scope target = .ok bound) :
    s.derefWithin (budget + 1) (.ref scope target offset)
      = s.derefWithin budget bound >>= fun whole => whole.select offset >>= s.derefWithin budget := by
  rw [derefWithin, bound_eq]
  rfl

/-- **Following references fails because of a number that cannot be written just where it comes to an index
that leads nowhere**, and of which nothing can be told. -/
theorem derefWithin_unwritable_iff {budget : Nat} :
    s.derefWithin budget v = .error .unwritable ↔ ∃ whole i, Misses s budget v whole i := by
  constructor
  · intro h
    induction budget generalizing v with
    | zero => cases v <;> cases h
    | succ budget ih =>
      cases v with
      | counter | struct | list => cases h
      | ref scope target offset =>
        rw [derefWithin] at h
        rcases error_of_bind h with unbound | ⟨bound, bound_eq, h⟩
        · exact absurd unbound binding_ne_unwritable
        rcases error_of_bind h with lost | ⟨whole, found, h⟩
        · obtain ⟨whole, i, missed⟩ := ih lost
          exact ⟨whole, i, .target bound_eq missed⟩
        rcases error_of_bind h with absent | ⟨part, part_eq, h⟩
        · exact ⟨whole, offset, .here bound_eq found (select_unwritable_iff.1 absent)⟩
        · obtain ⟨lacking, i, missed⟩ := ih h
          exact ⟨lacking, i, .element bound_eq found part_eq missed⟩
  · rintro ⟨whole, i, missed⟩
    induction missed with
    | here bound_eq found untold =>
      rw [derefWithin_ref bound_eq, found]
      show (Value.select _ _ >>= _) = _
      rw [select_unwritable_iff.2 untold]
      rfl
    | target bound_eq _ ih =>
      rw [derefWithin_ref bound_eq, ih]
      rfl
    | element bound_eq found part_eq _ ih =>
      rw [derefWithin_ref bound_eq, found]
      show (Value.select _ _ >>= _) = _
      rw [part_eq]
      exact ih

/-! ### The limit -/

/-- **Following references is exact up to height 64.**  On every stack, whatever its references lead to,
and for every value: what is found is just what the value resolves to by a derivation that is not higher
than 64, and it is never a reference; and there is an answer in all cases, which is a failure exactly where no
such derivation exists.  It is the failure of a broken chain, unless following it comes to an index that leads
nowhere and the complaint about it would name a number that has too many digits to be written. -/
theorem deref_exact (s : Scopes) (v : Value) :
    (∀ w, s.deref v = .ok w ↔ ∃ height, height ≤ 64 ∧ Resolves s v w height) ∧
    (∀ w, s.deref v = .ok w → w.isRef = false) ∧
    ((∃ e, s.deref v = .error e) ↔ ¬ ∃ w height, height ≤ 64 ∧ Resolves s v w height) ∧
    (∀ e, s.deref v = .error e → (∃ e', e = .access e' ∧ Broken e') ∨ e = .unwritable) ∧
    (s.deref v = .error .unwritable ↔ ∃ whole i, Misses s 64 v whole i) := by
  have found (w : Value) : s.deref v = .ok w ↔ ∃ height, height ≤ 64 ∧ Resolves s v w height :=
    derefWithin_iff
  refine ⟨found, ?_, ⟨?_, ?_⟩, ?_, derefWithin_unwritable_iff⟩
  · intro w h
    obtain ⟨height, -, resolves⟩ := (found w).1 h
    exact resolves.isRef_eq_false
  · rintro ⟨e, failed⟩ ⟨w, resolves⟩
    rw [(found w).2 resolves] at failed
    cases failed
  · intro unresolved
    cases h : s.deref v with
    | error e => exact ⟨e, rfl⟩
    | ok w => exact absurd ⟨w, (found w).1 h⟩ unresolved
  · intro e failed
    have thwarted := thwarted_of_derefWithin failed
    cases e with
    | access e => exact .inl ⟨e, rfl, thwarted⟩
    | unwritable => exact .inr rfl

/-- **Some failures are none of a broken chain**: a counter that has more elements than can be told is asked
for an element that it does not have. -/
theorem deref_unwritable :
    let v : Value := .ref 0 0 (-1)
    let s : Scopes := [[(0, .counter (-(10 ^ 4300 - 1)) (10 ^ 4300 - 1) 0)]]
    (¬ ∃ w height, height ≤ 64 ∧ Resolves s v w height) ∧ ¬ ∃ e, s.deref v = .error (.access e) := by
  intro v s
  have untold : Untold (.counter (-(10 ^ 4300 - 1)) (10 ^ 4300 - 1) 0) (-1) :=
    ⟨fun _ h => (nomatch h), by decide +kernel⟩
  have failed : s.deref v = .error .unwritable := derefWithin_unwritable_iff.2 ⟨_, _, .here rfl rfl untold⟩
  constructor
  · rintro ⟨w, resolves⟩
    cases failed.symm.trans (derefWithin_iff.2 resolves)
  · rintro ⟨e, told⟩
    cases failed.symm.trans told

/-- A variable that refers to itself resolves to nothing, and following it comes to an end. -/
example : deref [[(0, .ref 0 0 0)]] (.ref 0 0 0) = .error (.access .tooDeep) := rfl

/-- A list may hold a reference to another element of its own. -/
example : deref [[(0, .list [.ofText "a", .ref 0 0 0])]] (.ref 0 0 1) = .ok (.ofText "a") := rfl

end Sweep.Scopes
