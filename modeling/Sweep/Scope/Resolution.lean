import Sweep.Scope.Resolve

/-!
# What references resolve to

The meaning of a chain of references, without a limit on its length.  A value that is no reference
resolves to itself.  A reference resolves to whatever the selected element of its target resolves
to, where the target may be a reference itself.

Every derivation has a height: zero for a value that is no reference, and one more than the higher
of its two parts for a reference.  Cyclic and dangling references have no derivation at all.  What a
value resolves to is never a reference (`Resolves.isRef_eq_false`), and value and height are
determined (`Resolves.unique`).
-/

namespace Sweep

/-- `Resolves s v w height`: on the stack `s` the value `v` resolves to `w` by a derivation of a
height. -/
inductive Resolves (s : Scopes) : Value → Value → Nat → Prop where
  /-- A value that is no reference stands for itself. -/
  | plain {v : Value} (h : v.isRef = false) : Resolves s v v 0
  /-- A reference stands for an element of what its target stands for. -/
  | ref {scope : Int} {target : NameId} {offset : Int} {bound whole part w : Value} {m n : Nat}
      (bound_eq : s.binding scope target = .ok bound) (target_resolves : Resolves s bound whole m)
      (part_eq : whole.select offset = .ok part) (part_resolves : Resolves s part w n) :
      Resolves s (.ref scope target offset) w (max m n + 1)

namespace Resolves

variable {s : Scopes} {v w w' : Value} {m n : Nat}

theorem isRef_eq_false (h : Resolves s v w n) : w.isRef = false := by
  induction h with
  | plain h => exact h
  | ref _ _ _ _ _ ih => exact ih

theorem unique (h : Resolves s v w m) (h' : Resolves s v w' n) : w = w' ∧ m = n := by
  induction h generalizing w' n with
  | plain hv =>
    cases h' with
    | plain => exact ⟨rfl, rfl⟩
    | ref => cases hv
  | ref bound_eq _ part_eq _ ih₁ ih₂ =>
    cases h' with
    | plain hv => cases hv
    | ref bound_eq' target' part_eq' part' =>
      cases bound_eq.symm.trans bound_eq'
      obtain ⟨rfl, rfl⟩ := ih₁ target'
      cases part_eq.symm.trans part_eq'
      obtain ⟨rfl, rfl⟩ := ih₂ part'
      exact ⟨rfl, rfl⟩

end Resolves

end Sweep
