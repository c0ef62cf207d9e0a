import Sweep.Expression
import Sweep.Proofs.Lookup

/-!
# Properties that go by the parts

Many a property of values goes by the parts: a list or a struct has it just if everything in it has it.
Reading takes values apart and follows references, and expressions put values together; so they keep such
a property, whatever it is, if following references does.

* `Value.Structural` — such a property; selecting, appending and putting together keep it;
* `Structural.of_derefWithin` — a stack on which everything has it keeps it;
* `Structural.of_project`, `Structural.of_eval` — paths and expressions keep it.
-/

namespace Sweep

/-- A property that a list or a struct has just if everything in it has it, and that every counter has at a
position from zero. -/
structure Value.Structural (P : Value → Prop) : Prop where
  list : ∀ {items}, P (.list items) ↔ ∀ v ∈ items, P v
  struct : ∀ {base fields}, P (.struct base fields) ↔ ∀ e ∈ fields, P e.2
  counter : ∀ {start stop offset}, 0 ≤ offset → P (.counter start stop offset)

/-- Everything that is bound in a stack has a property. -/
def Scopes.Every (P : Value → Prop) (s : Scopes) : Prop := ∀ scope ∈ s, ∀ e ∈ scope, P e.2

theorem Scopes.Every.of_binding {P : Value → Prop} {s : Scopes} {x : NameId} {v : Value} {i : Int}
    (every : s.Every P) (h : s.binding i x = .ok v) : P v := by
  cases i with
  | negSucc => cases h
  | ofNat n =>
    obtain ⟨scope, hs, hget⟩ := binding_iff.1 h
    exact every scope (List.mem_of_getElem? hs) _ (Assoc.mem_of_get? hget)

namespace Value.Structural

variable {P : Value → Prop} {s : Scopes} {v w item : Value}

theorem of_select (parts : Structural P) {offset : Int} (hv : P v) (h : v.select offset = .ok w) : P w := by
  cases v with
  | ref | struct =>
    simp only [select] at h
    split at h
    · exact Except.ok.inj h ▸ hv
    · cases h
  | counter start stop position =>
    simp only [select] at h
    split at h
    · next inside => exact Except.ok.inj h ▸ parts.counter inside.1
    · cases h
  | list items =>
    simp only [select] at h
    split at h
    · next u found =>
      obtain rfl := Except.ok.inj h
      split at found
      · exact parts.list.1 hv u (List.mem_of_getElem? found)
      · cases found
    · cases h

theorem appendAt (parts : Structural P) (hi : P item) (hv : P v) (positions : List Nat) :
    P (Value.appendAt item positions v) := by
  induction positions generalizing v with
  | nil =>
    cases v with
    | list items =>
      refine parts.list.2 fun w hw => ?_
      rcases List.mem_append.1 hw with hw | hw
      · exact parts.list.1 hv w hw
      · rwa [List.mem_singleton.1 hw]
    | counter | ref | struct => exact hv
  | cons i rest ih =>
    cases v with
    | list items =>
      refine parts.list.2 fun w hw => ?_
      obtain ⟨k, hk⟩ := List.mem_iff_getElem?.1 hw
      rw [List.getElem?_modify] at hk
      obtain ⟨u, hu, rfl⟩ := Option.map_eq_some_iff.1 hk
      have hu := parts.list.1 hv u (List.mem_of_getElem? hu)
      split
      · exact ih hu
      · exact hu
    | counter | ref | struct => exact hv

/-- Following references goes nowhere but to what is bound and to what it holds. -/
theorem of_derefWithin (parts : Structural P) (every : s.Every P) (budget : Nat) (hv : P v)
    (hw : s.derefWithin budget v = .ok w) : P w := by
  induction budget generalizing v w with
  | zero =>
    cases v with
    | ref => cases hw
    | counter | struct | list => exact Except.ok.inj hw ▸ hv
  | succ budget ih =>
    cases v with
    | counter | struct | list => exact Except.ok.inj hw ▸ hv
    | ref scope target offset =>
      obtain ⟨bound, hbound, hw⟩ := exists_of_bind_ok hw
      obtain ⟨whole, hwhole, hw⟩ := exists_of_bind_ok hw
      obtain ⟨part, hpart, hw⟩ := exists_of_bind_ok hw
      exact ih (parts.of_select (ih (every.of_binding hbound) hwhole) hpart) hw

/-! ### Paths -/

section Reading

variable (parts : Structural P) (follow : ∀ {v w}, P v → s.deref v = .ok w → P w)

include follow

theorem of_elementAt {items : List Value} (hitems : ∀ v ∈ items, P v) {position : Int}
    (h : s.elementAt items position = .ok v) : P v := by
  rw [Scopes.elementAt] at h
  split at h
  · next u found =>
    split at found
    · exact follow (hitems u (List.mem_of_getElem? found)) h
    · cases found
  · cases h

theorem of_elementNamed {items : List Value} (hitems : ∀ v ∈ items, P v) {key : String}
    (h : s.elementNamed key items = .ok v) : P v := by
  induction items with
  | nil => cases h
  | cons u rest ih =>
    obtain ⟨here, later⟩ := List.forall_mem_cons.1 hitems
    rw [Scopes.elementNamed] at h
    obtain ⟨w, stands, h⟩ := exists_of_bind_ok h
    split at h
    · split at h
      · exact Except.ok.inj h ▸ follow here stands
      · exact ih later h
    · exact ih later h

theorem of_elementBy {items : List Value} (hitems : ∀ v ∈ items, P v) {key : String}
    (h : s.elementBy items key = .ok v) : P v := by
  rw [Scopes.elementBy] at h
  split at h
  · exact of_elementAt follow hitems h
  · exact of_elementNamed follow hitems h

include parts

theorem of_fieldOf {field : NameId} (hv : P v) (h : s.fieldOf field v = .ok w) : P w := by
  cases v with
  | struct base fields =>
    rw [Scopes.fieldOf] at h
    split at h
    · next u found => exact follow (parts.struct.1 hv (field, u) (Assoc.mem_of_get? found)) h
    · cases h
  | counter | ref | list => cases h

/-- The key of a selection decides which element is meant, never what it is. -/
theorem of_choose {pick : Pick} (hv : P v) (h : s.choose pick v = .ok w) : P w := by
  cases pick with
  | whole =>
    rw [Scopes.choose] at h
    exact Except.ok.inj h ▸ hv
  | «at» position =>
    cases v with
    | list items =>
      rw [Scopes.choose] at h
      exact of_elementAt follow (parts.list.1 hv) h
    | counter | ref | struct => simp [Scopes.choose] at h
  | «by» key =>
    cases v with
    | list items =>
      rw [Scopes.choose] at h
      obtain ⟨start, -, h⟩ := exists_of_bind_ok h
      obtain ⟨whole, -, h⟩ := exists_of_bind_ok h
      obtain ⟨text, -, h⟩ := exists_of_bind_ok h
      exact of_elementBy follow (parts.list.1 hv) h
    | counter | ref | struct => simp [Scopes.choose] at h

theorem of_project (p : Path) {v w : Value} (hv : P v) (h : s.project p v = .ok w) : P w := by
  match p with
  | .last x pick =>
    rw [Scopes.project] at h
    exact parts.of_choose follow hv h
  | .dot x pick field =>
    rw [Scopes.project] at h
    obtain ⟨whole, hwhole, h⟩ := exists_of_bind_ok h
    obtain ⟨part, hpart, h⟩ := exists_of_bind_ok h
    exact of_project field (parts.of_fieldOf follow (parts.of_choose follow hv hwhole) hpart) h

end Reading

/-- On a stack on which everything has the property, what is at a path has it. -/
theorem of_resolve (parts : Structural P) (every : s.Every P) {p : Path} (h : s.resolve p = .ok v) : P v := by
  have follow {v w : Value} (hv : P v) (hw : s.deref v = .ok w) : P w :=
    parts.of_derefWithin every chainLimit hv hw
  obtain ⟨start, stands, h⟩ := exists_of_bind_ok h
  obtain ⟨⟨n, bound⟩, found, stands⟩ := exists_of_bind_ok stands
  exact parts.of_project follow p (follow (every.of_binding (Scopes.binding_of_lookup found)) stands) h

/-! ### Expressions -/

mutual

/-- **Expressions give values with the property**, by induction over the expression. -/
theorem of_eval (parts : Structural P) (read : ∀ {p v}, s.resolve p = .ok v → P v) (e : Expr) {v : Value}
    (hv : e.eval s = .ok v) : P v := by
  match e with
  | .struct base fields =>
    rw [Expr.eval] at hv
    obtain ⟨text, -, hv⟩ := exists_of_bind_ok hv
    obtain ⟨values, hvalues, hv⟩ := exists_of_bind_ok hv
    obtain rfl := Except.ok.inj hv
    exact parts.struct.2 fun e he => of_evalFields parts read fields hvalues e (Assoc.mem_of_mem_ofList he)
  | .list items =>
    rw [Expr.eval] at hv
    obtain ⟨values, hvalues, hv⟩ := exists_of_bind_ok hv
    obtain rfl := Except.ok.inj hv
    exact parts.list.2 (of_evalItems parts read items hvalues)
  | .range start stop =>
    rw [Expr.eval] at hv
    obtain ⟨a, -, hv⟩ := exists_of_bind_ok hv
    obtain ⟨b, -, hv⟩ := exists_of_bind_ok hv
    exact Except.ok.inj hv ▸ parts.counter (Int.le_refl 0)
  | .copy path =>
    rw [Expr.eval] at hv
    exact read hv

theorem of_evalItems (parts : Structural P) (read : ∀ {p v}, s.resolve p = .ok v → P v) (items : List Expr)
    {values : List Value} (hvalues : Expr.evalItems s items = .ok values) : ∀ v ∈ values, P v := by
  match items with
  | [] =>
    obtain rfl := Except.ok.inj hvalues
    nofun
  | e :: rest =>
    rw [Expr.evalItems] at hvalues
    obtain ⟨first, hfirst, hvalues⟩ := exists_of_bind_ok hvalues
    obtain ⟨others, hothers, hvalues⟩ := exists_of_bind_ok hvalues
    obtain rfl := Except.ok.inj hvalues
    exact List.forall_mem_cons.2 ⟨of_eval parts read e hfirst, of_evalItems parts read rest hothers⟩

theorem of_evalFields (parts : Structural P) (read : ∀ {p v}, s.resolve p = .ok v → P v)
    (fields : List (NameId × Expr)) {values : List (NameId × Value)}
    (hvalues : Expr.evalFields s fields = .ok values) : ∀ e ∈ values, P e.2 := by
  match fields with
  | [] =>
    obtain rfl := Except.ok.inj hvalues
    nofun
  | (x, e) :: rest =>
    rw [Expr.evalFields] at hvalues
    obtain ⟨first, hfirst, hvalues⟩ := exists_of_bind_ok hvalues
    obtain ⟨others, hothers, hvalues⟩ := exists_of_bind_ok hvalues
    obtain rfl := Except.ok.inj hvalues
    exact List.forall_mem_cons.2 ⟨of_eval parts read e hfirst, of_evalFields parts read rest hothers⟩

end

end Value.Structural

end Sweep
