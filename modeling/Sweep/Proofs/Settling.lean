import Sweep.Proofs.References
import Sweep.Supervision.Command

/-!
# Following references is invisible

Wherever a program reads its variables, a reference counts as what it stands for.  A stack may
therefore be settled, that is, every reference in it replaced by the value behind it, and nothing
that is read from it changes.

* `Alike` — two stacks on which every variable stands for the same thing;
* `textOf_congr`, `elementBy_congr`, `fieldOf_congr`, `project_congr` — a value without references
  is taken apart alike on all stacks, and on alike stacks also where a key is read from them;
* `resolve_congr`, `Expr.eval_congr`, `Argument.eval_congr` — so alike stacks are read alike;
* `Flat`, `Resolving`, `settled` — references stand only for themselves and lead somewhere, and
  the stack without them;
* `alike_settled`, `visibleTexts_settled` — a stack and its settled form.

The main statement is `settled_reads_alike`.
-/

namespace Sweep

/-- What follows a computation matters only on the answers it gives. -/
theorem bind_congr_ok {ε α β : Type} {r : Except ε α} {next next' : α → Except ε β}
    (h : ∀ a, r = .ok a → next a = next' a) : r >>= next = r >>= next' := by
  cases r with
  | error e => rfl
  | ok a => exact h a rfl

theorem mapM_congr {ε α β : Type} {f g : α → Except ε β} {items : List α}
    (h : ∀ a ∈ items, f a = g a) : items.mapM f = items.mapM g := by
  induction items with
  | nil => rfl
  | cons a rest ih =>
    rw [List.mapM_cons, List.mapM_cons, h a List.mem_cons_self,
      ih fun b hb => h b (List.mem_cons_of_mem a hb)]

namespace Scopes

variable {s t : Scopes} {v w : Value} {x : NameId}

/-! ### Alike stacks -/

/-- Every variable stands for the same value on both stacks, or fails alike, and no value that a
variable stands for holds a reference. -/
structure Alike (s t : Scopes) : Prop where
  valueOf_eq (x : NameId) : s.valueOf x = t.valueOf x
  refFree {x : NameId} {v : Value} (h : s.valueOf x = .ok v) : v.refFree = true

theorem textOf_congr (hv : v.refFree = true) : s.textOf v = t.textOf v := by
  rw [textOf, textOf, deref_of_refFree hv, deref_of_refFree hv]

theorem elementAt_congr {items : List Value} (hitems : ∀ v ∈ items, v.refFree = true)
    (position : Int) : s.elementAt items position = t.elementAt items position := by
  rw [elementAt, elementAt]
  split
  · next u hu =>
    split at hu
    · have hfree := hitems u (List.mem_of_getElem? hu)
      rw [deref_of_refFree hfree, deref_of_refFree hfree]
    · cases hu
  · rfl

theorem elementNamed_congr {items : List Value} (hitems : ∀ v ∈ items, v.refFree = true)
    (key : String) : s.elementNamed key items = t.elementNamed key items := by
  induction items with
  | nil => rfl
  | cons u rest ih =>
    have hfree := hitems u List.mem_cons_self
    rw [elementNamed, elementNamed, deref_of_refFree hfree, deref_of_refFree hfree,
      ih fun v hv => hitems v (List.mem_cons_of_mem u hv)]

theorem elementBy_congr {items : List Value} (hitems : ∀ v ∈ items, v.refFree = true)
    (key : String) : s.elementBy items key = t.elementBy items key := by
  rw [elementBy, elementBy]
  split
  · exact elementAt_congr hitems _
  · exact elementNamed_congr hitems key

theorem fieldOf_congr (hv : v.refFree = true) (field : NameId) :
    s.fieldOf field v = t.fieldOf field v := by
  cases v with
  | struct base fields =>
    rw [fieldOf, fieldOf]
    split
    · next u hu =>
      have hfree := Value.refFree_struct.1 hv (field, u) (Assoc.mem_of_get? hu)
      rw [deref_of_refFree hfree, deref_of_refFree hfree]
    · rfl
  | counter | ref | list => rfl

mutual

/-- **A path is followed alike**, by induction over the path and the keys in it.  What is read at
each step has no references, so the stacks matter only where a key is looked up. -/
theorem project_congr (alike : Alike s t) (p : Path) {v : Value} (hv : v.refFree = true) :
    s.project p v = t.project p v := by
  match p with
  | .last x pick =>
    rw [project, project]
    exact choose_congr alike pick hv
  | .dot x pick field =>
    rw [project, project, choose_congr alike pick hv]
    refine bind_congr_ok fun whole hwhole => ?_
    have free_whole := refFree_of_choose hv hwhole
    rw [fieldOf_congr free_whole]
    refine bind_congr_ok fun part hpart => ?_
    exact project_congr alike field (refFree_of_fieldOf free_whole hpart)

theorem choose_congr (alike : Alike s t) (pick : Pick) {v : Value} (hv : v.refFree = true) :
    s.choose pick v = t.choose pick v := by
  match pick with
  | .whole => rw [choose, choose]
  | .at position =>
    cases v with
    | list items =>
      rw [choose, choose]
      exact elementAt_congr (Value.refFree_list.1 hv) position
    | counter | ref | struct => simp only [choose]
  | .by key =>
    cases v with
    | list items =>
      rw [choose, choose, alike.valueOf_eq]
      refine bind_congr_ok fun start hstart => ?_
      have free_start := alike.refFree ((alike.valueOf_eq _).trans hstart)
      rw [project_congr alike key free_start]
      refine bind_congr_ok fun whole hwhole => ?_
      rw [textOf_congr (refFree_of_project key free_start hwhole)]
      refine bind_congr_ok fun text _ => ?_
      exact elementBy_congr (Value.refFree_list.1 hv) text
    | counter | ref | struct => simp only [choose]

end

theorem resolve_congr (alike : Alike s t) (p : Path) : s.resolve p = t.resolve p := by
  rw [resolve, resolve, alike.valueOf_eq]
  exact bind_congr_ok fun v hv =>
    project_congr alike p (alike.refFree ((alike.valueOf_eq _).trans hv))

theorem Alike.refFree_of_resolve (alike : Alike s t) {p : Path} (hv : s.resolve p = .ok v) :
    v.refFree = true := by
  obtain ⟨start, hstart, hv⟩ := exists_of_bind_ok hv
  exact refFree_of_project p (alike.refFree hstart) hv

theorem resolveStruct_congr (alike : Alike s t) (p : Path) :
    s.resolveStruct p = t.resolveStruct p := by
  rw [resolveStruct, resolveStruct, resolve_congr alike]

theorem resolveText_congr (alike : Alike s t) (p : Path) :
    s.resolveText p = t.resolveText p := by
  rw [resolveText, resolveText, ← resolve_congr alike]
  exact bind_congr_ok fun v hv => textOf_congr (alike.refFree_of_resolve hv)

theorem spread_congr (alike : Alike s t) (p : Path) : s.spread p = t.spread p := by
  rw [spread, spread, ← resolve_congr alike]
  refine bind_congr_ok fun v hv => ?_
  have free := alike.refFree_of_resolve hv
  cases v with
  | list items =>
    exact mapM_congr fun item hitem => by
      have free_item := Value.refFree_list.1 free item hitem
      rw [deref_of_refFree free_item, deref_of_refFree free_item]
  | counter | ref | struct => rfl

end Scopes

/-! ### Expressions and arguments -/

section Evaluation

variable {s t : Scopes}

theorem Interpolation.eval_congr (alike : s.Alike t) (parts : Interpolation) :
    parts.eval s = parts.eval t := by
  rw [Interpolation.eval, Interpolation.eval, mapM_congr fun part _ => ?_]
  cases part with
  | literal => rfl
  | hole path => exact Scopes.resolveText_congr alike path

theorem Bound.eval_congr (alike : s.Alike t) (b : Bound) : b.eval s = b.eval t := by
  cases b with
  | fixed => rfl
  | computed parts => rw [Bound.eval, Bound.eval, parts.eval_congr alike]

mutual

theorem Expr.eval_congr (alike : s.Alike t) (e : Expr) : e.eval s = e.eval t := by
  match e with
  | .struct base fields =>
    rw [Expr.eval, Expr.eval, base.eval_congr alike, Expr.evalFields_congr alike fields]
  | .list items => rw [Expr.eval, Expr.eval, Expr.evalItems_congr alike items]
  | .range start stop =>
    rw [Expr.eval, Expr.eval, start.eval_congr alike, stop.eval_congr alike]
  | .copy path => rw [Expr.eval, Expr.eval, Scopes.resolve_congr alike]

theorem Expr.evalItems_congr (alike : s.Alike t) (items : List Expr) :
    Expr.evalItems s items = Expr.evalItems t items := by
  match items with
  | [] => rfl
  | e :: rest =>
    rw [Expr.evalItems, Expr.evalItems, e.eval_congr alike, Expr.evalItems_congr alike rest]

theorem Expr.evalFields_congr (alike : s.Alike t) (fields : List (NameId × Expr)) :
    Expr.evalFields s fields = Expr.evalFields t fields := by
  match fields with
  | [] => rfl
  | (x, e) :: rest =>
    rw [Expr.evalFields, Expr.evalFields, e.eval_congr alike, Expr.evalFields_congr alike rest]

end

theorem Argument.eval_congr (alike : s.Alike t) (a : Argument) : a.eval s = a.eval t := by
  cases a with
  | one text => rw [Argument.eval, Argument.eval, text.eval_congr alike]
  | spread path => exact Scopes.spread_congr alike path

end Evaluation

/-! ### Settled stacks -/

namespace Assoc

variable {κ α β : Type} [DecidableEq κ]

theorem get?_map (f : α → β) (key : κ) (entries : List (κ × α)) :
    get? key (entries.map fun e => (e.1, f e.2)) = (get? key entries).map f := by
  induction entries with
  | nil => rfl
  | cons e rest ih =>
    rw [List.map_cons, get?, get?, ih]
    split <;> rfl

end Assoc

namespace Scopes

variable {s : Scopes} {v w : Value} {x : NameId}

/-- The value of some variable of some scope. -/
def Holds (s : Scopes) (v : Value) : Prop := ∃ scope ∈ s, ∃ x, (x, v) ∈ scope

/-- A reference is never a part of another value: it is the whole value of a variable. -/
def Flat (s : Scopes) : Prop := ∀ v, s.Holds v → v.isRef = true ∨ v.refFree = true

/-- Every variable of every scope stands for a value. -/
def Resolving (s : Scopes) : Prop := ∀ v, s.Holds v → ∃ w, s.deref v = .ok w

/-- What a value stands for, and the value itself if it stands for nothing. -/
def behind (s : Scopes) (v : Value) : Value :=
  match s.deref v with
  | .ok w => w
  | .error _ => v

/-- The stack with the value of every variable replaced by what it stands for. -/
def settled (s : Scopes) : Scopes := s.map fun scope => scope.map fun e => (e.1, s.behind e.2)

theorem holds_of_binding {n : Int} (h : s.binding n x = .ok v) : s.Holds v := by
  cases n with
  | negSucc => cases h
  | ofNat n =>
    obtain ⟨scope, hs, hget⟩ := binding_iff.1 h
    exact ⟨scope, List.mem_of_getElem? hs, x, Assoc.mem_of_get? hget⟩

theorem holds_of_lookup {n : Nat} (h : s.lookup x = .ok (n, v)) : s.Holds v :=
  holds_of_binding (binding_of_lookup h)

theorem deref_of_resolving (resolving : s.Resolving) (hv : s.Holds v) :
    s.deref v = .ok (s.behind v) := by
  obtain ⟨w, hw⟩ := resolving v hv
  rw [behind, hw]

/-- On a flat stack a chain of references ends at a value without references. -/
theorem refFree_of_derefWithin (flat : s.Flat) (budget : Nat)
    (hv : v.isRef = true ∨ v.refFree = true) (hw : s.derefWithin budget v = .ok w) :
    w.refFree = true := by
  induction budget generalizing v w with
  | zero =>
    cases v with
    | ref => cases hw
    | counter | struct | list => exact Except.ok.inj hw ▸ hv.resolve_left nofun
  | succ budget ih =>
    cases v with
    | counter | struct | list => exact Except.ok.inj hw ▸ hv.resolve_left nofun
    | ref scope target offset =>
      obtain ⟨bound, hbound, hw⟩ := exists_of_bind_ok hw
      obtain ⟨whole, hwhole, hw⟩ := exists_of_bind_ok hw
      obtain ⟨part, hpart, hw⟩ := exists_of_bind_ok hw
      have free_part := grounded_select (ih (flat bound (holds_of_binding hbound)) hwhole) offset
      rw [hpart] at free_part
      exact ih (.inr free_part) hw

theorem refFree_behind (flat : s.Flat) (resolving : s.Resolving) (hv : s.Holds v) :
    (s.behind v).refFree = true :=
  refFree_of_derefWithin flat chainLimit (flat v hv) (deref_of_resolving resolving hv)

/-- What is behind a value stands for itself on every stack. -/
theorem deref_behind (flat : s.Flat) (resolving : s.Resolving) (hv : s.Holds v) (t : Scopes) :
    t.deref (s.behind v) = s.deref v := by
  rw [deref_of_resolving resolving hv, deref_of_refFree (refFree_behind flat resolving hv)]

theorem findFrom_map (f : Value → Value) (x : NameId) (start : Nat) (s : Scopes) :
    findFrom x start (s.map fun scope => scope.map fun e => (e.1, f e.2))
      = (findFrom x start s).map fun found => (found.1, f found.2) := by
  induction s generalizing start with
  | nil => rfl
  | cons scope inner ih =>
    rw [List.map_cons, findFrom, findFrom, ih, Assoc.get?_map]
    cases findFrom x (start + 1) inner with
    | some found => rfl
    | none => cases Assoc.get? x scope <;> rfl

/-- A variable of the settled stack is bound where it was, to what it stood for. -/
theorem lookup_settled (s : Scopes) (x : NameId) :
    s.settled.lookup x = (s.lookup x).map fun found => (found.1, s.behind found.2) := by
  rw [lookup, lookup, settled, findFrom_map]
  cases findFrom x 0 s <;> rfl

theorem alike_settled (flat : s.Flat) (resolving : s.Resolving) : s.Alike s.settled where
  valueOf_eq x := by
    rw [valueOf, valueOf, lookup_settled]
    cases hlookup : s.lookup x with
    | error => rfl
    | ok found => exact (deref_behind flat resolving (holds_of_lookup hlookup) _).symm
  refFree {x v} h := by
    obtain ⟨found, hlookup, hv⟩ := exists_of_bind_ok h
    exact refFree_of_derefWithin flat chainLimit (flat _ (holds_of_lookup hlookup)) hv

/-- The texts of one scope, variable by variable. -/
theorem addVisible_settled (flat : s.Flat) (resolving : s.Resolving) {scope : Scope}
    (hs : ∀ e ∈ scope, s.Holds e.2) (seen : List (NameId × String)) :
    s.settled.addVisible seen (scope.map fun e => (e.1, s.behind e.2)) = s.addVisible seen scope := by
  induction scope generalizing seen with
  | nil => rfl
  | cons e rest ih =>
    have held := hs e List.mem_cons_self
    rw [List.map_cons, addVisible, addVisible, deref_behind flat resolving held]
    refine bind_congr_ok fun w hw => ?_
    have free : w.refFree = true := refFree_of_derefWithin flat chainLimit (flat _ held) hw
    have next := ih fun e' he' => hs e' (List.mem_cons_of_mem e he')
    cases w with
    | list items => exact next _
    | ref => cases free
    | counter | struct =>
      dsimp only
      rw [textOf_congr free]
      exact bind_congr_ok fun text _ => next _

theorem visibleTexts_settled (flat : s.Flat) (resolving : s.Resolving) :
    s.settled.visibleTexts = s.visibleTexts := by
  rw [visibleTexts, visibleTexts]
  have texts (scopes : Scopes) (inside : ∀ scope ∈ scopes, scope ∈ s)
      (seen : List (NameId × String)) :
      (scopes.map fun scope => scope.map fun e => (e.1, s.behind e.2)).foldlM
          (fun seen scope => s.settled.addVisible seen scope) seen
        = scopes.foldlM (fun seen scope => s.addVisible seen scope) seen := by
    induction scopes generalizing seen with
    | nil => rfl
    | cons scope rest ih =>
      have held : ∀ e ∈ scope, s.Holds e.2 := fun e he =>
        ⟨scope, inside scope List.mem_cons_self, e.1, he⟩
      rw [List.map_cons, List.foldlM_cons, List.foldlM_cons,
        addVisible_settled flat resolving held]
      exact bind_congr_ok fun seen' _ =>
        ih (fun scope' h => inside scope' (List.mem_cons_of_mem scope h)) seen'
  exact texts s (fun _ h => h) []

/-- **Following references is invisible.**  Take a stack on which references are never parts of other
values and every variable of every scope stands for a value, and replace each value by what it
stands for.  Paths, structs and texts at paths, interpolated texts, expressions, arguments of
children and the visible texts are the same on both stacks, or fail with the same error. -/
theorem settled_reads_alike (flat : s.Flat) (resolving : s.Resolving) :
    (∀ p, s.settled.resolve p = s.resolve p) ∧
    (∀ p, s.settled.resolveStruct p = s.resolveStruct p) ∧
    (∀ p, s.settled.resolveText p = s.resolveText p) ∧
    (∀ parts : Interpolation, parts.eval s.settled = parts.eval s) ∧
    (∀ e : Expr, e.eval s.settled = e.eval s) ∧
    (∀ a : Argument, a.eval s.settled = a.eval s) ∧
    s.settled.visibleTexts = s.visibleTexts := by
  have alike := alike_settled flat resolving
  exact ⟨fun p => (resolve_congr alike p).symm, fun p => (resolveStruct_congr alike p).symm,
    fun p => (resolveText_congr alike p).symm, fun parts => (parts.eval_congr alike).symm,
    fun e => (e.eval_congr alike).symm, fun a => (a.eval_congr alike).symm,
    visibleTexts_settled flat resolving⟩

/-- Loop variables over loop variables: `2` stands for an element of the list `0`, `3` for `2`, and
`4` for a later number of the counter `1`. -/
def nestedCursors : Scopes :=
  [[(0, .list [.struct "a" [(5, .ofText "x")], .struct "b" [(5, .ofText "y")]]),
    (1, .counter 3 7 0)], [(2, .ref 0 0 1)], [(3, .ref 1 2 0), (4, .ref 0 1 2)]]

theorem settled_reads_alike_nestedCursors :
    nestedCursors.Flat ∧ nestedCursors.Resolving ∧
    nestedCursors.settled =
      [[(0, .list [.struct "a" [(5, .ofText "x")], .struct "b" [(5, .ofText "y")]]),
      (1, .counter 3 7 0)], [(2, .struct "b" [(5, .ofText "y")])],
      [(3, .struct "b" [(5, .ofText "y")]), (4, .counter 3 7 2)]] ∧
    nestedCursors.settled.resolve (.dot 3 .whole (.last 5 .whole))
      = nestedCursors.resolve (.dot 3 .whole (.last 5 .whole)) ∧
    nestedCursors.resolve (.dot 3 .whole (.last 5 .whole)) = .ok (.ofText "y") := by
  have each (v : Value) (hv : nestedCursors.Holds v) :
      (v.isRef = true ∨ v.refFree = true) ∧ ∃ w, nestedCursors.deref v = .ok w := by
    obtain ⟨scope, hs, x, he⟩ := hv
    simp only [nestedCursors, List.mem_cons, List.not_mem_nil, or_false] at hs
    rcases hs with rfl | rfl | rfl <;>
      simp only [List.mem_cons, List.not_mem_nil, or_false, Prod.mk.injEq] at he
    · rcases he with ⟨-, rfl⟩ | ⟨-, rfl⟩ <;> exact ⟨.inr rfl, _, rfl⟩
    · obtain ⟨-, rfl⟩ := he
      exact ⟨.inl rfl, _, rfl⟩
    · rcases he with ⟨-, rfl⟩ | ⟨-, rfl⟩ <;> exact ⟨.inl rfl, _, rfl⟩
  have flat : nestedCursors.Flat := fun v hv => (each v hv).1
  have resolving : nestedCursors.Resolving := fun v hv => (each v hv).2
  exact ⟨flat, resolving, rfl, (settled_reads_alike flat resolving).1 _, rfl⟩

end Scopes

end Sweep
