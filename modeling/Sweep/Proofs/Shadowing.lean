import Mathlib.Data.List.Nodup
import Sweep.Bed
import Sweep.Proofs.Chaining
import Sweep.Proofs.Failing
import Sweep.Render.TemplateEngine

/-!
# What templates are told

A template is told a text for each visible variable.  The texts are collected from the outermost scope
to the innermost one: a binding takes the place of what was there under its name, and a list takes it
away.  Paths look for a variable the other way round and stop at the first scope that binds it.  The two
agree on every variable; but what is collected fails for a binding that stands for nothing, or for a number
that cannot be written, also where an inner scope hides it, and a path does not look there.

* `Assoc.get?_erase`, `Assoc.get?_rename` — reading after taking away, and under other keys;
* `OncePerScope` — a scope binds a variable once;
* `see`, `visibleTexts_eq` — what one binding does to the texts, and all bindings in order;
* `wording`, `visibleTexts_eq_error_iff` — the text of a value, and that the first binding without one is the
  only failure; `exists_visibleTexts_iff`;
* `get?_visibleTexts` — the text of a variable is that of its innermost binding;
* `Tells` — what is told of a variable, case by case.

The main statements are `visibleTexts_tell` and `visibleTexts_fail_of_hidden`.
-/

namespace Sweep

namespace Assoc

variable {κ μ α : Type} [DecidableEq κ] [DecidableEq μ]

theorem get?_erase (key other : κ) (entries : List (κ × α)) :
    get? other (erase key entries) = if other = key then none else get? other entries := by
  induction entries with
  | nil => simp [erase, get?]
  | cons e rest ih =>
    rw [erase] at ih ⊢
    by_cases hk : e.1 = key
    · rw [List.filter_cons_of_neg (by simp [hk]), ih, get?]
      by_cases ho : other = key
      · rw [if_pos ho, if_pos ho]
      · rw [if_neg ho, if_neg ho, if_neg fun h => ho (h.symm.trans hk)]
    · rw [List.filter_cons_of_pos (by simp [hk]), get?, get?, ih]
      by_cases ho : e.1 = other
      · rw [if_pos ho, if_pos ho, if_neg fun h => hk (ho.trans h)]
      · rw [if_neg ho, if_neg ho]

/-- Other keys for the same entries, as long as the key that is asked for is told apart from them. -/
theorem get?_rename {f : κ → μ} {key : κ} {entries : List (κ × α)}
    (apart : ∀ e ∈ entries, f e.1 = f key → e.1 = key) :
    get? (f key) (entries.map fun e => (f e.1, e.2)) = get? key entries := by
  induction entries with
  | nil => rfl
  | cons e rest ih =>
    have first : f e.1 = f key ↔ e.1 = key := ⟨apart e List.mem_cons_self, congrArg f⟩
    rw [List.map_cons, get?, get?, ih fun e' he' => apart e' (List.mem_cons_of_mem e he')]
    simp only [first]

theorem isSome_get?_of_mem {key : κ} {entries : List (κ × α)} (h : key ∈ entries.map Prod.fst) :
    (get? key entries).isSome = true := by
  induction entries with
  | nil => cases h
  | cons e rest ih =>
    rw [get?]
    split
    · rfl
    · next other => exact ih ((List.mem_cons.1 h).resolve_left fun same => other same.symm)

end Assoc

/-- Different numbers of a table are shown as different names. -/
theorem NameTable.display_inj {t : NameTable} (nodup : t.names.Nodup) {x y : NameId}
    (hx : x < t.size) (hy : y < t.size) (h : t.display x = t.display y) : x = y := by
  have name {z : NameId} (hz : z < t.size) : t.display z = t.names.get ⟨z, hz⟩ := by
    rw [display, nameOf?, List.getElem?_eq_getElem hz]
    rfl
  rw [name hx, name hy] at h
  exact nodup.getElem_inj_iff.1 h

namespace Scopes

variable {s : Scopes} {scope : Scope} {v w : Value} {x : NameId} {b : NameId × Value}
  {seen seen' : List (NameId × String)} {e : ReadError}

/-- No scope binds a variable twice.  Bindings are made by `Assoc.set`, which writes over the one that
is there. -/
def OncePerScope (s : Scopes) : Prop := ∀ scope ∈ s, (scope.map Prod.fst).Nodup

instance (s : Scopes) : Decidable s.OncePerScope :=
  inferInstanceAs (Decidable (∀ scope ∈ s, (scope.map Prod.fst).Nodup))

theorem kept_oncePerScope : Scope.Kept (fun scope => (scope.map Prod.fst).Nodup) fun _ => True where
  parts := ⟨by simp, by simp, fun _ => trivial⟩
  empty := List.nodup_nil
  holds _ _ _ := trivial
  set h _ x := Assoc.nodup_set x _ h
  begins _ _ := trivial
  counts _ := trivial
  moves _ := trivial

/-- So it is on every stack that programs of a bed leave. -/
theorem oncePerScope_of_leftBy {bed : Bed} (h : bed.LeftBy s) : s.OncePerScope :=
  h.each kept_oncePerScope

/-! ### One binding after the other -/

/-- What a binding does to the texts of the bindings in front of it. -/
def see (s : Scopes) (seen : List (NameId × String)) (b : NameId × Value) :
    Except ReadError (List (NameId × String)) := do
  match ← s.deref b.2 with
  | .list _ => return Assoc.erase b.1 seen
  | w => return Assoc.set b.1 (← s.textOf w) seen

theorem addVisible_eq (s : Scopes) (seen : List (NameId × String)) (scope : Scope) :
    s.addVisible seen scope = scope.foldlM s.see seen := by
  induction scope generalizing seen with
  | nil => rfl
  | cons b rest ih =>
    rw [addVisible, List.foldlM_cons, see]
    simp only [ih, bind_assoc]
    congr 1
    funext w
    cases w <;> simp only [bind_assoc, pure_bind]

/-- The texts are those of all bindings, from the outermost scope to the innermost one. -/
theorem visibleTexts_eq (s : Scopes) : s.visibleTexts = s.flatten.foldlM s.see [] := by
  have each (t : Scopes) (seen : List (NameId × String)) :
      t.foldlM (fun seen scope => s.addVisible seen scope) seen = t.flatten.foldlM s.see seen := by
    induction t generalizing seen with
    | nil => rfl
    | cons scope inner ih =>
      rw [List.foldlM_cons, List.flatten_cons, List.foldlM_append, addVisible_eq]
      exact bind_congr_ok fun seen' _ => ih seen'
  exact each s []

/-- The text of a value: the base of a struct or the number a counter is at.  A list has none. -/
def wording (s : Scopes) (v : Value) : Except ReadError (Option String) := do
  match ← s.deref v with
  | .list _ => return none
  | w => return some (← s.textOf w)

/-- What a value shows, if it has a text. -/
def shown (s : Scopes) (v : Value) : Option String :=
  match s.wording v with
  | .ok text => text
  | .error _ => none

theorem see_eq (s : Scopes) (seen : List (NameId × String)) (b : NameId × Value) :
    s.see seen b = (s.wording b.2).map fun
      | some text => Assoc.set b.1 text seen
      | none => Assoc.erase b.1 seen := by
  rw [see, wording]
  cases s.deref b.2 with
  | error e => rfl
  | ok w =>
    have told : (do return Assoc.set b.1 (← s.textOf w) seen : Except ReadError (List (NameId × String)))
        = (do return some (← s.textOf w) : Except ReadError (Option String)).map fun
          | some text => Assoc.set b.1 text seen
          | none => Assoc.erase b.1 seen := by
      cases s.textOf w <;> rfl
    cases w with
    | list items => rfl
    | struct | counter | ref => exact told

/-- The counters that are bound stand at numbers that can be written. -/
def Writable (s : Scopes) : Prop :=
  ∀ v, s.Holds v → ∀ start stop offset, s.deref v = .ok (.counter start stop offset) →
    Text.isWritable (start + offset) = true

/-- The text of a value that is no reference. -/
def textOfPlain : Value → Except ReadError (Option String)
  | .struct base _ => .ok (some base)
  | .counter start _ offset => (ReadError.textOf (start + offset)).map some
  | _ => .ok none

/-- The wording of a value is the text of what it stands for. -/
theorem wording_of_deref (h : s.deref v = .ok w) : s.wording v = textOfPlain w := by
  obtain ⟨height, -, resolves⟩ := exists_resolves_of_derefWithin h
  have plain : s.deref w = .ok w := derefWithin_of_isRef_eq_false resolves.isRef_eq_false _
  rw [wording, h]
  cases w with
  | ref => cases resolves.isRef_eq_false
  | list items => rfl
  | struct base fields =>
    change (do return some (← s.textOf (.struct base fields)) : Except ReadError (Option String)) = _
    rw [textOf, plain]
    rfl
  | counter start stop offset =>
    change (do return some (← s.textOf (.counter start stop offset)) : Except ReadError (Option String)) = _
    rw [textOf, plain]
    change (ReadError.textOf (start + offset) >>= fun text => pure (some text)) = _
    rw [textOfPlain]
    cases ReadError.textOf (start + offset) <;> rfl

/-- A value has a wording where it stands for something, unless that is a number that cannot be written. -/
theorem exists_wording_iff : (∃ text, s.wording v = .ok text) ↔ (∃ w, s.deref v = .ok w) ∧
    ∀ start stop offset, s.deref v = .ok (.counter start stop offset) →
      Text.isWritable (start + offset) = true := by
  cases h : s.deref v with
  | error e =>
    constructor
    · rintro ⟨text, told⟩
      rw [wording, h] at told
      cases told
    · rintro ⟨⟨w, stands⟩, -⟩
      cases stands
  | ok w =>
    rw [wording_of_deref h]
    cases w with
    | ref | list => exact ⟨fun _ => ⟨⟨_, rfl⟩, nofun⟩, fun _ => ⟨none, rfl⟩⟩
    | struct base fields => exact ⟨fun _ => ⟨⟨_, rfl⟩, nofun⟩, fun _ => ⟨some base, rfl⟩⟩
    | counter start stop offset =>
      constructor
      · rintro ⟨text, told⟩
        refine ⟨⟨_, rfl⟩, fun start' stop' offset' same => ?_⟩
        obtain ⟨rfl, rfl, rfl⟩ := Value.counter.inj (Except.ok.inj same)
        by_contra long
        simp only [textOfPlain, ReadError.textOf, if_neg long] at told
        cases told
      · rintro ⟨-, short⟩
        refine ⟨some (toString (start + offset)), ?_⟩
        simp only [textOfPlain, ReadError.textOf, if_pos (short _ _ _ rfl)]
        rfl

/-! ### Failing -/

/-- Collecting texts fails where wording the bindings one after the other fails, and only there. -/
theorem see_fold_eq_error_iff {bindings : List (NameId × Value)} :
    bindings.foldlM s.see seen = .error e ↔ bindings.mapM (fun b => s.wording b.2) = .error e := by
  have told {α β : Type} (e' : ReadError) :
      (Except.error e' : Except ReadError α) = .error e ↔
        (Except.error e' : Except ReadError β) = .error e := by
    simp only [Except.error.injEq]
  induction bindings generalizing seen with
  | nil => exact ⟨nofun, nofun⟩
  | cons b rest ih =>
    rw [List.foldlM_cons, List.mapM_cons, see_eq]
    cases s.wording b.2 with
    | error e' => exact told e'
    | ok text =>
      refine Iff.trans ih ?_
      show _ ↔ ((rest.mapM fun b => s.wording b.2) >>= _) = _
      cases rest.mapM fun b => s.wording b.2 with
      | error e' => exact told e'
      | ok texts => exact ⟨nofun, nofun⟩

theorem visibleTexts_eq_error_iff :
    s.visibleTexts = .error e ↔ s.flatten.mapM (fun b => s.wording b.2) = .error e := by
  rw [visibleTexts_eq]
  exact see_fold_eq_error_iff

/-- Texts are collected where every binding stands for a value that can be worded, hidden ones included. -/
theorem exists_visibleTexts_iff : (∃ seen, s.visibleTexts = .ok seen) ↔ s.Resolving ∧ s.Writable := by
  have all (bindings : List (NameId × Value)) :
      (∃ texts, bindings.mapM (fun b => s.wording b.2) = .ok texts) ↔
        ∀ b ∈ bindings, ∃ text, s.wording b.2 = .ok text := by
    induction bindings with
    | nil => simp [pure, Except.pure]
    | cons b rest ih =>
      rw [List.mapM_cons, List.forall_mem_cons, ← ih]
      cases s.wording b.2 with
      | error => simp [Bind.bind, Except.bind]
      | ok w => cases rest.mapM fun b => s.wording b.2 <;> simp [Bind.bind, Except.bind, pure, Except.pure]
  have same : (∃ seen, s.visibleTexts = .ok seen) ↔
      ∃ texts, s.flatten.mapM (fun b => s.wording b.2) = .ok texts := by
    have failing := fun e => visibleTexts_eq_error_iff (s := s) (e := e)
    cases hs : s.visibleTexts with
    | error e => simp [(failing e).1 hs]
    | ok seen =>
      cases hv : s.flatten.mapM fun b => s.wording b.2 with
      | error e =>
        rw [(failing e).2 hv] at hs
        cases hs
      | ok texts => simp
  rw [same, all]
  constructor
  · intro h
    have worded (v : Value) (bound : s.Holds v) : (∃ w, s.deref v = .ok w) ∧ ∀ start stop offset,
        s.deref v = .ok (.counter start stop offset) → Text.isWritable (start + offset) = true := by
      obtain ⟨scope, hs, x, hx⟩ := bound
      exact exists_wording_iff.1 (h (x, v) (List.mem_flatten.2 ⟨scope, hs, hx⟩))
    exact ⟨fun v bound => (worded v bound).1, fun v bound => (worded v bound).2⟩
  · rintro ⟨resolving, writable⟩ b hb
    obtain ⟨scope, hs, hx⟩ := List.mem_flatten.1 hb
    have bound : s.Holds b.2 := ⟨scope, hs, b.1, hx⟩
    exact exists_wording_iff.2 ⟨resolving b.2 bound, writable b.2 bound⟩

/-! ### The innermost binding -/

theorem get?_see (h : s.see seen b = .ok seen') (x : NameId) :
    Assoc.get? x seen' = if x = b.1 then s.shown b.2 else Assoc.get? x seen := by
  rw [see_eq] at h
  rw [shown]
  cases hw : s.wording b.2 with
  | error e =>
    rw [hw] at h
    cases h
  | ok text =>
    rw [hw] at h
    obtain rfl := Except.ok.inj h
    cases text with
    | some text => exact Assoc.get?_set ..
    | none => exact Assoc.get?_erase ..

/-- In a scope that binds variables once, each binding has its say. -/
theorem get?_see_fold (once : (scope.map Prod.fst).Nodup) (h : scope.foldlM s.see seen = .ok seen')
    (x : NameId) :
    Assoc.get? x seen' = match Assoc.get? x scope with
      | some v => s.shown v
      | none => Assoc.get? x seen := by
  induction scope generalizing seen with
  | nil =>
    obtain rfl := Except.ok.inj h
    rfl
  | cons b rest ih =>
    rw [List.foldlM_cons] at h
    obtain ⟨seen₁, first, h⟩ := exists_of_bind_ok h
    obtain ⟨new, once⟩ := List.nodup_cons.1 once
    rw [ih once h, get?_see first, Assoc.get?]
    by_cases hx : b.1 = x
    · subst hx
      have unbound : Assoc.get? b.1 rest = none :=
        Assoc.get?_eq_none fun e he same => new (List.mem_map.2 ⟨e, he, same⟩)
      rw [unbound, if_pos rfl, if_pos rfl]
    · rw [if_neg hx, if_neg (Ne.symm hx)]

/-- The scopes from some scope inward have their say one after the other, and the innermost one that binds a
variable comes last. -/
theorem get?_see_flatten {t : Scopes} (once : t.OncePerScope) (start : Nat)
    (h : t.flatten.foldlM s.see seen = .ok seen') (x : NameId) :
    Assoc.get? x seen' = match findFrom x start t with
      | some found => s.shown found.2
      | none => Assoc.get? x seen := by
  induction t generalizing start seen with
  | nil =>
    obtain rfl := Except.ok.inj h
    rfl
  | cons scope inner ih =>
    rw [List.flatten_cons, List.foldlM_append] at h
    obtain ⟨between, first, h⟩ := exists_of_bind_ok h
    obtain ⟨here, deeper⟩ := List.forall_mem_cons.1 once
    rw [ih deeper (start + 1) h, findFrom, get?_see_fold here first]
    cases findFrom x (start + 1) inner with
    | some found => rfl
    | none => cases Assoc.get? x scope <;> rfl

/-- **The text of a variable is that of its innermost binding.** -/
theorem get?_visibleTexts (once : s.OncePerScope) (h : s.visibleTexts = .ok seen) (x : NameId) :
    Assoc.get? x seen = (findFrom x 0 s).bind fun found => s.shown found.2 := by
  rw [visibleTexts_eq] at h
  rw [get?_see_flatten once 0 h]
  cases findFrom x 0 s <;> rfl

/-! ### What is told -/

/-- The values with which templates are rendered: the visible texts under the names of the variables. -/
def told (names : NameTable) (seen : List (NameId × String)) : List (String × String) :=
  seen.map fun e => (names.display e.1, e.2)

/-- What a template is to be told of a variable: the text that a path to it gives, if its innermost
binding stands for a struct or a counter, and nothing if that stands for a list or if there is none. -/
inductive Tells (s : Scopes) (x : NameId) : Option String → Prop where
  | struct {n : Nat} {v : Value} {base : String} {fields : List (NameId × Value)}
      (found : s.lookup x = .ok (n, v)) (stands : s.deref v = .ok (.struct base fields))
      (path : s.resolveText (.last x .whole) = .ok base) : Tells s x (some base)
  | counter {n : Nat} {v : Value} {start stop offset : Int}
      (found : s.lookup x = .ok (n, v)) (stands : s.deref v = .ok (.counter start stop offset))
      (path : s.resolveText (.last x .whole) = .ok (toString (start + offset))) :
      Tells s x (some (toString (start + offset)))
  | list {n : Nat} {v : Value} {items : List Value}
      (found : s.lookup x = .ok (n, v)) (stands : s.deref v = .ok (.list items)) : Tells s x none
  | unbound (nowhere : ∀ scope ∈ s, Assoc.get? x scope = none) : Tells s x none

theorem resolveText_last {n : Nat} (found : s.lookup x = .ok (n, v)) (stands : s.deref v = .ok w) :
    s.resolveText (.last x .whole) = s.textOf w := by
  have whole : s.resolve (.last x .whole) = .ok w := by
    rw [resolve, valueOf, show (Path.last x .whole).var = x from rfl, found]
    show (s.deref v >>= s.project (.last x .whole)) = _
    rw [stands]
    rfl
  rw [resolveText, whole]
  rfl

theorem get?_of_findFrom_eq_none {start : Nat} (h : findFrom x start s = none) :
    ∀ scope ∈ s, Assoc.get? x scope = none := by
  induction s generalizing start with
  | nil => nofun
  | cons scope inner ih =>
    rw [findFrom] at h
    cases hr : findFrom x (start + 1) inner with
    | some r =>
      rw [hr] at h
      cases h
    | none =>
      rw [hr] at h
      exact List.forall_mem_cons.2 ⟨Option.map_eq_none_iff.1 h, ih hr⟩

/-- A variable is told as the search for it says. -/
theorem tells_findFrom (resolving : s.Resolving) (writable : s.Writable) (x : NameId) :
    Tells s x ((findFrom x 0 s).bind fun found => s.shown found.2) := by
  cases hfind : findFrom x 0 s with
  | none => exact .unbound (get?_of_findFrom_eq_none hfind)
  | some found =>
    obtain ⟨n, v⟩ := found
    have hlookup : s.lookup x = .ok (n, v) := by rw [lookup, hfind]
    have bound := holds_of_lookup hlookup
    obtain ⟨w, stands⟩ := resolving v bound
    have path := resolveText_last hlookup stands
    obtain ⟨height, -, resolves⟩ := exists_resolves_of_derefWithin stands
    show Tells s x (s.shown v)
    rw [shown, wording_of_deref stands]
    have plain : s.deref w = .ok w := derefWithin_of_isRef_eq_false resolves.isRef_eq_false _
    rw [textOf, plain] at path
    cases w with
    | ref => cases resolves.isRef_eq_false
    | list items => exact .list hlookup stands
    | struct base fields => exact .struct hlookup stands path
    | counter start stop offset =>
      have told : ReadError.textOf (start + offset) = .ok (toString (start + offset)) :=
        if_pos (writable v bound _ _ _ stands)
      rw [textOfPlain, told]
      exact .counter hlookup stands (path.trans told)

/-- The variables with texts are bound somewhere. -/
theorem exists_bound_of_mem (once : s.OncePerScope) (h : s.visibleTexts = .ok seen)
    {e : NameId × String} (he : e ∈ seen) : ∃ scope ∈ s, ∃ v, (e.1, v) ∈ scope := by
  have found : (Assoc.get? e.1 seen).isSome = true :=
    Assoc.isSome_get?_of_mem (List.mem_map_of_mem he)
  rw [get?_visibleTexts once h] at found
  obtain ⟨text, htext⟩ := Option.isSome_iff_exists.1 found
  obtain ⟨⟨n, v⟩, hfind, -⟩ := Option.bind_eq_some_iff.1 htext
  obtain ⟨-, scope, hs, hget⟩ := get?_of_findFrom hfind
  exact ⟨scope, List.mem_of_getElem? hs, v, Assoc.mem_of_get? hget⟩

/-- **What templates are told agrees with what paths give.**  The texts are collected just where every
binding stands for a value and every counter at a number that can be written, also those that an inner scope
hides, and the failure is that of the first binding that has no wording.  Of each variable a template is told what its innermost binding shows,
whatever is bound in the scopes around; other names stand for nothing. -/
theorem visibleTexts_tell {names : NameTable} (nodup : names.names.Nodup) (once : s.OncePerScope)
    (named : ∀ scope ∈ s, ∀ b ∈ scope, b.1 < names.size) :
    ((∃ seen, s.visibleTexts = .ok seen) ↔ s.Resolving ∧ s.Writable)
    ∧ (∀ e, s.visibleTexts = .error e ↔ s.flatten.mapM (fun b => s.wording b.2) = .error e)
    ∧ ∀ seen, s.visibleTexts = .ok seen →
        (∀ x < names.size, Tells s x (Assoc.get? (names.display x) (told names seen)))
        ∧ ∀ name, (∀ x < names.size, names.display x ≠ name) →
          Assoc.get? name (told names seen) = none := by
  refine ⟨exists_visibleTexts_iff, fun e => visibleTexts_eq_error_iff, fun seen hseen => ?_⟩
  have known : ∀ e ∈ seen, e.1 < names.size := by
    intro e he
    obtain ⟨scope, hs, v, hv⟩ := exists_bound_of_mem once hseen he
    exact named scope hs _ hv
  constructor
  · intro x hx
    have apart : ∀ e ∈ seen, names.display e.1 = names.display x → e.1 = x :=
      fun e he same => names.display_inj nodup (known e he) hx same
    rw [told, Assoc.get?_rename apart, get?_visibleTexts once hseen]
    obtain ⟨resolving, writable⟩ := exists_visibleTexts_iff.1 ⟨seen, hseen⟩
    exact tells_findFrom resolving writable x
  · intro name other
    refine Assoc.get?_eq_none fun e he => ?_
    obtain ⟨known_entry, hmem, rfl⟩ := List.mem_map.1 he
    exact other known_entry.1 (known known_entry hmem)

/-- Lists, counters and texts that hide each other, and a reference that is hidden. -/
def shadowing : Scopes :=
  [[(0, .list [.ofText "a"]), (1, .ofText "b"), (2, .counter 3 7 2), (3, .ref 0 0 0)],
   [(1, .list []), (3, .ref 0 2 1), (0, .ofText "c")],
   [(2, .ref 1 0 0)]]

theorem visibleTexts_tell_shadowing :
    let names : NameTable := ⟨["x", "y", "z", "cursor", "unbound"]⟩
    names.names.Nodup ∧ shadowing.OncePerScope
    ∧ (∀ scope ∈ shadowing, ∀ b ∈ scope, b.1 < names.size)
    ∧ ∃ seen, shadowing.visibleTexts = .ok seen
      ∧ told names seen = [("z", "c"), ("cursor", "4"), ("x", "c")]
      ∧ (∀ x < names.size, Tells shadowing x (Assoc.get? (names.display x) (told names seen)))
      ∧ ∀ name, (∀ x < names.size, names.display x ≠ name) →
          Assoc.get? name (told names seen) = none := by
  intro names
  have nodup : names.names.Nodup := by decide
  have once : shadowing.OncePerScope := by decide
  have named : ∀ scope ∈ shadowing, ∀ b ∈ scope, b.1 < names.size := by decide
  obtain ⟨-, -, tell⟩ := visibleTexts_tell nodup once named
  have seen : shadowing.visibleTexts = .ok [(2, "c"), (3, "4"), (0, "c")] := by decide +kernel
  exact ⟨nodup, once, named, _, seen, by decide, tell _ seen⟩

/-- **A hidden binding can keep templates from being rendered.**  Whatever variable is looked up stands for
a value, and a path to the only variable with a text gives it; but the texts are not collected, because the
binding that is hidden refers to an element of an empty list. -/
theorem visibleTexts_fail_of_hidden :
    let s : Scopes := [[(0, .list []), (1, .ref 0 0 0)], [(1, .ofText "seen")]]
    (∀ x n v, s.lookup x = .ok (n, v) → ∃ w, s.deref v = .ok w)
    ∧ s.resolveText (.last 1 .whole) = .ok "seen"
    ∧ s.visibleTexts = .error (.access (.listRange 0 0)) := by
  refine ⟨fun x n v found => ?_, rfl, by decide +kernel⟩
  match x with
  | 0 | 1 =>
    obtain ⟨rfl, rfl⟩ := Prod.mk.inj (Except.ok.inj found)
    exact ⟨_, rfl⟩
  | x + 2 => cases found

end Scopes

/-- A bed whose template program empties the list that it walks over, and binds the loop variable anew
before it renders a file. -/
def Bed.hidingBed : Document :=
  .mapping [("templates", .mapping [("t", .list [
    .mapping [("set", .mapping [("xs", .list [.text "a"])])],
    .mapping [("for", .text "x"), ("in", .text "xs"), ("do", .list [
      .mapping [("assign", .mapping [("xs", .list [])])],
      .mapping [("set", .mapping [("x", .text "seen")])],
      .mapping [("build", .mapping [("f", .mapping [("build", .list [.text "t", .text "o"])])])]])]])])]

/-- Programs of a bed come to such stacks: no file is rendered here though `x` is a text. -/
example :
    (do
      let bed ← (Bed.ofDocument default Bed.hidingBed).toOption
      let e ← bed.templates.head?
      return (Machine.run (Rendering.executor bed.names) Machine.never 9 (compile e.2) true []
        ⟨{ output := default, includes := [⟨.relative, []⟩], engine := .plain },
          { (default : World) with disk := [(⟨.workspace, ["t"]⟩, .file [])] }⟩).1)
      = some (.failed 6 (.listRange 0 0) (some "templates.t[1].do[2].build.f")) := by
  decide +kernel

end Sweep
