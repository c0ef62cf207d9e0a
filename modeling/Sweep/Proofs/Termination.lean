import Mathlib.Algebra.Group.Int.Defs
import Mathlib.Algebra.Group.Nat.Defs
import Sweep.Proofs.References
import Sweep.Proofs.Simulation

/-!
# Programs come to an end

A loop asks at every round how long it still is, and the answer may change while it runs: a variable may
walk over the element at which another one stands.  What bounds a loop is therefore no length that was read
at its beginning.  The bound is taken from all the values on the scopes around it and on its own: no
position that is followed by a further element reaches it, whatever the variables walk over.  Every round
moves each variable on, so there are fewer rounds than the bound.

* `Value.reach`, `Scopes.Within` — how far one can walk over a value, or over anything in it, and a bound
  for all values of a stack; resolving goes nowhere else (`Scopes.Within.of_deref`), cyclic and dangling
  references included;
* `Scope.Past` — a loop variable stands at a position or has passed it;
* `Settles` — what an action comes to when it is given enough rounds: an answer with a property, or a
  failure, and the same with any more rounds;
* `answered_begin`, `answered_proceed` — what beginning a variable and moving it on do;
* `settles_repeatRounds`, `keeps_loop` — rounds with a measure, and loops;
* `stays_walkAll` — all statements, by induction over the tree.

The main statement is `run_comes_to_end`.
-/

namespace Sweep

variable {κ ω α β : Type}

/-! ### How far one can walk -/

namespace Value

mutual

/-- How many elements can be walked over, in a value or in anything that is selected from it. -/
def reach : Value → Nat
  | counter start stop _ => span start stop
  | list items => max items.length (reachItems items)
  | _ => 1

def reachItems : List Value → Nat
  | [] => 0
  | v :: rest => max (reach v) (reachItems rest)

end

theorem reach_le_of_mem {items : List Value} {v : Value} (h : v ∈ items) :
    v.reach ≤ reachItems items := by
  induction items with
  | nil => cases h
  | cons u rest ih =>
    rw [reachItems]
    rcases List.mem_cons.1 h with rfl | h
    · exact Nat.le_max_left _ _
    · exact Nat.le_trans (ih h) (Nat.le_max_right _ _)

theorem steps_le_reach (v : Value) : v.steps ≤ v.reach := by
  cases v with
  | list items => exact Nat.le_max_left _ _
  | counter | ref | struct => exact Nat.le_refl _

theorem reach_of_select {v part : Value} {offset : Int} (h : v.select offset = .ok part) :
    part.reach ≤ v.reach := by
  cases v with
  | counter start stop position =>
    rw [select] at h
    split at h
    · obtain rfl := Except.ok.inj h
      exact Nat.le_refl _
    · cases h
  | list items =>
    rw [select] at h
    split at h
    · next u found =>
      obtain rfl := Except.ok.inj h
      split at found
      · exact Nat.le_trans (reach_le_of_mem (List.mem_of_getElem? found)) (Nat.le_max_right _ _)
      · cases found
    · cases h
  | ref | struct =>
    rw [select] at h
    · split at h
      · obtain rfl := Except.ok.inj h
        exact Nat.le_refl _
      · cases h
    · intro items other
      cases other
    · intro start stop position other
      cases other

/-- The position at which a loop variable stands. -/
def position? : Value → Option Int
  | counter _ _ offset | ref _ _ offset => some offset
  | _ => none

end Value

namespace Scopes

variable {s : Scopes} {bound n : Nat} {x : NameId} {v w : Value}

/-- No value of the scopes can be walked over further than a bound. -/
def Within (bound : Nat) (s : Scopes) : Prop := ∀ scope ∈ s, ∀ e ∈ scope, e.2.reach ≤ bound

theorem exists_within (s : Scopes) : ∃ bound, s.Within bound := by
  refine ⟨Value.reachItems (s.flatten.map (·.2)), fun scope hscope e he => ?_⟩
  exact Value.reach_le_of_mem (List.mem_map_of_mem (List.mem_flatten_of_mem hscope he))

theorem Within.of_binding {scope : Int} (h : s.Within bound) (hv : s.binding scope x = .ok v) :
    v.reach ≤ bound := by
  cases scope with
  | negSucc => cases hv
  | ofNat n =>
    obtain ⟨sc, hsc, hget⟩ := binding_iff.1 hv
    exact h sc (List.mem_of_getElem? hsc) (x, v) (Assoc.mem_of_get? hget)

/-- Resolving goes nowhere but to values of the scopes and to what they hold. -/
theorem Within.of_derefWithin (h : s.Within bound) (budget : Nat) (hv : v.reach ≤ bound)
    (hw : s.derefWithin budget v = .ok w) : w.reach ≤ bound := by
  induction budget generalizing v w with
  | zero =>
    cases v with
    | ref => cases hw
    | counter | struct | list =>
      obtain rfl := Except.ok.inj hw
      exact hv
  | succ budget ih =>
    cases v with
    | ref scope target offset =>
      obtain ⟨target_value, hbinding, hw⟩ := exists_of_bind_ok hw
      obtain ⟨whole, hwhole, hw⟩ := exists_of_bind_ok hw
      obtain ⟨part, hpart, hw⟩ := exists_of_bind_ok hw
      have of_whole : whole.reach ≤ bound := ih (h.of_binding hbinding) hwhole
      exact ih (Nat.le_trans (Value.reach_of_select hpart) of_whole) hw
    | counter | struct | list =>
      obtain rfl := Except.ok.inj hw
      exact hv

theorem Within.of_deref (h : s.Within bound) (hv : v.reach ≤ bound) (hw : s.deref v = .ok w) :
    w.reach ≤ bound :=
  h.of_derefWithin chainLimit hv hw

/-- Writing a value in the innermost scope keeps a bound that holds of the value. -/
theorem Within.set {inner : Scope} (h : Within bound (s ++ [inner])) (hv : v.reach ≤ bound) :
    Within bound (s ++ [Assoc.set x v inner]) := by
  intro scope hscope e he
  rcases List.mem_append.1 hscope with outer | inmost
  · exact h scope (List.mem_append_left _ outer) e he
  · obtain rfl := List.mem_singleton.1 inmost
    rcases Assoc.mem_set he with rfl | he
    · exact hv
    · exact h inner (List.mem_append_right _ (List.mem_singleton_self inner)) e he

end Scopes

/-- A scope binds a loop variable, which stands at a position or has passed it. -/
def Scope.Past (scope : Scope) (x : NameId) (position : Int) : Prop :=
  ∃ v offset, Assoc.get? x scope = some v ∧ v.position? = some offset ∧ position ≤ offset

theorem Scope.Past.set {scope : Scope} {x y : NameId} {v : Value} {position offset : Int}
    (h : scope.Past y position) (hv : v.position? = some offset) (le : y = x → position ≤ offset) :
    Scope.Past (Assoc.set x v scope) y position := by
  obtain ⟨u, before, hget, hu, hle⟩ := h
  by_cases hy : y = x
  · exact ⟨v, offset, by rw [Assoc.get?_set, if_pos hy], hv, le hy⟩
  · exact ⟨u, before, by rw [Assoc.get?_set, if_neg hy, hget], hu, hle⟩

theorem Scope.past_set {x : NameId} {v : Value} {offset : Int} (scope : Scope)
    (hv : v.position? = some offset) : Scope.Past (Assoc.set x v scope) x offset :=
  ⟨v, offset, by rw [Assoc.get?_set, if_pos rfl], hv, Int.le_refl _⟩

/-! ### What may be carried out -/

/-- Crashes that come from an executor: from a command of some kind, from a visit, or at the end. -/
inductive Executor.Raises (ex : Executor κ ω) (C : κ → Prop) : Crash → Prop where
  | execute {k : κ} {s : Scopes} {w : ω} {c : Crash} (hk : C k)
      (h : (ex.execute k s w).1 = .error (.crash c)) : Raises ex C c
  | visit {x : NameId} {position : Int} {v : Value} {s : Scopes} {w : ω} {c : Crash}
      (h : (ex.visit x position v s w).1 = .error (.crash c)) : Raises ex C c
  | finish {s : Scopes} {w : ω} {c : Crash} (h : (ex.finish s w).1 = .error c) : Raises ex C c

/-- Crashes of a run: those of the executor, and that a number is to be written that has too many
digits. -/
inductive Executor.Breaks (ex : Executor κ ω) (C : κ → Prop) : Crash → Prop where
  | raised {c : Crash} (h : ex.Raises C c) : Breaks ex C c
  | unwritable : Breaks ex C (.number .unwritable)

/-- Commands of some kind leave the scopes alone, and so do visits. -/
structure Executor.Inert (ex : Executor κ ω) (C : κ → Prop) : Prop where
  execute : ∀ c s w, C c → (ex.execute c s w).2.1 = s
  visit : ∀ x position v s w, (ex.visit x position v s w).2.1 = s

/-- An instruction that binds in the innermost scope, or a command of some kind. -/
def Instruction.IsLocal (C : κ → Prop) : Instruction κ → Prop
  | create _ _ none => True
  | command c => C c
  | _ => False

namespace Statement

mutual

/-- Statements that bind at most in the scope around them, with a variable for every loop in lock
step. -/
def IsLocal (C : κ → Prop) : Statement κ → Prop
  | single i _ => i.IsLocal C
  | loop mode vars body _ => (mode = .group → vars ≠ []) ∧ AreLocal C body
  | guarded _ body _ => AreLocal C body

def AreLocal (C : κ → Prop) : List (Statement κ) → Prop
  | [] => True
  | t :: rest => IsLocal C t ∧ AreLocal C rest

end

mutual

theorem IsLocal.plain {C : κ → Prop} (t : Statement κ) (h : t.IsLocal C) : t.All (·.isPlain = true) := by
  match t with
  | .single i _ =>
    cases i with
    | create | command => rfl
    | pushScope | popScope | assign | push | start | advance | branch | goto => cases h
  | .loop _ _ body _ => exact AreLocal.plain body h.2
  | .guarded _ body _ => exact AreLocal.plain body h

theorem AreLocal.plain {C : κ → Prop} (ts : List (Statement κ)) (h : AreLocal C ts) :
    AllIn (·.isPlain = true) ts := by
  match ts with
  | [] => trivial
  | t :: rest => exact ⟨IsLocal.plain t h.1, AreLocal.plain rest h.2⟩

end

end Statement

namespace Machine

variable {ex : Executor κ ω} {C : κ → Prop}

/-! ### Single actions -/

/-- An action came to an answer with a property, or something failed to resolve, or it crashed. -/
def Answered (ex : Executor κ ω) (C : κ → Prop) (Q : α → Scopes → Prop) :
    Except Failure α × Scopes × ω → Prop
  | (.ok a, s, _) => Q a s
  | (.error (.access _), _) => True
  | (.error (.crash c), _) => ex.Breaks C c

theorem answered_reading {Q : β → Scopes → Prop} {r : Except ReadError α} {s : Scopes} {w : ω}
    {next : α → Except Failure β × Scopes × ω} (h : ∀ a, r = .ok a → Answered ex C Q (next a)) :
    Answered ex C Q (reading r s w next) := by
  cases r with
  | error e =>
    cases e with
    | access e => trivial
    | unwritable => exact .unwritable
  | ok a => exact h a rfl

section Actions

variable (inert : ex.Inert C) {base : Scopes} {inner : Scope} {bound : Nat} {x : NameId}

include inert

theorem answered_visiting {Q : Bool → Scopes → Prop} {s : Scopes} (h : Q true s) (x : NameId)
    (position : Int) (v : Value) (w : ω) : Answered ex C Q (visiting ex x position v s w) := by
  have same := inert.visit x position v s w
  rw [visiting]
  rcases hr : ex.visit x position v s w with ⟨f | u, s', w'⟩
  · cases f with
    | access e => trivial
    | crash c => exact .raised (.visit (by rw [hr]))
  · rw [hr] at same
    obtain rfl : s' = s := same
    exact h

/-- A command of the kind, or a binding in the innermost scope. -/
theorem answered_plainStep {i : Instruction κ} (is_local : i.IsLocal C) (base : Scopes) (inner : Scope)
    (w : ω) : Answered ex C (fun _ s' => ∃ inner', s' = base ++ [inner'])
      (plainStep ex i (base ++ [inner]) w) := by
  cases i with
  | create x e scope =>
    cases scope with
    | some n => cases is_local
    | none => exact answered_reading fun v _ => ⟨_, Scopes.bind_snoc base inner x v⟩
  | command c =>
    have same := inert.execute c (base ++ [inner]) w is_local
    rw [plainStep]
    rcases hr : ex.execute c (base ++ [inner]) w with ⟨f | u, s', w'⟩
    · cases f with
      | access e => trivial
      | crash c => exact .raised (.execute is_local (by rw [hr]))
    · rw [hr] at same
      exact ⟨inner, same⟩
  | pushScope | popScope | assign | push | start | advance | branch | goto => cases is_local

/-- **A loop variable that begins** is bound in the innermost scope, at its first position.  Loop
variables that stand there already are at no earlier one afterwards. -/
theorem answered_begin (base : Scopes) (inner : Scope) (x : NameId) (w : ω) (t : Target) :
    Answered ex C (fun yes s' => ∃ inner', s' = base ++ [inner'] ∧
      (∀ y, inner.Past y 0 → inner'.Past y 0) ∧ (yes = true → inner'.Past x 0))
      (begin_ ex x (base ++ [inner]) w t) := by
  have empty : ∃ inner', base ++ [inner] = base ++ [inner'] ∧
      (∀ y, inner.Past y 0 → Scope.Past inner' y 0) ∧ (false = true → Scope.Past inner' x 0) :=
    ⟨inner, rfl, fun _ h => h, nofun⟩
  have begun {v : Value} (hv : v.position? = some 0) :
      ∃ inner', (base ++ [inner]).bind x v = base ++ [inner'] ∧
      (∀ y, inner.Past y 0 → Scope.Past inner' y 0) ∧ (true = true → Scope.Past inner' x 0) :=
    ⟨_, Scopes.bind_snoc base inner x v, fun y h => h.set hv fun _ => Int.le_refl 0,
      fun _ => Scope.past_set inner hv⟩
  cases t with
  | range lo hi =>
    refine answered_reading fun ⟨a, b⟩ _ => ?_
    dsimp only
    split
    · exact answered_visiting inert (begun rfl) _ _ _ _
    · exact empty
  | elements t =>
    refine answered_reading fun ⟨n, whole⟩ _ => ?_
    dsimp only
    split
    · exact empty
    · exact answered_reading fun whole _ => answered_visiting inert (begun rfl) _ _ _ _

/-- What moving a loop variable on leaves: the variable is one position further, no other one is moved
back, and a further element is within the bound. -/
structure MovedOn (base : Scopes) (inner : Scope) (bound : Nat) (x : NameId) (yes : Bool)
    (s' : Scopes) (inner' : Scope) : Prop where
  scopes_eq : s' = base ++ [inner']
  within : s'.Within bound
  kept : ∀ y k, inner.Past y k → inner'.Past y k
  moved : ∀ k, inner.Past x k → inner'.Past x (k + 1) ∧ (yes = true → k + 1 < bound)

/-- **A loop variable that moves on** in the innermost scope. -/
theorem answered_proceed (bound_x : inner.Past x 0) (within : Scopes.Within bound (base ++ [inner]))
    (w : ω) : Answered ex C (fun yes s' => ∃ inner', MovedOn base inner bound x yes s' inner')
      (proceed ex x (base ++ [inner]) w) := by
  obtain ⟨cursor, offset, hget, hposition, -⟩ := bound_x
  have found : (base ++ [inner]).lookup x = .ok (base.length, cursor) := by
    rw [Scopes.lookup_snoc, hget]
  have stored : (base ++ [inner]).binding base.length x = .ok cursor := Scopes.binding_of_lookup found
  -- the cursor is written one position further, and nothing else is
  have onward {next : Value} (hnext : next.position? = some (offset + 1))
      (reach_eq : next.reach = cursor.reach) {yes : Bool} (more : yes = true → offset + 1 < bound) :
      ∃ inner', MovedOn base inner bound x yes ((base ++ [inner]).write base.length x next) inner' := by
    refine ⟨Assoc.set x next inner, Scopes.write_snoc base inner x next, ?_, fun y k h => ?_,
      fun k h => ?_⟩
    · rw [Scopes.write_snoc]
      exact within.set (reach_eq ▸ within.of_binding stored)
    · refine h.set hnext fun hy => ?_
      obtain ⟨v, o, hv, ho, hle⟩ := h
      obtain rfl := Option.some.inj ((hy ▸ hv).symm.trans hget)
      obtain rfl := Option.some.inj (ho.symm.trans hposition)
      omega
    · obtain ⟨v, o, hv, ho, hle⟩ := h
      obtain rfl := Option.some.inj (hv.symm.trans hget)
      obtain rfl := Option.some.inj (ho.symm.trans hposition)
      obtain ⟨v, o, hv, ho, _⟩ := Scope.past_set inner hnext (x := x)
      exact ⟨⟨v, o, hv, ho, by omega⟩, fun hyes => by have := more hyes; omega⟩
  rw [proceed, found]
  cases cursor with
  | struct | list => cases hposition
  | counter a b o =>
    obtain rfl := Option.some.inj hposition
    have short : Value.span a b ≤ bound := within.of_binding stored
    have next_position : (Value.counter a b (o + 1)).position? = some (o + 1) := rfl
    dsimp only [reading]
    split
    · next further =>
      exact answered_visiting inert (onward next_position rfl fun _ => by omega) _ _ _ _
    · exact onward next_position rfl nofun
  | ref scope t o =>
    obtain rfl := Option.some.inj hposition
    have next_position : (Value.ref scope t (o + 1)).position? = some (o + 1) := rfl
    dsimp only [reading]
    refine answered_reading fun whole resolved => ?_
    obtain ⟨target, hbinding, hderef⟩ := exists_of_bind_ok resolved
    have short : whole.reach ≤ bound := within.of_deref (within.of_binding hbinding) hderef
    have steps := whole.steps_le_reach
    split
    · next further =>
      exact answered_visiting inert (onward next_position rfl fun _ => by omega) _ _ _ _
    · exact onward next_position rfl nofun

end Actions

/-! ### Putting actions together -/

/-- A walk came to an answer with a property, or something failed to resolve, or it crashed; no loop was out
of rounds. -/
def Settled (ex : Executor κ ω) (C : κ → Prop) (Q : α → Scopes → Prop) :
    Except Halt α × Scopes × ω → Prop
  | (.ok a, s, _) => Q a s
  | (.error (.failed ..), _) => True
  | (.error (.crashed c), _) => ex.Breaks C c
  | (.error .exhausted, _) => False

/-- **With enough rounds a walk settles**: it comes to an answer with a property or to a failure, and to
the same with any more rounds. -/
def Settles (ex : Executor κ ω) (C : κ → Prop) (A : Nat → Walking ω α) (here : Scopes × ω)
    (Q : α → Scopes → Prop) : Prop :=
  ∃ r, Settled ex C Q r ∧ ∃ enough, ∀ rounds ≥ enough, A rounds here = r

theorem Settled.mono {Q Q' : α → Scopes → Prop} {r : Except Halt α × Scopes × ω}
    (h : Settled ex C Q r) (weaker : ∀ a s, Q a s → Q' a s) : Settled ex C Q' r := by
  obtain ⟨h' | a, s, w⟩ := r
  · cases h' with
    | failed | crashed | exhausted => exact h
  · exact weaker a s h

theorem Settles.mono {Q Q' : α → Scopes → Prop} {A : Nat → Walking ω α} {here : Scopes × ω}
    (h : Settles ex C A here Q) (weaker : ∀ a s, Q a s → Q' a s) : Settles ex C A here Q' := by
  obtain ⟨r, settled, enough⟩ := h
  exact ⟨r, settled.mono weaker, enough⟩

theorem settles_pure {Q : α → Scopes → Prop} {a : α} {s : Scopes} {w : ω} (h : Q a s) :
    Settles ex C (fun _ => pure a) (s, w) Q :=
  ⟨(.ok a, s, w), h, 0, fun _ _ => rfl⟩

/-- An action that knows no rounds. -/
theorem settles_act {Q : α → Scopes → Prop} {origin : Option String}
    {action : Scopes → ω → Except Failure α × Scopes × ω} {s : Scopes} {w : ω}
    (h : Answered ex C Q (action s w)) :
    Settles ex C (fun _ => Walk.act origin action) (s, w) Q := by
  refine ⟨_, ?_, 0, fun _ _ => rfl⟩
  unfold Walk.act
  dsimp only
  rcases hr : action s w with ⟨f | a, next⟩
  · rw [hr] at h
    cases f with
    | access | crash => exact h
  · rw [hr] at h
    exact h

theorem Settles.bind {Q : α → Scopes → Prop} {Q' : β → Scopes → Prop} {A : Nat → Walking ω α}
    {B : α → Nat → Walking ω β} {here : Scopes × ω} (first : Settles ex C A here Q)
    (second : ∀ a s w, Q a s → Settles ex C (B a) (s, w) Q') :
    Settles ex C (fun rounds => A rounds >>= fun a => B a rounds) here Q' := by
  obtain ⟨⟨h | a, s, w⟩, settled, enough, same⟩ := first
  · refine ⟨(.error h, s, w), ?_, enough, fun rounds le => ?_⟩
    · cases h with
      | failed | crashed | exhausted => exact settled
    · dsimp only
      rw [bind_apply, same rounds le]
  · obtain ⟨r, settled', enough', same'⟩ := second a s w settled
    refine ⟨r, settled', max enough enough', fun rounds le => ?_⟩
    dsimp only
    rw [bind_apply, same rounds (by omega)]
    exact same' rounds (by omega)

/-- A walk that settles and leaves the scopes as they were. -/
def Keeps (ex : Executor κ ω) (C : κ → Prop) (A : Nat → Walking ω Unit) : Prop :=
  ∀ s w, Settles ex C A (s, w) fun _ s' => s' = s

/-- A walk that settles and changes at most the innermost scope. -/
def Stays (ex : Executor κ ω) (C : κ → Prop) (A : Nat → Walking ω Unit) : Prop :=
  ∀ base inner w, Settles ex C A (base ++ [inner], w) fun _ s' => ∃ inner', s' = base ++ [inner']

theorem Keeps.stays {A : Nat → Walking ω Unit} (keeps : Keeps ex C A) : Stays ex C A :=
  fun base inner w => (keeps (base ++ [inner]) w).mono fun _ _ same => ⟨inner, same⟩

/-- What is bound in a scope of its own is gone afterwards. -/
theorem keeps_inScope {A : Nat → Walking ω Unit} (h : ∀ (s : Scopes) w,
    Settles ex C A (s.push, w) fun _ s' => ∃ inner, s' = s ++ [inner]) :
    Keeps ex C fun rounds => Walk.inScope (A rounds) := by
  intro s w
  have pushed : Settles ex C (fun _ => Walk.change (ω := ω) Scopes.push) (s, w) fun _ s' => s' = s.push :=
    ⟨(.ok (), s.push, w), rfl, 0, fun _ _ => rfl⟩
  refine pushed.bind fun _ s' w' hs' => ?_
  subst hs'
  refine (h s w').bind fun _ s' w'' hs' => ?_
  obtain ⟨inner, rfl⟩ := hs'
  exact ⟨(.ok (), (s ++ [inner]).pop, w''), Scopes.pop_snoc s inner, 0, fun _ _ => rfl⟩

theorem Stays.inScope {A : Nat → Walking ω Unit} (stays : Stays ex C A) :
    Keeps ex C fun rounds => Walk.inScope (A rounds) :=
  keeps_inScope fun s w => stays s [] w

/-- **Rounds with a measure.**  Whenever some measure is left, a round settles, and if it was not the last
one then less is left.  With enough rounds the repetition settles, by induction on what is left. -/
theorem settles_repeatRounds {round : Nat → Walking ω Bool} {left : Nat → Scopes → Prop}
    {Q : Scopes → Prop}
    (once : ∀ m s w, left m s →
      Settles ex C round (s, w) fun more s' => Q s' ∧ (more = true → ∃ n < m, left n s'))
    {m : Nat} {s : Scopes} {w : ω} (h : left m s) :
    Settles ex C (fun rounds => Walk.repeatRounds (round rounds) rounds) (s, w) fun _ s' => Q s' := by
  -- the rounds of this loop and those of the loops inside it are counted apart
  suffices ∃ r, Settled ex C (fun _ s' => Q s') r ∧ ∃ enough, ∀ rounds ≥ enough, ∀ turns ≥ enough,
      Walk.repeatRounds (round rounds) turns (s, w) = r by
    obtain ⟨r, settled, enough, same⟩ := this
    exact ⟨r, settled, enough, fun rounds le => same rounds le rounds le⟩
  induction m using Nat.strongRecOn generalizing s w with
  | ind m ih =>
    obtain ⟨⟨f | more, s', w'⟩, settled, enough, same⟩ := once m s w h
    · refine ⟨(.error f, s', w'), ?_, enough + 1, fun rounds le turns le' => ?_⟩
      · cases f with
        | failed | crashed | exhausted => exact settled
      · obtain ⟨turns, rfl⟩ : ∃ n, turns = n + 1 := ⟨turns - 1, by omega⟩
        rw [Walk.repeatRounds, bind_apply, same rounds (by omega)]
    · obtain ⟨hQ, further⟩ := settled
      cases more with
      | false =>
        refine ⟨(.ok (), s', w'), hQ, enough + 1, fun rounds le turns le' => ?_⟩
        obtain ⟨turns, rfl⟩ : ∃ n, turns = n + 1 := ⟨turns - 1, by omega⟩
        rw [Walk.repeatRounds, bind_apply, same rounds (by omega)]
        rfl
      | true =>
        obtain ⟨n, less, hn⟩ := further rfl
        obtain ⟨r, settled', enough', same'⟩ := ih n less hn (w := w')
        refine ⟨r, settled', max enough enough' + 1, fun rounds le turns le' => ?_⟩
        obtain ⟨turns, rfl⟩ : ∃ n, turns = n + 1 := ⟨turns - 1, by omega⟩
        rw [Walk.repeatRounds, bind_apply, same rounds (by omega)]
        exact same' rounds (by omega) turns (by omega)

/-! ### Loops -/

section Loops

variable (inert : ex.Inert C) {origin : Option String}

include inert

/-- All variables of a loop begin: after a yes each is bound in the innermost scope. -/
theorem settles_begins (vars : List (NameId × Target)) (base : Scopes) (inner : Scope) (w : ω) :
    Settles ex C (fun _ => Walk.allYes (vars.map (Walk.begin_ ex origin))) (base ++ [inner], w)
      fun yes s' => ∃ inner', s' = base ++ [inner'] ∧ (∀ y, inner.Past y 0 → inner'.Past y 0) ∧
        (yes = true → ∀ v ∈ vars, inner'.Past v.1 0) := by
  induction vars generalizing inner w with
  | nil => exact settles_pure ⟨inner, rfl, fun _ h => h, nofun⟩
  | cons v vars ih =>
    refine (settles_act (answered_begin inert base inner v.1 w v.2)).bind fun yes s' w' h => ?_
    obtain ⟨inner₁, rfl, kept, begun⟩ := h
    cases yes with
    | false => exact settles_pure ⟨inner₁, rfl, kept, nofun⟩
    | true =>
      refine (ih inner₁ w').mono fun yes s' h => ?_
      obtain ⟨inner₂, rfl, kept', begun'⟩ := h
      refine ⟨inner₂, rfl, fun y h => kept' y (kept y h), fun hyes u hu => ?_⟩
      rcases List.mem_cons.1 hu with rfl | hu
      · exact kept' _ (begun rfl)
      · exact begun' hyes u hu

/-- All variables of a loop move on: after a yes each is one position further, and was before the
bound. -/
theorem settles_proceeds {bound : Nat} {base : Scopes} (vars : List (NameId × Target)) {inner : Scope}
    (bound_vars : ∀ v ∈ vars, inner.Past v.1 0) (within : Scopes.Within bound (base ++ [inner])) (w : ω) :
    Settles ex C (fun _ => Walk.allYes (vars.map (Walk.proceed ex origin))) (base ++ [inner], w)
      fun yes s' => ∃ inner', s' = base ++ [inner'] ∧ s'.Within bound ∧
        (∀ y k, inner.Past y k → inner'.Past y k) ∧
        (yes = true → ∀ v ∈ vars, ∀ k, inner.Past v.1 k → inner'.Past v.1 (k + 1) ∧ k + 1 < bound) := by
  induction vars generalizing inner w with
  | nil => exact settles_pure ⟨inner, rfl, within, fun _ _ h => h, nofun⟩
  | cons v vars ih =>
    have first := answered_proceed inert (bound_vars v List.mem_cons_self) within w
    refine (settles_act first).bind fun yes s' w' h => ?_
    obtain ⟨inner₁, moved⟩ := h
    obtain rfl := moved.scopes_eq
    cases yes with
    | false => exact settles_pure ⟨inner₁, rfl, moved.within, moved.kept, nofun⟩
    | true =>
      have bound_rest : ∀ u ∈ vars, inner₁.Past u.1 0 := fun u hu =>
        moved.kept _ _ (bound_vars u (List.mem_cons_of_mem v hu))
      refine (ih bound_rest moved.within w').mono fun yes s' h => ?_
      obtain ⟨inner₂, rfl, within', kept, further⟩ := h
      refine ⟨inner₂, rfl, within', fun y k h => kept y k (moved.kept y k h), fun hyes u hu k hk => ?_⟩
      rcases List.mem_cons.1 hu with rfl | hu
      · obtain ⟨past, less⟩ := moved.moved k hk
        exact ⟨kept _ _ past, less rfl⟩
      · exact further hyes u hu k (moved.kept _ _ hk)

/-- **Loops.**  A loop with at least one variable settles if what it repeats settles and leaves the scopes
alone.  What is left of it is the distance of its variables from the bound for the scopes; repeated names and
variables that walk over one another make no difference. -/
theorem keeps_loop (origin : Option String) {A : Nat → Walking ω Unit} (keeps : Keeps ex C A)
    {vars : List (NameId × Target)} (nonempty : vars ≠ []) :
    Keeps ex C fun rounds => Walk.inScope (do
      if ← Walk.allYes (vars.map (Walk.begin_ ex origin)) then
        Walk.repeatRounds (do A rounds; Walk.allYes (vars.map (Walk.proceed ex origin))) rounds) := by
  refine keeps_inScope fun base w => ?_
  refine (settles_begins inert vars base [] w).bind fun yes s' w' h => ?_
  obtain ⟨inner, rfl, -, begun⟩ := h
  cases yes with
  | false => exact settles_pure ⟨inner, rfl⟩
  | true =>
    obtain ⟨bound, within⟩ := Scopes.exists_within (base ++ [inner])
    let left (m : Nat) (s : Scopes) : Prop := ∃ inner, s = base ++ [inner] ∧ s.Within bound ∧
      ∃ k : Nat, (∀ v ∈ vars, inner.Past v.1 k) ∧ bound ≤ k + m
    suffices once : ∀ m s w, left m s → Settles ex C _ (s, w) _ from
      settles_repeatRounds once (m := bound) ⟨inner, rfl, within, 0, begun rfl, by omega⟩
    rintro m s w ⟨inner, rfl, within, k, past, measure⟩
    refine (keeps (base ++ [inner]) w).bind fun _ s' w' hs' => ?_
    subst hs'
    have bound_vars : ∀ v ∈ vars, inner.Past v.1 0 := fun v hv => by
      obtain ⟨u, o, hu, ho, le⟩ := past v hv
      exact ⟨u, o, hu, ho, by omega⟩
    refine (settles_proceeds inert vars bound_vars within w').mono fun yes s' h => ?_
    obtain ⟨inner', rfl, within', -, further⟩ := h
    refine ⟨⟨inner', rfl⟩, fun hyes => ?_⟩
    obtain ⟨v, hv⟩ := List.exists_mem_of_ne_nil vars nonempty
    have less := (further hyes v hv k (past v hv)).2
    exact ⟨m - 1, by omega, inner', rfl, within', k + 1,
      fun u hu => (further hyes u hu k (past u hu)).1, by omega⟩

theorem keeps_combinations {A : Nat → Walking ω Unit} (stays : Stays ex C A)
    (vars : List (NameId × Target)) :
    Keeps ex C fun rounds => Walk.combinations ex rounds origin (A rounds) vars := by
  induction vars with
  | nil => exact stays.inScope
  | cons v vars ih =>
    have loop := keeps_loop inert origin ih (List.cons_ne_nil v [])
    simp only [List.map_cons, List.map_nil, Walk.allYes_singleton] at loop
    exact loop

omit inert in
/-- Guards are asked, and nothing else happens. -/
theorem settles_guards (guards : List Path) (s : Scopes) (w : ω) :
    Settles ex C (fun _ => Walk.allYes (guards.map (Walk.isOpen (ω := ω) origin))) (s, w)
      fun _ s' => s' = s := by
  induction guards generalizing w with
  | nil => exact settles_pure rfl
  | cons guard guards ih =>
    have asked : Answered ex C (fun _ s' => s' = s)
        (reading (isOpen s guard) s w fun yes => (.ok yes, s, w)) := answered_reading fun _ _ => rfl
    refine (settles_act asked).bind fun yes s' w' hs' => ?_
    subst hs'
    cases yes with
    | false => exact settles_pure rfl
    | true => exact ih w'

omit inert in
theorem keeps_guarded {A : Nat → Walking ω Unit} (stays : Stays ex C A) (guards : List Path) :
    Keeps ex C fun rounds => Walk.guarded origin guards (A rounds) := by
  intro s w
  refine (settles_guards guards s w).bind fun yes s' w' hs' => ?_
  subst hs'
  cases yes with
  | false => exact settles_pure rfl
  | true => exact stays.inScope s' w'

end Loops

/-! ### All statements -/

mutual

/-- **A statement**, by induction over the tree. -/
theorem stays_walk (inert : ex.Inert C) (t : Statement κ) (is_local : t.IsLocal C) :
    Stays ex C fun rounds => t.walk ex rounds := by
  match t with
  | .single i origin =>
    exact fun base inner w => settles_act (answered_plainStep inert is_local base inner w)
  | .loop .group vars body origin =>
    exact (keeps_loop inert origin (stays_walkAll inert body is_local.2).inScope (is_local.1 rfl)).stays
  | .loop .combinations vars body origin =>
    exact (keeps_combinations inert (stays_walkAll inert body is_local.2) vars).stays
  | .guarded guards body origin =>
    exact (keeps_guarded (stays_walkAll inert body is_local) guards).stays

theorem stays_walkAll (inert : ex.Inert C) (ts : List (Statement κ))
    (are_local : Statement.AreLocal C ts) : Stays ex C fun rounds => Statement.walkAll ex rounds ts := by
  match ts with
  | [] => exact fun base inner w => settles_pure ⟨inner, rfl⟩
  | t :: rest =>
    intro base inner w
    refine (stays_walk inert t are_local.1 base inner w).bind fun _ s' w' h => ?_
    obtain ⟨inner', rfl⟩ := h
    exact stays_walkAll inert rest are_local.2 base inner' w'

end

/-- A walk over all statements, up to the end of the executor. -/
theorem settled_run (inert : ex.Inert C) (ts : List (Statement κ))
    (are_local : Statement.AreLocal C ts) (keep : Bool) (s : Scopes) (w : ω) :
    ∃ rounds, Settled ex C (fun _ _ => True) (Walk.run ex rounds ts keep s w) := by
  have closed : Settles ex C (fun rounds => do Statement.walkAll ex rounds ts; Walk.close ex)
      (s.push, w) fun _ _ => True := by
    refine (stays_walkAll inert ts are_local s [] w).bind fun _ s' w' _ => ?_
    refine ⟨_, ?_, 0, fun _ _ => rfl⟩
    rw [Walk.close]
    rcases hr : ex.finish s' w' with ⟨c | u, next⟩
    · exact .raised (.finish (by rw [hr]))
    · trivial
  obtain ⟨r, settled, enough, same⟩ := closed
  have walked := same enough (Nat.le_refl enough)
  dsimp only at walked
  refine ⟨enough, ?_⟩
  rw [Walk.run, walked]
  obtain ⟨h | u, s', w'⟩ := r
  · cases h with
    | failed | crashed | exhausted => exact settled
  · trivial

/-! ### Whole runs -/

theorem runOut_ne_exhausted (stopping : Bool) (pc : Int) (s : Scopes) (w : ω) :
    (runOut ex stopping pc s w).1 ≠ .exhausted := by
  rw [runOut]
  split
  · rcases ex.finish s w with ⟨c | u, next⟩
    · intro spent
      cases spent
    · intro spent
      cases spent
  · split
    · intro spent
      cases spent
    · intro spent
      cases spent

/-- A run that has enough budget without a flag has enough under every flag. -/
theorem runFrom_ne_exhausted (flag : Nat → ω → Bool) {p : Program κ} {budget taken : Nat} {pc : Int}
    {s : Scopes} {w : ω} (enough : (runFrom ex never p budget taken pc s w).1 ≠ .exhausted) :
    (runFrom ex flag p budget taken pc s w).1 ≠ .exhausted := by
  induction budget generalizing taken pc s w with
  | zero =>
    cases hat : p.at? pc with
    | none =>
      rw [runFrom_of_none hat]
      exact runOut_ne_exhausted _ _ _ _
    | some line =>
      rw [runFrom, hat] at enough
      exact absurd rfl enough
  | succ budget ih =>
    cases hat : p.at? pc with
    | none =>
      rw [runFrom_of_none hat]
      exact runOut_ne_exhausted _ _ _ _
    | some line =>
      cases hflag : flag taken w with
      | true =>
        rw [runFrom_of_up hat hflag]
        intro spent
        cases spent
      | false =>
        rw [runFrom_succ hat rfl] at enough
        rw [runFrom_succ hat hflag]
        rcases hs : step ex pc line.instruction s w with ⟨f | next, s', w'⟩
        · cases f with
          | access | crash =>
            intro spent
            cases spent
        · rw [hs] at enough
          exact ih enough

/-- How a run ends that nobody stops: it is complete, or something failed to resolve, or a number is to be
written that has too many digits, or the executor crashed. -/
inductive Concludes (ex : Executor κ ω) (C : κ → Prop) : Outcome → Prop where
  | finished : Concludes ex C .finished
  | failed (pc : Int) (e : AccessError) (origin : Option String) : Concludes ex C (.failed pc e origin)
  | unwritable : Concludes ex C (.crashed (.number .unwritable))
  | crashed {c : Crash} (raised : ex.Raises C c) : Concludes ex C (.crashed c)

/-- **Programs come to an end.**  Let statements bind at most in the scope around them, with commands that
leave the scopes alone, in loops and guarded blocks as deep as one likes.  From every stack of scopes and
every world some number of instructions is enough for their program: it completes, or something fails to
resolve, or it comes to a number that cannot be written, or the executor itself crashes.  Under a flag that
number is enough as well. -/
theorem run_comes_to_end (ex : Executor κ ω) {C : κ → Prop} (inert : ex.Inert C)
    {ts : List (Statement κ)} (are_local : Statement.AreLocal C ts) (keep : Bool) (s : Scopes) (w : ω) :
    ∃ budget, Concludes ex C (run ex never budget (compile ts) keep s w).1 ∧
      ∀ flag, (run ex flag budget (compile ts) keep s w).1 ≠ .exhausted := by
  obtain ⟨rounds, settled⟩ := settled_run inert ts are_local keep s w
  have together : KeepTogether ex ts keep s w := keepTogether ts are_local.plain keep s w
  obtain ⟨budget, -, unstopped, same, -⟩ := together.1 rounds
  have concludes : Concludes ex C (run ex never budget (compile ts) keep s w).1 := by
    dsimp only at unstopped same
    generalize Walk.run ex rounds ts keep s w = walked at settled same
    obtain ⟨result, here⟩ := walked
    obtain rfl : _ = result := same
    rcases ho : (run ex never budget (compile ts) keep s w).1 with _ | _ | ⟨pc, e, origin⟩ | c | _
    · exact .finished
    · exact absurd ho unstopped
    · exact .failed pc e origin
    · rw [ho] at settled
      cases settled with
      | raised raised => exact .crashed raised
      | unwritable => exact .unwritable
    · rw [ho] at settled
      exact settled.elim
  refine ⟨budget, concludes, fun flag => runFrom_ne_exhausted flag fun spent => ?_⟩
  have exhausted : (run ex never budget (compile ts) keep s w).1 = .exhausted := spent
  rw [exhausted] at concludes
  cases concludes

/-- A loop in lock step whose second variable walks over the element at which the first one stands and
whose body binds the first one anew, and a loop over a reference to itself. -/
def walkOfElements : List (Statement String) :=
  [.loop .group [(1, .elements 0), (2, .elements 1)]
      [.single (.create 1 (.struct [.literal "x"] []) none) none, .single (.command "note") none] none,
    .loop .combinations [(3, .elements 4), (3, .elements 3)] [.single (.command "note") none] none]

/-- A list of lists, and a reference to itself. -/
def listsBound : Scopes :=
  [[(0, .list [.list [.ofText "a", .ofText "b"], .list [.ofText "c", .ofText "d", .ofText "e"]]),
    (4, .ref 0 4 0)]]

theorem run_comes_to_end_walkOfElements :
    depthKeeper.Inert (fun _ => True) ∧ Statement.AreLocal (fun _ => True) walkOfElements ∧
    ∃ budget, Concludes depthKeeper (fun _ => True)
        (run depthKeeper never budget (compile walkOfElements) false listsBound []).1 ∧
      ∀ flag, (run depthKeeper flag budget (compile walkOfElements) false listsBound []).1
        ≠ .exhausted := by
  have inert : depthKeeper.Inert fun _ => True := ⟨fun _ _ _ _ => rfl, fun _ _ _ _ _ => rfl⟩
  have are_local : Statement.AreLocal (fun _ => True) walkOfElements := by
    simp [walkOfElements, Statement.AreLocal, Statement.IsLocal, Instruction.IsLocal]
  exact ⟨inert, are_local, run_comes_to_end depthKeeper inert are_local false listsBound []⟩

/-- A variable that shows the number at which another one stands. -/
def showNumber : List (Statement String) :=
  [.single (.create 1 (.struct [.hole (.last 0 .whole)] []) none) none]

/-- A number that has too many digits breaks the run that is to show it. -/
theorem runs_showNumber {n : Int} (long : Text.isWritable (n + 1) = false) (budget : Nat) :
    (run depthKeeper never budget (compile showNumber) false [[(0, .counter n n 1)]] []).1
      = if budget = 0 then .exhausted else .crashed (.number .unwritable) := by
  let s : Scopes := [[(0, .counter n n 1)], []]
  have unread : (Expr.struct [.hole (.last 0 .whole)] []).eval s = .error .unwritable := by
    have shown : s.resolveText (.last 0 .whole) = .error .unwritable :=
      if_neg (Bool.eq_false_iff.1 long)
    rw [Expr.eval, Interpolation.eval, List.mapM_cons, Interpolation.evalPart, shown]
    rfl
  have broken : step depthKeeper 0 (.create 1 (.struct [.hole (.last 0 .whole)] []) none) s []
      = (.error (.crash (.number .unwritable)), s, []) := by
    simp only [step, plainStep, unread, reading]
    rfl
  cases budget with
  | zero => rfl
  | succ budget =>
    have start : (compile showNumber).at? 0
      = some ⟨.create 1 (.struct [.hole (.last 0 .whole)] []) none, none⟩ := rfl
    have ended := runFrom_of_failure (c := ⟨0, s, []⟩) start broken budget 0
    rw [run, show Scopes.push [[(0, .counter n n 1)]] = s from rfl, ended]
    rfl

/-- **Some runs neither complete nor fail to resolve**: a number that they are to show has too many
digits. -/
theorem run_showNumber :
    let s : Scopes := [[(0, .counter (10 ^ 4300 - 1) (10 ^ 4300 - 1) 1)]]
    depthKeeper.Inert (fun _ => True) ∧ Statement.AreLocal (fun _ => True) showNumber ∧
    ∀ budget, (run depthKeeper never budget (compile showNumber) false s []).1 ≠ .finished ∧
      ∀ pc e origin,
        (run depthKeeper never budget (compile showNumber) false s []).1 ≠ .failed pc e origin := by
  intro s
  refine ⟨⟨fun _ _ _ _ => rfl, fun _ _ _ _ _ => rfl⟩, ?_, fun budget => ?_⟩
  · simp [showNumber, Statement.AreLocal, Statement.IsLocal, Instruction.IsLocal]
  · have long : Text.isWritable (10 ^ 4300 - 1 + 1) = false := by decide +kernel
    rw [runs_showNumber long]
    cases budget with
    | zero => exact ⟨nofun, nofun⟩
    | succ budget => exact ⟨nofun, nofun⟩

/-- Eighteen instructions are enough for that program, whose second loop cannot begin. -/
example : (run depthKeeper never 18 (compile walkOfElements) false listsBound []).1
    = .failed 12 .tooDeep none := by
  decide +kernel

end Machine
end Sweep
