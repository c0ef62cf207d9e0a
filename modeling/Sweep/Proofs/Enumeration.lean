import Mathlib.Algebra.Order.Ring.Int
import Mathlib.Data.List.Forall2
import Sweep.Proofs.Layout
import Sweep.Proofs.Trail
import Sweep.Proofs.Traversal

/-!
# Which rounds a loop makes

How often the body of a loop is executed, in which order, and what the loop variables stand for each
time.

* `Passes` — a trail, with the scopes at every moment at which the machine is at one position: here
  the position of the first instruction of a body;
* `Calm`, `Steady` — the body only adds variables, with values that evaluate, and runs commands that
  leave the scopes alone, at all moments that the run comes to;
* `passes_round`, `passes_rounds` — one round of a body, and all rounds of a loop over the positions
  of one variable or of several variables in lock step;
* `passes_combinations`, `passes_group` — the two layouts;
* `LoopMode.rounds` — the positions of all variables, round by round: all combinations in
  lexicographic order, or the same position for all of them.

The main statement is `loop_enumerates`.
-/

namespace Sweep.Machine

variable {κ ω : Type} {ex : Executor κ ω} {p : Program κ}

/-! ### Passing a position -/

/-- A trail from `c` to `d` on which the machine is at a position with the scopes `vs`, in order. -/
def Passes (ex : Executor κ ω) (p : Program κ) (position : Nat) (c : Config ω) (vs : List Scopes)
    (d : Config ω) : Prop :=
  ∃ cs, Trail ex p c cs d ∧ (cs.filter fun c : Config ω => c.pc = (position : Int)).map Config.scopes = vs

namespace Passes

variable {position : Nat} {c d e : Config ω} {us vs : List Scopes}

theorem refl (c : Config ω) : Passes ex p position c [] c := ⟨[], .nil c, rfl⟩

theorem trans (h₁ : Passes ex p position c us d) (h₂ : Passes ex p position d vs e) :
    Passes ex p position c (us ++ vs) e := by
  obtain ⟨cs, trail₁, rfl⟩ := h₁
  obtain ⟨ds, trail₂, rfl⟩ := h₂
  exact ⟨cs ++ ds, trail₁.append trail₂, by rw [List.filter_append, List.map_append]⟩

/-- A step from anywhere else. -/
theorem of_step {n : Nat} {s : Scopes} {w : ω} (h : Step ex p ⟨n, s, w⟩ d) (off : n ≠ position) :
    Passes ex p position ⟨n, s, w⟩ [] d :=
  ⟨[⟨n, s, w⟩], .single h, by simp [mt Int.ofNat_inj.1 off]⟩

/-- A step from the position. -/
theorem of_step_at {s : Scopes} {w : ω} (h : Step ex p ⟨position, s, w⟩ d) :
    Passes ex p position ⟨position, s, w⟩ [s] d :=
  ⟨[⟨position, s, w⟩], .single h, by simp⟩

end Passes

/-! ### Single steps -/

section Steps

variable {n : Nat} {origin : Option String} {s s' : Scopes} {w w' : ω}

theorem step_push (line_eq : p[n]? = some ⟨.pushScope, origin⟩) (s : Scopes) (w : ω) :
    Step ex p ⟨n, s, w⟩ ⟨(n + 1 : Nat), s ++ [[]], w⟩ := ⟨_, line_eq, rfl⟩

theorem step_pop (line_eq : p[n]? = some ⟨.popScope, origin⟩) (s : Scopes) (scope : Scope) (w : ω) :
    Step ex p ⟨n, s ++ [scope], w⟩ ⟨(n + 1 : Nat), s, w⟩ := by
  refine ⟨_, line_eq, ?_⟩
  show (_, (s ++ [scope]).pop, w) = _
  rw [Scopes.pop_snoc]
  rfl

theorem step_goto {m : Nat} (line_eq : p[n]? = some ⟨.goto m, origin⟩) (s : Scopes) (w : ω) :
    Step ex p ⟨n, s, w⟩ ⟨m, s, w⟩ := ⟨_, line_eq, rfl⟩

theorem step_begin {t : Target} {x : NameId} {jump : Nat} {b : Bool}
    (line_eq : p[n]? = some ⟨.start t x jump, origin⟩)
    (result : begin_ ex x s w t = (.ok b, s', w')) :
    Step ex p ⟨n, s, w⟩ ⟨((if b then n + 1 else jump : Nat) : Int), s', w'⟩ := by
  refine ⟨_, line_eq, ?_⟩
  rw [step, result]
  cases b <;> rfl

theorem step_proceed {t : Target} {x : NameId} {jump : Nat} {b : Bool}
    (line_eq : p[n]? = some ⟨.advance t x jump, origin⟩)
    (result : proceed ex x s w = (.ok b, s', w')) :
    Step ex p ⟨n, s, w⟩ ⟨((if b then n + 1 else jump : Nat) : Int), s', w'⟩ := by
  refine ⟨_, line_eq, ?_⟩
  rw [step, result]
  cases b <;> rfl

end Steps

/-! ### Bodies that leave the outer scopes alone -/

/-- An instruction of a body: it adds a variable to the innermost scope, with a value that evaluates,
or it is a command that succeeds and leaves the scopes alone. -/
def Calm (ex : Executor κ ω) (i : Instruction κ) (s : Scopes) (w : ω) : Prop :=
  match i with
  | .create _ e none => ∃ v, e.eval s = .ok v
  | .command c => ∃ w', ex.execute c s w = (.ok (), s, w')
  | _ => False

/-- Whenever a run from a moment comes to an instruction of the body at a position, the instruction
is calm there. -/
def Steady (ex : Executor κ ω) (p : Program κ) (position : Nat) (body : Program κ) (c : Config ω) :
    Prop :=
  ∀ cs d k line, Trail ex p c cs d → d.pc = (position + k : Nat) → body[k]? = some line →
    Calm ex line.instruction d.scopes d.world

namespace Steady

variable {position : Nat} {body : Program κ} {line : Line κ} {c d : Config ω}

theorem along {cs : List (Config ω)} (steady : Steady ex p position body c)
    (trail : Trail ex p c cs d) : Steady ex p position body d :=
  fun _ e k line more => steady _ e k line (trail.append more)

theorem passes {at_ : Nat} {vs : List Scopes} (steady : Steady ex p position body c)
    (h : Passes ex p at_ c vs d) : Steady ex p position body d :=
  let ⟨_, trail, _⟩ := h
  steady.along trail

theorem tail (steady : Steady ex p position (line :: body) c) :
    Steady ex p (position + 1) body c := by
  intro cs d k l trail hpc hl
  refine steady cs d (k + 1) l trail ?_ hl
  rw [hpc, show position + 1 + k = position + (k + 1) by omega]

end Steady

/-- A calm instruction changes the innermost scope only. -/
theorem step_of_calm {n : Nat} {line : Line κ} (line_eq : p[n]? = some line) {s : Scopes}
    {scope : Scope} {w : ω} (calm : Calm ex line.instruction (s ++ [scope]) w) :
    ∃ scope' w', Step ex p ⟨n, s ++ [scope], w⟩ ⟨(n + 1 : Nat), s ++ [scope'], w'⟩ := by
  obtain ⟨i, origin⟩ := line
  cases i with
  | create x e at_ =>
    cases at_ with
    | some => exact calm.elim
    | none =>
      obtain ⟨v, hv⟩ := calm
      refine ⟨Assoc.set x v scope, w, _, line_eq, ?_⟩
      simp [step, plainStep, reading, hv, Scopes.bind_snoc, Except.map]
  | command c =>
    obtain ⟨w', hw'⟩ := calm
    refine ⟨scope, w', _, line_eq, ?_⟩
    simp [step, plainStep, hw', Except.map]
  | _ => exact calm.elim

/-- The rest of a body, behind the position that is watched. -/
theorem passes_body (position : Nat) (body : Program κ) {n : Nat} (placed : Placed p n body)
    (behind : position < n) {s : Scopes} {scope : Scope} {w : ω}
    (steady : Steady ex p n body ⟨n, s ++ [scope], w⟩) :
    ∃ scope' w', Passes ex p position ⟨n, s ++ [scope], w⟩ []
      ⟨(n + body.length : Nat), s ++ [scope'], w'⟩ := by
  induction body generalizing n scope w with
  | nil => exact ⟨scope, w, .refl _⟩
  | cons line body ih =>
    obtain ⟨scope₁, w₁, first⟩ :=
      step_of_calm placed.head (steady [] _ 0 line (.nil _) rfl rfl)
    have here : Passes ex p position _ [] _ := .of_step first (by omega)
    obtain ⟨scope₂, w₂, rest⟩ := ih placed.tail (by omega) (steady.tail.passes here)
    rw [show n + 1 + body.length = n + (line :: body).length by
      rw [List.length_cons]
      omega] at rest
    exact ⟨scope₂, w₂, here.trans rest⟩

/-- **A round.**  A body in a scope of its own begins once, in an empty scope, and leaves the scopes
as they were. -/
theorem passes_round {body : Program κ} {n last : Nat} {origin : Option String}
    (block : BlockAt p origin (fun _ => body) n last) {s : Scopes} {w : ω}
    (steady : Steady ex p (n + 1) body ⟨n, s, w⟩) :
    ∃ w', Passes ex p (n + 1) ⟨n, s, w⟩ [s ++ [[]]] ⟨(last + 1 : Nat), s, w'⟩ := by
  obtain ⟨last_eq, push_eq, placed, pop_eq⟩ := block
  have enter : Passes ex p (n + 1) ⟨n, s, w⟩ [] ⟨(n + 1 : Nat), s ++ [[]], w⟩ :=
    .of_step (step_push push_eq s w) (by omega)
  cases body with
  | nil =>
    obtain rfl : last = n + 1 := last_eq
    exact ⟨w, enter.trans (.of_step_at (step_pop pop_eq s [] w))⟩
  | cons line body =>
    have inside := steady.passes enter
    obtain ⟨scope₁, w₁, first⟩ :=
      step_of_calm placed.head (inside [] _ 0 line (.nil _) rfl rfl)
    have begun : Passes ex p (n + 1) _ [s ++ [[]]] _ := .of_step_at first
    obtain ⟨scope₂, w₂, rest⟩ :=
      passes_body (n + 1) body placed.tail (by omega) (inside.tail.passes begun)
    rw [List.length_cons] at last_eq
    rw [show n + 1 + 1 + body.length = last by omega] at rest
    have leave : Passes ex p (n + 1) _ [] _ :=
      .of_step (step_pop pop_eq s scope₂ w₂) (by omega)
    exact ⟨w₂, enter.trans (begun.trans (rest.trans leave))⟩

/-! ### Conditions and rounds -/

/-- From a moment on, seeing the scopes `vs` on its way, the machine comes to `goal` with `scope` as
the innermost scope when a condition holds, and to `finish` when it does not. -/
def Turns (ex : Executor κ ω) (p : Program κ) (position : Nat) (c : Config ω) (vs : List Scopes)
    (holds : Prop) (s : Scopes) (goal : Nat) (scope : Scope) (finish : Nat) : Prop :=
  (holds ∧ ∃ w', Passes ex p position c vs ⟨goal, s ++ [scope], w'⟩) ∨
  (¬ holds ∧ ∃ scope' w', Passes ex p position c vs ⟨finish, s ++ [scope'], w'⟩)

theorem Turns.after {position goal finish : Nat} {c d : Config ω} {us vs : List Scopes}
    {holds : Prop} {s : Scopes} {scope : Scope} (front : Passes ex p position c us d)
    (turns : Turns ex p position d vs holds s goal scope finish) :
    Turns ex p position c (us ++ vs) holds s goal scope finish := by
  rcases turns with ⟨h, w', rest⟩ | ⟨h, scope', w', rest⟩
  · exact .inl ⟨h, w', front.trans rest⟩
  · exact .inr ⟨h, scope', w', front.trans rest⟩

/-- One question, asked by the instruction at a position. -/
theorem turns_of_step {position n finish : Nat} {s : Scopes} {before scope : Scope} {w w' : ω}
    {holds : Prop} [Decidable holds]
    (step : Step ex p ⟨n, s ++ [before], w⟩
      ⟨((if decide holds then n + 1 else finish : Nat) : Int), s ++ [scope], w'⟩)
    (off : n ≠ position) :
    Turns ex p position ⟨n, s ++ [before], w⟩ [] holds s (n + 1) scope finish := by
  have passes : Passes ex p position _ [] _ := .of_step step off
  by_cases h : holds
  · rw [decide_eq_true h] at passes
    exact .inl ⟨h, w', passes⟩
  · rw [decide_eq_false h] at passes
    exact .inr ⟨h, scope, w', passes⟩

/-- A jump behind a yes. -/
theorem Turns.jump {position back again finish : Nat} {c : Config ω} {vs : List Scopes}
    {holds : Prop} {s : Scopes} {scope : Scope}
    (turns : Turns ex p position c vs holds s back scope finish)
    (goto : ∀ s w, Step ex p ⟨back, s, w⟩ ⟨again, s, w⟩) (off : back ≠ position) :
    Turns ex p position c vs holds s again scope finish := by
  rcases turns with ⟨h, w', passes⟩ | no
  · have around := passes.trans (.of_step (goto _ _) off)
    rw [List.append_nil] at around
    exact .inl ⟨h, w', around⟩
  · exact .inr no

/-- **All rounds.**  A loop is at its position `k` with `row k` as the scope of its variables.  A
round leads to the next position, or behind the loop when it was the last one. -/
theorem passes_rounds {position again finish length : Nat} {body : Program κ} {s : Scopes}
    {seen : Nat → List Scopes} (row : Nat → Scope)
    (round : ∀ k w, k < length → Steady ex p position body ⟨again, s ++ [row k], w⟩ →
      Turns ex p position ⟨again, s ++ [row k], w⟩ (seen k) (k + 1 < length) s again (row (k + 1))
        finish)
    (left : Nat) {k : Nat} (hlength : k + (left + 1) = length) {w : ω}
    (steady : Steady ex p position body ⟨again, s ++ [row k], w⟩) :
    ∃ scope w', Passes ex p position ⟨again, s ++ [row k], w⟩
      ((List.range' k (left + 1)).flatMap seen) ⟨finish, s ++ [scope], w'⟩ := by
  induction left generalizing k w with
  | zero =>
    rcases round k w (by omega) steady with ⟨more, -⟩ | ⟨-, scope, w', last⟩
    · omega
    · exact ⟨scope, w', by simpa using last⟩
  | succ left ih =>
    rcases round k w (by omega) steady with ⟨-, w₁, first⟩ | ⟨last, -⟩
    · obtain ⟨scope, w', rest⟩ := ih (k := k + 1) (by omega) (steady.passes first)
      rw [List.range'_succ, List.flatMap_cons]
      exact ⟨scope, w', first.trans rest⟩
    · omega

/-! ### Combinations -/

/-- The tuples of positions below some lengths, in lexicographic order. -/
def positions : List Nat → List (List Nat)
  | [] => [[]]
  | length :: lengths => (List.range length).flatMap fun k => (positions lengths).map (k :: ·)

/-- The scopes of the variables of a loop over combinations: one in another. -/
def nest (courses : List Course) (ks : List Nat) : Scopes :=
  List.zipWith (fun c k => [c.at_ k]) courses ks

section Loops

variable {body : Program κ} {origin : Option String} {s : Scopes} {iters : List NameId}
  (watches : ex.Watches)

include watches

/-- One loop of a loop over combinations, on any stack over the one on which the whole loop began:
it goes through the positions of its variable, and sees in each round what the code inside sees. -/
theorem passes_nest {c : Course} {vars : List (NameId × Target)} {earlier : List NameId}
    {inner : Scopes} {n last position : Nat} {seen : Nat → List Scopes} {w : ω}
    (h : NestAt p origin (fun _ => body) c.pair vars n last) (after : n + 2 < position)
    (before : position < last) (spans : c.Spans s iters) (sub : ∀ x ∈ earlier, x ∈ iters)
    (fresh : ∀ x ∈ earlier, c.target ≠ .elements x) (binds : inner.BindsOnly earlier)
    (inside : ∀ k w, k < c.length →
      Steady ex p position body ⟨(n + 2 : Nat), s ++ inner ++ [[c.at_ k]], w⟩ →
      ∃ w', Passes ex p position ⟨(n + 2 : Nat), s ++ inner ++ [[c.at_ k]], w⟩ (seen k)
        ⟨last, s ++ inner ++ [[c.at_ k]], w'⟩)
    (steady : Steady ex p position body ⟨n, s ++ inner, w⟩) :
    ∃ w', Passes ex p position ⟨n, s ++ inner, w⟩ ((List.range c.length).flatMap seen)
      ⟨(last + 3 : Nat), s ++ inner, w'⟩ := by
  have enter : Passes ex p position ⟨n, s ++ inner, w⟩ []
      ⟨(n + 1 : Nat), s ++ inner ++ [[]], w⟩ :=
    .of_step (step_push h.enter _ w) (by omega)
  have leave (scope : Scope) (w : ω) : Passes ex p position
      ⟨(last + 2 : Nat), s ++ inner ++ [scope], w⟩ [] ⟨(last + 3 : Nat), s ++ inner, w⟩ :=
    .of_step (step_pop h.leave (s ++ inner) scope w) (by omega)
  rcases Nat.eq_zero_or_pos c.length with empty | pos
  · have result : begin_ ex c.iter (s ++ inner ++ [[]]) w c.target
        = (.ok false, s ++ inner ++ [[]], w) := by
      rw [List.append_assoc]
      exact begin_of_nil spans sub fresh
        (binds.append (Scopes.bindsOnly_singleton.2 (by simp))) empty w
    have skip : Passes ex p position _ [] _ := .of_step (step_begin h.start result) (by omega)
    rw [empty, List.range_zero]
    exact ⟨w, enter.trans (skip.trans (leave [] w))⟩
  · obtain ⟨w₁, result⟩ := begin_of_row spans sub fresh watches [] binds (by simp) (by simp) pos w
    have begun : Passes ex p position _ [] ⟨(n + 2 : Nat), s ++ inner ++ [[c.at_ 0]], w₁⟩ :=
      .of_step (step_begin h.start result) (by omega)
    have round : ∀ k w, k < c.length →
        Steady ex p position body ⟨(n + 2 : Nat), s ++ inner ++ [[c.at_ k]], w⟩ →
        Turns ex p position ⟨(n + 2 : Nat), s ++ inner ++ [[c.at_ k]], w⟩ (seen k)
          (k + 1 < c.length) (s ++ inner) (n + 2) [c.at_ (k + 1)] (last + 2) := by
      intro k w hk steady
      obtain ⟨w', through⟩ := inside k w hk steady
      obtain ⟨w'', moved⟩ := proceed_of_row watches [] [] (k := k) (spans.cursor.append inner)
        (by simp) w'
      have turns : Turns ex p position _ [] (k + 1 < c.length) (s ++ inner) (last + 1) _ (last + 2) :=
        turns_of_step (step_proceed h.advance moved) (by omega)
      have round := turns.after through
      rw [List.append_nil] at round
      exact round.jump (step_goto h.jump) (by omega)
    obtain ⟨scope, w₂, rounds⟩ := passes_rounds (fun k => [c.at_ k]) round (c.length - 1)
      (k := 0) (by omega) (steady.passes (enter.trans begun))
    rw [Nat.sub_add_cancel pos, ← List.range_eq_range'] at rounds
    have whole := enter.trans (begun.trans (rounds.trans (leave scope w₂)))
    rw [List.append_nil] at whole
    exact ⟨w₂, whole⟩

/-- **Combinations.**  On every stack over the one on which the whole loop began, the loop over the
variables that are left makes a round for each tuple of positions. -/
theorem passes_combinations (courses : List Course) {earlier : List NameId} {inner : Scopes}
    {n position : Nat} {w : ω} (hposition : position = n + 2 * courses.length + 1)
    (placed : Placed p n (Code.combinations origin (fun _ => body) (courses.map Course.pair) n))
    (spans : ∀ c ∈ courses, c.Spans s iters) (own : ∀ c ∈ courses, c.iter ∈ iters)
    (apart : courses.Pairwise fun c d => d.target ≠ .elements c.iter)
    (sub : ∀ x ∈ earlier, x ∈ iters)
    (fresh : ∀ x ∈ earlier, ∀ c ∈ courses, c.target ≠ .elements x)
    (binds : inner.BindsOnly earlier)
    (steady : Steady ex p position body ⟨n, s ++ inner, w⟩) :
    ∃ w', Passes ex p position ⟨n, s ++ inner, w⟩
      ((positions (courses.map Course.length)).map fun ks =>
        s ++ inner ++ nest courses ks ++ [[]])
      ⟨(n + (Code.combinations origin (fun _ => body) (courses.map Course.pair) n).length : Nat),
        s ++ inner, w'⟩ := by
  induction courses generalizing earlier inner n w with
  | nil =>
    obtain ⟨last, block, end_eq⟩ := placed.block
    obtain rfl : position = n + 1 := hposition
    obtain ⟨w', round⟩ := passes_round block steady
    simp only [List.map_nil]
    rw [end_eq]
    exact ⟨w', by simpa [positions, nest] using round⟩
  | cons c courses ih =>
    obtain ⟨last, h⟩ := placed.nest
    rw [List.length_cons] at hposition
    have hlast : position < last := by
      have long : 2 * _ + 1
          < (Code.combinations origin (fun _ => body) (courses.map Course.pair) (n + 2)).length :=
        two_mul_length_lt_combinations (courses.map Course.pair) (n + 2)
      rw [List.length_map] at long
      rw [h.last_eq]
      omega
    obtain ⟨first, others⟩ := List.pairwise_cons.1 apart
    have inside : ∀ k w, k < c.length →
        Steady ex p position body ⟨(n + 2 : Nat), s ++ inner ++ [[c.at_ k]], w⟩ →
        ∃ w', Passes ex p position ⟨(n + 2 : Nat), s ++ inner ++ [[c.at_ k]], w⟩
          ((positions (courses.map Course.length)).map fun ks =>
            s ++ inner ++ nest (c :: courses) (k :: ks) ++ [[]])
          ⟨last, s ++ inner ++ [[c.at_ k]], w'⟩ := by
      intro k w hk steady
      have hearlier : ∀ x ∈ c.iter :: earlier, x ∈ iters :=
        List.forall_mem_cons.2 ⟨own c List.mem_cons_self, sub⟩
      have hfresh : ∀ x ∈ c.iter :: earlier, ∀ d ∈ courses, d.target ≠ .elements x :=
        List.forall_mem_cons.2
          ⟨first, fun x hx d hd => fresh x hx d (List.mem_cons_of_mem _ hd)⟩
      have hbinds : (inner ++ [[c.at_ k]]).BindsOnly (c.iter :: earlier) :=
        (binds.mono fun x hx => List.mem_cons_of_mem _ hx).append
          (Scopes.bindsOnly_singleton.2 (by simp [Course.at_]))
      have same (ks : List Nat) : s ++ inner ++ nest (c :: courses) (k :: ks) ++ [[]]
          = s ++ (inner ++ [[c.at_ k]]) ++ nest courses ks ++ [[]] := by
        simp [nest]
      simp only [same]
      rw [List.append_assoc] at steady ⊢
      rw [h.last_eq]
      exact ih (by omega) h.inside (fun d hd => spans d (List.mem_cons_of_mem _ hd))
        (fun d hd => own d (List.mem_cons_of_mem _ hd)) others hearlier hfresh hbinds steady
    obtain ⟨w', through⟩ := passes_nest watches h (by omega) hlast (spans c List.mem_cons_self) sub
      (fun x hx => fresh x hx c List.mem_cons_self) binds inside steady
    simp only [List.map_cons, positions, List.map_flatMap, List.map_map]
    rw [h.end_eq]
    exact ⟨w', through⟩

/-! ### Lock step -/

omit watches in
/-- The shortest target decides at which positions every variable has an element. -/
theorem forall_lt_length_iff {courses : List Course} {shortest k : Nat}
    (hshortest : (courses.map Course.length).min? = some shortest) :
    (∀ c ∈ courses, k < c.length) ↔ k < shortest := by
  rw [← Nat.succ_le_iff, List.le_min?_iff hshortest]
  exact (List.forall_mem_map).symm

omit watches in
/-- Questions for all variables in order, with one exit for every no. -/
theorem turns_of_each {all : List Course} {line : Course → Line κ} {position finish : Nat}
    (row : List Course → List Course → Scope) (yes : Course → Prop)
    (each : ∀ front c back n w, front ++ c :: back = all → p[n]? = some (line c) → n ≠ position →
      Turns ex p position ⟨n, s ++ [row front (c :: back)], w⟩ [] (yes c) s (n + 1)
        (row (front ++ [c]) back) finish)
    (back front : List Course) (hall : front ++ back = all) {n : Nat}
    (placed : Placed p n (back.map line)) (off : position < n ∨ n + back.length ≤ position) (w : ω) :
    Turns ex p position ⟨n, s ++ [row front back], w⟩ [] (∀ c ∈ back, yes c) s (n + back.length)
      (row all []) finish := by
  induction back generalizing front n w with
  | nil =>
    rw [← hall, List.append_nil]
    exact .inl ⟨by simp, w, .refl _⟩
  | cons c back ih =>
    rw [List.length_cons] at off
    rcases each front c back n w hall placed.head (by omega) with ⟨hc, w₁, first⟩ | ⟨hc, no⟩
    · have rest := (ih (front ++ [c]) (by simpa using hall) placed.tail (by omega) w₁).after first
      rw [show n + 1 + back.length = n + (c :: back).length by
        rw [List.length_cons]
        omega] at rest
      rcases rest with ⟨h, yes⟩ | ⟨h, no⟩
      · exact .inl ⟨List.forall_mem_cons.2 ⟨hc, h⟩, yes⟩
      · exact .inr ⟨fun all => h (List.forall_mem_cons.1 all).2, no⟩
    · exact .inr ⟨fun all => hc (List.forall_mem_cons.1 all).1, no⟩

/-- All variables begin, in one scope. -/
theorem turns_of_begins {courses : List Course} {n position finish : Nat}
    (placed : Placed p n (courses.map fun c => ⟨.start c.target c.iter finish, origin⟩))
    (spans : ∀ c ∈ courses, c.Spans s iters) (own : ∀ c ∈ courses, c.iter ∈ iters)
    (apart : courses.Pairwise fun c d => c.iter ≠ d.iter ∧ d.target ≠ .elements c.iter)
    (off : position < n ∨ n + courses.length ≤ position) (w : ω) :
    Turns ex p position ⟨n, s ++ [[]], w⟩ [] (∀ c ∈ courses, 0 < c.length) s (n + courses.length)
      (courses.map (Course.at_ 0)) finish := by
  refine turns_of_each (fun front _ => front.map (Course.at_ 0)) _ ?_ courses [] rfl placed off w
  intro front c back n w hall line_eq off
  rw [List.nil_append] at hall
  have hc : c ∈ courses := by simp [← hall]
  have sub : ∀ x ∈ front.map Course.iter, x ∈ iters := by
    intro x hx
    obtain ⟨d, hd, rfl⟩ := List.mem_map.1 hx
    exact own d (by simp [← hall, hd])
  have before := (List.pairwise_append.1 (hall ▸ apart)).2.2
  have fresh : ∀ x ∈ front.map Course.iter, c.target ≠ .elements x := by
    intro x hx
    obtain ⟨d, hd, rfl⟩ := List.mem_map.1 hx
    exact (before d hd c List.mem_cons_self).2
  have bound : ∀ e ∈ front.map (Course.at_ 0), e.1 ∈ front.map Course.iter := by
    intro e he
    obtain ⟨d, hd, rfl⟩ := List.mem_map.1 he
    exact List.mem_map_of_mem hd
  rcases Nat.eq_zero_or_pos c.length with empty | pos
  · have result : begin_ ex _ _ w _ = _ :=
      begin_of_nil (spans c hc) sub fresh (Scopes.bindsOnly_singleton.2 bound) empty w
    exact .inr ⟨by omega, _, w, .of_step (step_begin line_eq result) off⟩
  · have new : ∀ e ∈ front.map (Course.at_ 0), e.1 ≠ c.iter := by
      intro e he
      obtain ⟨d, hd, rfl⟩ := List.mem_map.1 he
      exact (before d hd c List.mem_cons_self).1
    have none : Scopes.BindsOnly (front.map Course.iter) [] := by simp [Scopes.BindsOnly]
    obtain ⟨w', result⟩ := begin_of_row (spans c hc) sub fresh watches _ none bound new pos w
    rw [List.append_nil] at result
    refine .inl ⟨pos, w', ?_⟩
    rw [List.map_append]
    exact .of_step (step_begin line_eq result) off

/-- All variables move on, in one scope. -/
theorem turns_of_advances {courses : List Course} {n position finish : Nat} (k : Nat)
    (placed : Placed p n (courses.map fun c => ⟨.advance c.target c.iter finish, origin⟩))
    (spans : ∀ c ∈ courses, c.Spans s iters)
    (apart : courses.Pairwise fun c d => c.iter ≠ d.iter ∧ d.target ≠ .elements c.iter)
    (off : position < n ∨ n + courses.length ≤ position) (w : ω) :
    Turns ex p position ⟨n, s ++ [courses.map (Course.at_ k)], w⟩ []
      (∀ c ∈ courses, k + 1 < c.length) s (n + courses.length) (courses.map (Course.at_ (k + 1)))
      finish := by
  have each : ∀ front c back n w, front ++ c :: back = courses →
      p[n]? = some ⟨.advance c.target c.iter finish, origin⟩ → n ≠ position →
      Turns ex p position
        ⟨n, s ++ [front.map (Course.at_ (k + 1)) ++ (c :: back).map (Course.at_ k)], w⟩ []
        (k + 1 < c.length) s (n + 1)
        ((front ++ [c]).map (Course.at_ (k + 1)) ++ back.map (Course.at_ k)) finish := by
    intro front c back n w hall line_eq off
    have before := (List.pairwise_append.1 (hall ▸ apart)).2.2
    have new : ∀ e ∈ front.map (Course.at_ (k + 1)), e.1 ≠ c.iter := by
      intro e he
      obtain ⟨d, hd, rfl⟩ := List.mem_map.1 he
      exact (before d hd c List.mem_cons_self).1
    obtain ⟨w', moved⟩ := proceed_of_row watches _ (back.map (Course.at_ k)) (k := k)
      (spans c (by simp [← hall])).cursor new w
    rw [List.map_append, List.append_assoc]
    exact turns_of_step (step_proceed line_eq moved) off
  have turns := turns_of_each
    (fun front back => front.map (Course.at_ (k + 1)) ++ back.map (Course.at_ k)) _ each courses []
    rfl placed off w
  simpa using turns

/-- **Lock step.**  The loop makes a round for each position at which every variable has an
element. -/
theorem passes_group {courses : List Course} {n shortest : Nat} {w : ω}
    (placed : Placed p n (Code.group origin (courses.map Course.pair) (fun _ => body) n))
    (spans : ∀ c ∈ courses, c.Spans s iters) (own : ∀ c ∈ courses, c.iter ∈ iters)
    (apart : courses.Pairwise fun c d => c.iter ≠ d.iter ∧ d.target ≠ .elements c.iter)
    (hshortest : (courses.map Course.length).min? = some shortest)
    (steady : Steady ex p (n + courses.length + 2) body ⟨n, s, w⟩) :
    ∃ w', Passes ex p (n + courses.length + 2) ⟨n, s, w⟩
      ((List.range shortest).map fun k => s ++ [courses.map (Course.at_ k)] ++ [[]])
      ⟨(n + (Code.group origin (courses.map Course.pair) (fun _ => body) n).length : Nat), s, w'⟩ := by
  have reach (k : Nat) : (∀ c ∈ courses, k < c.length) = (k < shortest) :=
    propext (forall_lt_length_iff hshortest)
  obtain ⟨again, last, finish, h⟩ := placed.group
  have hagain := h.again_eq
  have hfinish := h.finish_eq
  have hlast := h.block.last_eq
  have starts := h.starts
  have advances := h.advances
  have goto := h.jump
  rw [List.length_map] at hagain hfinish goto
  rw [List.map_map] at starts advances
  rw [show n + courses.length + 2 = again + 1 by omega] at steady ⊢
  rw [h.end_eq]
  have enter : Passes ex p (again + 1) ⟨n, s, w⟩ [] ⟨(n + 1 : Nat), s ++ [[]], w⟩ :=
    .of_step (step_push h.enter s w) (by omega)
  have leave (scope : Scope) (w : ω) : Passes ex p (again + 1)
      ⟨finish, s ++ [scope], w⟩ [] ⟨(finish + 1 : Nat), s, w⟩ :=
    .of_step (step_pop h.leave s scope w) (by omega)
  have begins : Turns ex p (again + 1) _ [] _ s _ _ finish :=
    turns_of_begins watches starts spans own apart (by omega) w
  rw [reach] at begins
  rcases begins with ⟨pos, w₁, begun⟩ | ⟨empty, scope, w₁, skip⟩
  · rw [← hagain] at begun
    have round : ∀ k w, k < shortest →
        Steady ex p (again + 1) body ⟨again, s ++ [courses.map (Course.at_ k)], w⟩ →
        Turns ex p (again + 1) ⟨again, s ++ [courses.map (Course.at_ k)], w⟩
          [s ++ [courses.map (Course.at_ k)] ++ [[]]] (k + 1 < shortest) s again
          (courses.map (Course.at_ (k + 1))) finish := by
      intro k w hk steady
      obtain ⟨w', through⟩ := passes_round h.block steady
      have turns : Turns ex p (again + 1) _ [] _ s _ _ finish :=
        turns_of_advances watches k advances spans apart (by omega) w'
      rw [reach] at turns
      exact (turns.after through).jump (step_goto goto) (by omega)
    obtain ⟨scope, w₂, rounds⟩ := passes_rounds (fun k => courses.map (Course.at_ k)) round
      (shortest - 1) (k := 0) (by omega) (steady.passes (enter.trans begun))
    rw [Nat.sub_add_cancel pos, ← List.range_eq_range', ← List.map_eq_flatMap] at rounds
    have whole := enter.trans (begun.trans (rounds.trans (leave scope w₂)))
    rw [List.append_nil] at whole
    exact ⟨w₂, whole⟩
  · obtain rfl : shortest = 0 := by omega
    exact ⟨w₁, enter.trans (skip.trans (leave scope w₁))⟩

end Loops

/-! ### What the body sees -/

/-- On a stack each variable resolves to the element of its position. -/
def Sees (courses : List Course) (ks : List Nat) (s : Scopes) : Prop :=
  List.Forall₂ (fun c k => ∃ e, c.elements[k]? = some e ∧ s.resolve (.last c.iter .whole) = .ok e)
    courses ks

theorem exists_resolve {s : Scopes} {c : Course} {n k : Nat}
    (cur : Traversal s c.cursor c.elements) (hx : s.lookup c.iter = .ok (n, c.cursor k))
    (hk : k < c.length) :
    ∃ e, c.elements[k]? = some e ∧ s.resolve (.last c.iter .whole) = .ok e :=
  ⟨_, List.getElem?_eq_getElem hk, resolve_of_cursor cur hx (List.getElem?_eq_getElem hk)⟩

theorem nest_bindsOnly (courses : List Course) (ks : List Nat) :
    (nest courses ks).BindsOnly (courses.map Course.iter) := by
  induction courses generalizing ks with
  | nil => simp [nest, Scopes.BindsOnly]
  | cons c courses ih =>
    cases ks with
    | nil => simp [nest, Scopes.BindsOnly]
    | cons k ks =>
      have head : Scopes.BindsOnly (List.map Course.iter (c :: courses)) [[c.at_ k]] :=
        Scopes.bindsOnly_singleton.2 (by simp [Course.at_])
      exact head.append ((ih ks).mono fun x hx => List.mem_cons_of_mem _ hx)

/-- Within the loops over combinations. -/
theorem sees_nest {courses : List Course} {ks : List Nat} {s : Scopes}
    (hks : ks ∈ positions (courses.map Course.length))
    (cursors : ∀ c ∈ courses, Traversal s c.cursor c.elements)
    (apart : courses.Pairwise fun c d => c.iter ≠ d.iter) :
    Sees courses ks (s ++ nest courses ks ++ [[]]) := by
  induction courses generalizing ks s with
  | nil =>
    obtain rfl : ks = [] := by simpa [positions] using hks
    exact .nil
  | cons c courses ih =>
    obtain ⟨k, hk, ks, hrest, rfl⟩ : ∃ k < c.length, ∃ ks' ∈ positions (courses.map Course.length),
        k :: ks' = ks := by
      simpa [positions] using hks
    obtain ⟨first, others⟩ := List.pairwise_cons.1 apart
    have hstack : s ++ nest (c :: courses) (k :: ks) ++ [[]]
        = s ++ [[c.at_ k]] ++ nest courses ks ++ [[]] := by
      simp [nest]
    rw [hstack]
    refine .cons ?_ (ih hrest (fun d hd => (cursors d (List.mem_cons_of_mem _ hd)).append _) others)
    have hinner : (nest courses ks ++ [[]]).BindsOnly (courses.map Course.iter) :=
      (nest_bindsOnly courses ks).append (Scopes.bindsOnly_singleton.2 (by simp))
    have new : c.iter ∉ courses.map Course.iter := by
      intro hc
      obtain ⟨d, hd, heq⟩ := List.mem_map.1 hc
      exact first d hd heq.symm
    have hlookup : (s ++ [[c.at_ k]] ++ nest courses ks ++ [[]]).lookup c.iter
        = .ok (s.length, c.cursor k) := by
      rw [List.append_assoc (s ++ [[c.at_ k]]), Scopes.lookup_of_bindsOnly hinner new,
        Scopes.lookup_snoc]
      simp [Assoc.get?, Course.at_]
    exact exists_resolve ((((cursors c List.mem_cons_self).append _).append _).append _) hlookup hk

/-- Within a loop in lock step. -/
theorem sees_row {courses : List Course} {k : Nat} {s : Scopes}
    (hk : ∀ c ∈ courses, k < c.length) (cursors : ∀ c ∈ courses, Traversal s c.cursor c.elements)
    (apart : courses.Pairwise fun c d => c.iter ≠ d.iter) :
    Sees courses (List.replicate courses.length k) (s ++ [courses.map (Course.at_ k)] ++ [[]]) := by
  rw [Sees, ← List.map_const', List.forall₂_map_right_iff, List.forall₂_same]
  intro c hc
  obtain ⟨front, back, rfl⟩ := List.append_of_mem hc
  have before := (List.pairwise_append.1 apart).2.2
  have new : ∀ e ∈ front.map (Course.at_ k), e.1 ≠ c.iter := by
    intro e he
    obtain ⟨d, hd, rfl⟩ := List.mem_map.1 he
    exact before d hd c List.mem_cons_self
  have hlookup : (s ++ [(front ++ c :: back).map (Course.at_ k)] ++ [[]]).lookup c.iter
      = .ok (s.length, c.cursor k) := by
    rw [Scopes.lookup_append (by simp [Assoc.get?]), Scopes.lookup_snoc, List.map_append,
      Assoc.get?_append, Assoc.get?_eq_none new]
    simp [Assoc.get?, Course.at_]
  exact exists_resolve (((cursors c hc).append _).append _) hlookup (hk c hc)

/-! ### Counting and ordering -/

theorem length_positions (lengths : List Nat) : (positions lengths).length = lengths.prod := by
  induction lengths with
  | nil => rfl
  | cons length lengths ih => simp [positions, List.length_flatMap, ih]

theorem positions_sorted (lengths : List Nat) : (positions lengths).Pairwise (· < ·) := by
  induction lengths with
  | nil => simp [positions]
  | cons length lengths ih =>
    rw [positions, List.pairwise_flatMap]
    refine ⟨fun k _ => ?_, List.pairwise_lt_range.imp fun hkm => ?_⟩
    · rw [List.pairwise_map]
      exact ih.imp fun hab => List.cons_lt_cons_iff.2 (.inr ⟨rfl, hab⟩)
    · intro xs hxs ys hys
      obtain ⟨_, -, rfl⟩ := List.mem_map.1 hxs
      obtain ⟨_, -, rfl⟩ := List.mem_map.1 hys
      exact List.cons_lt_cons_iff.2 (.inl hkm)

end Sweep.Machine

namespace Sweep

/-- The positions of all variables of a loop, round by round. -/
def LoopMode.rounds : LoopMode → List Nat → List (List Nat)
  | group, lengths => (List.range (lengths.min?.getD 0)).map (List.replicate lengths.length)
  | combinations, lengths => Machine.positions lengths

/-- How many rounds a loop makes over targets of some lengths. -/
def LoopMode.count : LoopMode → List Nat → Nat
  | group, lengths => lengths.min?.getD 0
  | combinations, lengths => lengths.prod

/-- Where the body stands in the code of a loop over `n` variables. -/
def LoopMode.bodyAt (start n : Nat) : LoopMode → Nat
  | group => start + n + 2
  | combinations => start + 2 * n + 1

/-- A line of code as a statement. -/
def Line.statement {κ : Type} (l : Line κ) : Statement κ := .single l.instruction l.origin

theorem codeAll_statements {κ : Type} (body : Program κ) (n : Nat) :
    Statement.codeAll (body.map Line.statement) n = body := by
  induction body generalizing n with
  | nil => rfl
  | cons line body ih =>
    rw [List.map_cons, Statement.codeAll, ih]
    rfl

namespace Machine

variable {κ ω : Type} {ex : Executor κ ω} {p : Program κ}

/-- Where the body of a loop over combinations stands. -/
theorem placed_body_of_combinations {origin : Option String} {body : Program κ} {n : Nat}
    (vars : List (NameId × Target))
    (placed : Placed p n (Code.combinations origin (fun _ => body) vars n)) :
    Placed p (n + 2 * vars.length + 1) body := by
  induction vars generalizing n with
  | nil =>
    obtain ⟨last, block, -⟩ := placed.block
    exact block.inside
  | cons v vars ih =>
    obtain ⟨last, h⟩ := placed.nest
    have inner := ih h.inside
    rw [show n + 2 + 2 * vars.length + 1 = n + 2 * (v :: vars).length + 1 by
      rw [List.length_cons]
      omega] at inner
    exact inner

/-- The body stands at its position in a loop from `start` to `finish`, and the run from `start` comes
to `finish` on the same scopes.  On its way it is at the body as often as the loop has rounds, in
lexicographic order of the positions, and each time the variables resolve to the elements at these
positions. -/
def Enumerates (ex : Executor κ ω) (p : Program κ) (mode : LoopMode) (courses : List Course)
    (body : Program κ) (start finish : Nat) (s : Scopes) (w : ω) : Prop :=
  Placed p (mode.bodyAt start courses.length) body ∧
  ∃ vs w', Passes ex p (mode.bodyAt start courses.length) ⟨start, s, w⟩ vs ⟨finish, s, w'⟩ ∧
    vs.length = mode.count (courses.map Course.length) ∧
    (mode.rounds (courses.map Course.length)).Pairwise (· < ·) ∧
    List.Forall₂ (Sees courses) (mode.rounds (courses.map Course.length)) vs

section Modes

variable {courses : List Course} {body : Program κ} {origin : Option String} {start : Nat}
  {s : Scopes} {w : ω} (watches : ex.Watches)
  (spans : ∀ c ∈ courses, c.Spans s (courses.map Course.iter))
  (apart : courses.Pairwise fun c d => c.iter ≠ d.iter ∧ d.target ≠ .elements c.iter)

include watches spans apart

theorem enumerates_combinations
    (placed : Placed p start
      (Code.combinations origin (fun _ => body) (courses.map Course.pair) start))
    (steady : Steady ex p (start + 2 * courses.length + 1) body ⟨start, s, w⟩) :
    Enumerates ex p .combinations courses body start
      (start + (Code.combinations origin (fun _ => body) (courses.map Course.pair) start).length)
      s w := by
  have none : Scopes.BindsOnly [] [] := by simp [Scopes.BindsOnly]
  have atStart : Steady ex p (start + 2 * courses.length + 1) body ⟨start, s ++ [], w⟩ := by
    rw [List.append_nil]
    exact steady
  obtain ⟨w', passes⟩ := passes_combinations watches courses rfl placed spans
    (fun c hc => List.mem_map_of_mem hc) (apart.imp And.right) (by simp) (by simp) none atStart
  rw [List.append_nil] at passes
  have body_at := placed_body_of_combinations _ placed
  rw [List.length_map] at body_at
  refine ⟨body_at, _, w', passes, ?_, positions_sorted _, ?_⟩
  · rw [List.length_map, length_positions]
    rfl
  · rw [LoopMode.rounds, List.forall₂_map_right_iff, List.forall₂_same]
    exact fun ks hks => sees_nest hks (fun c hc => (spans c hc).cursor) (apart.imp And.left)

theorem enumerates_group (nonempty : courses ≠ [])
    (placed : Placed p start (Code.group origin (courses.map Course.pair) (fun _ => body) start))
    (steady : Steady ex p (start + courses.length + 2) body ⟨start, s, w⟩) :
    Enumerates ex p .group courses body start
      (start + (Code.group origin (courses.map Course.pair) (fun _ => body) start).length) s w := by
  obtain ⟨shortest, hshortest⟩ := Option.isSome_iff_exists.1
    (List.isSome_min?_of_ne_nil (mt (List.map_eq_nil_iff (f := Course.length)).1 nonempty))
  obtain ⟨w', passes⟩ := passes_group watches placed spans (fun c hc => List.mem_map_of_mem hc)
    apart hshortest steady
  obtain ⟨again, last, finish, h⟩ := placed.group
  have body_at := h.block.inside
  rw [h.again_eq, List.length_map, show start + 1 + courses.length + 1
    = start + courses.length + 2 by omega] at body_at
  refine ⟨body_at, _, w', passes, ?_, ?_, ?_⟩
  · rw [List.length_map, List.length_range, LoopMode.count, hshortest]
    rfl
  · obtain ⟨c, others, rfl⟩ := List.exists_cons_of_ne_nil nonempty
    rw [LoopMode.rounds, List.pairwise_map]
    exact List.pairwise_lt_range.imp fun hkm => List.cons_lt_cons_iff.2 (.inl hkm)
  · rw [LoopMode.rounds, hshortest, Option.getD_some, List.forall₂_map_right_iff,
      List.forall₂_map_left_iff, List.forall₂_same]
    intro k hk
    rw [List.length_map]
    exact sees_row ((forall_lt_length_iff hshortest).2 (List.mem_range.1 hk)) (fun c hc => (spans c hc).cursor) (apart.imp And.left)

end Modes

/-- A list of texts. -/
def threeTexts : Value := .list [.ofText "a", .ofText "b", .ofText "c"]

/-- A range and a list of texts. -/
def rangeAndTexts : List Course :=
  [⟨1, .range (.fixed 4) (.fixed 6), fun k => .counter 4 6 k, (Value.counter 4 6 0).elements⟩,
    ⟨2, .elements 7, fun k => .ref (0 : Nat) 7 k, threeTexts.elements⟩]

/-- A body that adds a variable and runs a command. -/
def noteAndRun : Program String :=
  [⟨.create 3 (.struct [.literal "note"] []) none, none⟩, ⟨.command "run", none⟩]

/-- A stack on which the list of texts is bound. -/
def textsBound : Scopes := [[(7, threeTexts)]]

end Machine

end Sweep
