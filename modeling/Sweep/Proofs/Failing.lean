import Sweep.Proofs.Building
import Sweep.Proofs.Frames
import Sweep.Proofs.Pushing
import Sweep.Proofs.Rows

/-!
# A failing step changes nothing

An instruction that fails to resolve leaves the scopes as they are.  Most instructions read first and
write last.  The beginning of a loop variable and its advance write and then read once more, to tell
the executor about the element; that reading cannot fail, because what was found before the write is
found again.

* `Resolves.mono`, `deref_bind` — a variable that is new to the innermost scope breaks no chain;
* `Resolves.of_cursor`, `proceedAgain_eq` — nor does a loop variable that moves: it is behind its own
  target in every chain, so looking it up and following it once more gives what was there;
* `Executor.Careful` — what an executor promises about its own failures;
* `scopes_of_failed_step` — one instruction;
* `Poised` — when a loop variable begins, the innermost scope holds only the ones that began in front of
  it, kept by every step (`Poised.step`);
* `FailsClean`, `failsClean` — all steps of all runs, and what a run that fails leaves;
* `Bed.LeftBy` — the stacks that programs of a bed leave.

The main statement is `failed_step_changes_nothing`.
-/

namespace Sweep

variable {κ ω : Type}

/-! ### Chains on a stack that changes -/

/-- A chain of references stands for the same where all bindings are kept. -/
theorem Resolves.mono {s t : Scopes} {v w : Value} {n : Nat} (h : Resolves s v w n)
    (kept : ∀ i x u, s.binding i x = .ok u → t.binding i x = .ok u) : Resolves t v w n := by
  induction h with
  | plain hv => exact .plain hv
  | ref bound_eq _ part_eq _ ih₁ ih₂ => exact .ref (kept _ _ _ bound_eq) ih₁ part_eq ih₂

/-- What a reference stands for is higher than what its target stands for. -/
theorem Resolves.height_lt {s : Scopes} {scope offset : Int} {t : NameId} {bound whole w : Value}
    {height k : Nat} (h : Resolves s (.ref scope t offset) w k)
    (target : s.binding scope t = .ok bound) (walked : Resolves s bound whole height) :
    height < k := by
  cases h with
  | plain hv => cases hv
  | ref bound_eq target_resolves =>
    obtain rfl := Except.ok.inj (target.symm.trans bound_eq)
    obtain ⟨-, rfl⟩ := walked.unique target_resolves
    omega

/-- **A chain does not come back to the variable at which it began.**  Take a loop variable whose target
stands for something.  What has a derivation that is not higher than that of the target stands for the
same on every stack that agrees about all other variables. -/
theorem Resolves.of_cursor {s r : Scopes} {n : Nat} {x t : NameId} {scope offset : Int}
    {bound whole : Value} {height : Nat} (cursor : s.binding n x = .ok (.ref scope t offset))
    (target : s.binding scope t = .ok bound) (walked : Resolves s bound whole height)
    (kept : ∀ (i : Int) y u, ¬ (i = n ∧ y = x) → s.binding i y = .ok u → r.binding i y = .ok u)
    {v w : Value} {k : Nat} (h : Resolves s v w k) (low : k ≤ height) : Resolves r v w k := by
  induction h with
  | plain hv => exact .plain hv
  | @ref scope' t' offset' bound' whole' part w' m k bound_eq target_resolves part_eq _ ih₁ ih₂ =>
    have other : ¬ (scope' = n ∧ t' = x) := by
      rintro ⟨rfl, rfl⟩
      obtain rfl := Except.ok.inj (cursor.symm.trans bound_eq)
      -- the chain would go through the target once more, and be higher than it
      have higher := target_resolves.height_lt target walked
      omega
    exact .ref (kept _ _ _ other bound_eq) (ih₁ (by omega)) part_eq (ih₂ (by omega))

/-- A loop variable is not its own target, if that stands for something. -/
theorem Resolves.ne_cursor {s : Scopes} {n : Nat} {x t : NameId} {scope offset : Int}
    {bound whole : Value} {height : Nat} (cursor : s.binding n x = .ok (.ref scope t offset))
    (target : s.binding scope t = .ok bound) (walked : Resolves s bound whole height) :
    ¬ (scope = n ∧ t = x) := by
  rintro ⟨rfl, rfl⟩
  obtain rfl := Except.ok.inj (cursor.symm.trans target)
  exact Nat.lt_irrefl _ (walked.height_lt target walked)

namespace Scopes

variable {s : Scopes} {v w u : Value} {x y : NameId} {n : Nat}

/-- A variable is not bound in the innermost scope. -/
def New (s : Scopes) (x : NameId) : Prop := ∀ scope, s.getLast? = some scope → Assoc.get? x scope = none

/-- Binding a variable that is new to the innermost scope keeps all bindings. -/
theorem binding_bind_of_new (new : s.New x) (v : Value) {i : Int} (h : s.binding i y = .ok u) :
    (s.bind x v).binding i y = .ok u := by
  rcases s.eq_nil_or_concat with rfl | ⟨outer, scope, rfl⟩
  · cases i <;> cases h
  · rw [List.concat_eq_append] at new h ⊢
    have unbound : Assoc.get? x scope = none := new scope (by simp)
    rw [bind_snoc, ← write_snoc, binding_write_of_ne ?_, h]
    rintro ⟨rfl, rfl⟩
    obtain ⟨sc, hsc, hget⟩ := binding_iff.1 h
    obtain rfl : scope = sc := by simpa using hsc
    rw [unbound] at hget
    cases hget

theorem deref_bind (new : s.New x) (v : Value) {bound : Value} (h : s.deref bound = .ok w) :
    (s.bind x v).deref bound = .ok w := by
  obtain ⟨height, low, resolves⟩ := exists_resolves_of_derefWithin h
  exact deref_of_resolves (resolves.mono fun _ _ _ => binding_bind_of_new new v) low

/-- What a loop variable walks over: what its target stands for, or a counter itself. -/
def walkedBy (s : Scopes) (x : NameId) : Except ReadError Value := do
  match ← s.lookup x with
  | (_, .ref scope t _) => s.deref (← s.binding scope t)
  | (_, v) => return v

theorem lookup_write_self (found : s.lookup x = .ok (n, v)) (u : Value) :
    (s.write n x u).lookup x = .ok (n, u) :=
  have bound := binding_of_lookup found
  lookup_write ⟨v, bound⟩ found (binding_write_self (lt_length_of_binds ⟨v, bound⟩) x u)

/-- A counter that moves walks over itself. -/
theorem walkedBy_count (found : s.lookup x = .ok (n, v)) (a b offset : Int) :
    (s.write n x (.counter a b offset)).walkedBy x = .ok (.counter a b offset) := by
  rw [walkedBy, lookup_write_self found]
  rfl

/-- A loop variable that moves walks over what it walked over before. -/
theorem walkedBy_walk {scope offset : Int} {t : NameId} (found : s.lookup x = .ok (n, .ref scope t offset))
    (walks : (do s.deref (← s.binding scope t)) = .ok w) (position : Int) :
    (s.write n x (.ref scope t position)).walkedBy x = .ok w := by
  obtain ⟨bound, target, walks⟩ := exists_of_bind_ok walks
  obtain ⟨height, low, walked⟩ := exists_resolves_of_derefWithin walks
  have cursor := binding_of_lookup found
  have kept : Resolves (s.write n x (.ref scope t position)) bound w height :=
    .of_cursor cursor target walked (fun _ _ _ other h => (binding_write_of_ne other _).trans h) walked
      (Nat.le_refl height)
  rw [walkedBy, lookup_write_self found]
  show (s.write n x (.ref scope t position)).binding scope t >>= _ = _
  rw [binding_write_of_ne (Resolves.ne_cursor cursor target walked), target]
  exact deref_of_resolves kept low

end Scopes

namespace Machine

variable {ex : Executor κ ω} {p : Program κ} {s : Scopes} {w : ω}

/-- An advance that looks the loop variable up once more after it has moved, and follows it once more. -/
def proceedAgain (ex : Executor κ ω) (x : NameId) (s : Scopes) (w : ω) :
    Except Failure Bool × Scopes × ω :=
  let tell (position : Int) (s : Scopes) : Except Failure Bool × Scopes × ω :=
    reading (s.walkedBy x) s w fun whole => visiting ex x position whole s w
  reading (s.lookup x) s w fun
    | (n, .counter a b offset) =>
      let s := s.write n x (.counter a b (offset + 1))
      if offset + 1 < Value.span a b then tell (offset + 1) s else (.ok false, s, w)
    | (n, .ref scope t offset) =>
      reading (do s.deref (← s.binding scope t)) s w fun whole =>
        let s := s.write n x (.ref scope t (offset + 1))
        if offset + 1 < whole.steps then tell (offset + 1) s else (.ok false, s, w)
    | _ => (.error (.access (.loopVariable x)), s, w)

/-- **Reading a loop variable again after it has moved gives what was there**, on every stack. -/
theorem proceedAgain_eq (ex : Executor κ ω) (x : NameId) (s : Scopes) (w : ω) :
    proceedAgain ex x s w = proceed ex x s w := by
  rw [proceedAgain, proceed]
  cases hlookup : s.lookup x with
  | error e => rfl
  | ok found =>
    obtain ⟨n, cursor⟩ := found
    cases cursor with
    | struct | list => rfl
    | counter a b offset => simp only [reading, Scopes.walkedBy_count hlookup]
    | ref scope t offset =>
      simp only [reading]
      cases hwhole : (do s.deref (← s.binding scope t)) with
      | error e => rfl
      | ok whole => simp only [Scopes.walkedBy_walk hlookup hwhole]

end Machine

/-! ### One instruction -/

/-- The executor leaves the scopes alone where it fails to resolve, where it is told about an element,
and where it finishes; and being told about a value without references, it does not fail to resolve. -/
structure Executor.Careful (ex : Executor κ ω) : Prop where
  execute : ∀ c s w e, (ex.execute c s w).1 = .error (.access e) → (ex.execute c s w).2.1 = s
  visit : ∀ x position v s w, (ex.visit x position v s w).2.1 = s
  told : ∀ x position (v : Value) s w e, v.refFree = true →
    (ex.visit x position v s w).1 ≠ .error (.access e)
  finish : ∀ s w, (ex.finish s w).2.1 = s

theorem Executor.Careful.bindsOnly {ex : Executor κ ω} (careful : ex.Careful) :
    ex.BindsOnly fun _ => False where
  execute _ _ _ never := never.elim
  visit := careful.visit
  finish := careful.finish

namespace Machine

variable {ex : Executor κ ω} {p : Program κ} {s s' : Scopes} {w w' : ω} {x : NameId}
  {e : AccessError}

/-- A failure is passed on. -/
theorem error_of_map {α β : Type} {f : α → β} {r : Except Failure α × Scopes × ω} {g : Failure}
    {here : Scopes × ω} (h : (r.1.map f, r.2) = (.error g, here)) : r = (.error g, here) := by
  obtain ⟨e | a, r'⟩ := r
  · obtain ⟨same, rfl⟩ := Prod.mk.inj h
    obtain rfl := Except.error.inj same
    rfl
  · cases h

/-- Where only reading fails, nothing changes. -/
theorem scopes_of_failed_reading {α β : Type} {r : Except ReadError α}
    {next : α → Except Failure β × Scopes × ω} (failed : (reading r s w next).1 = .error (.access e))
    (never : ∀ a, (next a).1 ≠ .error (.access e)) : (reading r s w next).2.1 = s := by
  cases r with
  | error e' => rfl
  | ok a => exact absurd failed (never a)

section Steps

variable (careful : ex.Careful)

include careful

theorem visiting_ne_access {v : Value} (free : v.refFree = true) (position : Int) :
    (visiting ex x position v s w).1 ≠ .error (.access e) := by
  have told := careful.told x position v s w e free
  rw [visiting]
  intro failed
  split at failed
  · cases failed
  · next f here heq =>
    rw [heq] at told
    exact told (congrArg Except.error (Except.error.inj failed))

/-- **A loop variable that cannot begin is not bound**, if it is new to the innermost scope. -/
theorem scopes_of_failed_begin (wellFormed : s.WellFormed) (new : s.New x) (t : Target)
    (failed : (begin_ ex x s w t).1 = .error (.access e)) : (begin_ ex x s w t).2.1 = s := by
  cases t with
  | range lo hi =>
    rw [begin_] at failed ⊢
    cases hread : (do return (← lo.eval s, ← hi.eval s) : Except ReadError (Int × Int)) with
    | error e' => rfl
    | ok bounds =>
      obtain ⟨a, b⟩ := bounds
      rw [hread] at failed
      simp only [reading] at failed ⊢
      split at failed
      · exact absurd failed (visiting_ne_access careful rfl _)
      · cases failed
  | elements t =>
    rw [begin_] at failed ⊢
    cases hlookup : s.lookup t with
    | error e' => rfl
    | ok found =>
      obtain ⟨n, v⟩ := found
      rw [hlookup] at failed
      change (reading (s.deref v >>= fun whole => .ok (n, whole)) s w _).1 = _ at failed
      change (reading (s.deref v >>= fun whole => .ok (n, whole)) s w _).2.1 = s
      cases hderef : s.deref v with
      | error e' => rfl
      | ok whole =>
        have bound := Scopes.binding_of_lookup hlookup
        have free := Scopes.refFree_of_deref wellFormed (wellFormed.of_binding bound) hderef
        -- what was found before the variable began is found again
        have again : (do
            (s.bind x (.ref n t 0)).deref (← (s.bind x (.ref n t 0)).binding n t)) = .ok whole := by
          rw [Scopes.binding_bind_of_new new _ bound]
          exact Scopes.deref_bind new _ hderef
        rw [hderef] at failed
        simp only [reading, bind, Except.bind] at failed ⊢
        simp only [bind, Except.bind] at again
        split at failed
        · cases failed
        · rw [again] at failed
          exact absurd failed (visiting_ne_access careful free _)

/-- **A loop variable that cannot move stays where it is.** -/
theorem scopes_of_failed_proceed (wellFormed : s.WellFormed)
    (failed : (proceed ex x s w).1 = .error (.access e)) : (proceed ex x s w).2.1 = s := by
  rw [proceed] at failed ⊢
  cases hlookup : s.lookup x with
  | error e' => rfl
  | ok found =>
    obtain ⟨n, cursor⟩ := found
    rw [hlookup] at failed
    cases cursor with
    | struct | list => rfl
    | counter a b offset =>
      simp only [reading] at failed ⊢
      split at failed
      · exact absurd failed (visiting_ne_access careful rfl _)
      · cases failed
    | ref scope t offset =>
      simp only [reading] at failed ⊢
      cases hwhole : (do s.deref (← s.binding scope t)) with
      | error e' => rfl
      | ok whole =>
        obtain ⟨target, htarget, hderef⟩ := exists_of_bind_ok hwhole
        have free : whole.refFree = true := by
          cases scope with
          | negSucc => cases htarget
          | ofNat m => exact Scopes.refFree_of_deref wellFormed (wellFormed.of_binding htarget) hderef
        rw [hwhole] at failed
        dsimp only at failed
        split at failed
        · exact absurd failed (visiting_ne_access careful free _)
        · cases failed

theorem scopes_of_failed_plainStep {i : Instruction κ}
    (failed : (plainStep ex i s w).1 = .error (.access e)) : (plainStep ex i s w).2.1 = s := by
  cases i with
  | create x expr scope =>
    cases scope with
    | none => exact scopes_of_failed_reading failed fun _ => nofun
    | some n =>
      refine scopes_of_failed_reading failed fun v => ?_
      split <;> nofun
  | assign | push => exact scopes_of_failed_reading failed fun _ => nofun
  | command c => exact careful.execute c s w e failed
  | pushScope | popScope | start | advance | branch | goto => cases failed

/-- **An instruction that fails to resolve changes nothing.**  Where it begins a loop variable, that
variable has to be new to the innermost scope. -/
theorem scopes_of_failed_step (wellFormed : s.WellFormed) {i : Instruction κ}
    (new : ∀ t x j, i = .start t x j → s.New x) {pc : Int}
    (failed : step ex pc i s w = (.error (.access e), s', w')) : s' = s := by
  cases i with
  | start t x jump =>
    have begins := error_of_map failed
    have left := scopes_of_failed_begin careful wellFormed (new t x jump rfl) t
      (congrArg Prod.fst begins)
    rwa [begins] at left
  | advance t x jump =>
    have moves := error_of_map failed
    have left := scopes_of_failed_proceed careful wellFormed (congrArg Prod.fst moves)
    rwa [moves] at left
  | branch guard jump =>
    have reads := error_of_map failed
    have left := scopes_of_failed_reading (congrArg Prod.fst reads) fun _ => nofun
    rwa [reads] at left
  | goto jump => cases failed
  | pushScope | popScope | create | assign | push | command =>
    have takes := error_of_map failed
    have left := scopes_of_failed_plainStep careful (congrArg Prod.fst takes)
    rwa [takes] at left

end Steps

/-! ### Runs -/

/-- The innermost scope binds no other variables than these. -/
def InnermostOnly (s : Scopes) (names : List NameId) : Prop :=
  ∀ scope, s.getLast? = some scope → ∀ y, (Assoc.get? y scope).isSome = true → y ∈ names

theorem innermostOnly_push (s : Scopes) : InnermostOnly s.push [] := by
  intro scope hscope y hy
  obtain rfl : [] = scope := by simpa [Scopes.push] using hscope
  cases hy

theorem InnermostOnly.bind {names : List NameId} (h : InnermostOnly s names) (x : NameId) (v : Value) :
    InnermostOnly (s.bind x v) (x :: names) := by
  intro scope hscope y hy
  rcases s.eq_nil_or_concat with rfl | ⟨outer, inner, rfl⟩
  · obtain rfl : [(x, v)] = scope := by simpa [Scopes.bind, Assoc.set] using hscope
    have set_nil : [(x, v)] = Assoc.set x v [] := rfl
    rw [set_nil, Assoc.get?_set] at hy
    split at hy
    · next same => exact List.mem_cons.2 (.inl same)
    · cases hy
  · rw [List.concat_eq_append] at h hscope
    rw [Scopes.bind_snoc] at hscope
    obtain rfl : Assoc.set x v inner = scope := by simpa using hscope
    rw [Assoc.get?_set] at hy
    split at hy
    · next same => exact List.mem_cons.2 (.inl same)
    · exact List.mem_cons_of_mem x (h inner (by simp) y hy)

theorem InnermostOnly.new {names : List NameId} (h : InnermostOnly s names) (other : x ∉ names) :
    s.New x := by
  intro scope hscope
  cases hget : Assoc.get? x scope with
  | none => rfl
  | some v => exact absurd (h scope hscope x (by rw [hget]; rfl)) other

/-- A moment of a run: the stack is well-formed, and where a loop variable begins, the innermost scope
binds only the variables that began directly in front of it. -/
structure Poised (p : Program κ) (n : Nat) (s : Scopes) : Prop where
  wellFormed : s.WellFormed
  row : Begins p n → InnermostOnly s (begun p n)

theorem poised_zero (p : Program κ) (wellFormed : s.WellFormed) : Poised p 0 s.push where
  wellFormed := wellFormed.push
  row _ := innermostOnly_push s

section Runs

variable (careful : ex.Careful) (obeys : ex.Obeys) (orderly : OrderlyFrom p 0 p.length)

include careful obeys orderly

/-- **Every step keeps moments poised.**  A variable begins right behind the opening of a scope, which is
empty then, or behind a variable that has begun; no jump leads there. -/
theorem Poised.step {n : Nat} {d : Config ω} (h : Poised p n s) (first : Step ex p ⟨n, s, w⟩ d) :
    ∃ m : Nat, d.pc = m ∧ Poised p m d.scopes := by
  obtain ⟨line, line_eq, step_eq⟩ := first
  have hline : p[n]? = some line := line_eq
  have here := orderly n line (Nat.zero_le n) (lt_length_of_getElem? hline) hline
  have wellFormed := wellFormed_step obeys h.wellFormed (n : Int) line.instruction w
  rw [step_eq] at wellFormed
  obtain ⟨m, hm⟩ : ∃ m : Nat, d.pc = m := by
    rcases pc_of_step step_eq with next | jumps
    · exact ⟨n + 1, next⟩
    · obtain ⟨m, hm, -⟩ := here.lands d.pc jumps
      exact ⟨m, hm⟩
  refine ⟨m, hm, wellFormed, fun begins => ?_⟩
  obtain ⟨t, x, j, origin, start_eq⟩ := begins
  have there := orderly m _ (Nat.zero_le m) (lt_length_of_getElem? start_eq) start_eq
  obtain ⟨behind, -⟩ := there.begins t x j rfl
  -- so the step did not jump
  have stays : line.instruction.jump? ≠ some d.pc := by
    intro jumps
    obtain ⟨m', hm', closed⟩ := here.lands d.pc jumps
    obtain rfl : m = m' := Int.ofNat.inj (hm.symm.trans hm')
    exact closed ⟨⟨t, x, j, origin, start_eq⟩, behind⟩
  obtain rfl : m = n + 1 := by
    rcases pc_of_step step_eq with next | jumps
    · dsimp only at next
      omega
    · exact absurd jumps stays
  obtain ⟨k, o, hk, enter | ⟨t', x', j', begin_eq⟩⟩ := behind
  · obtain rfl : n = k := by omega
    obtain rfl := Option.some.inj (hline.symm.trans enter)
    obtain ⟨-, hd⟩ := Prod.mk.inj step_eq
    obtain ⟨hscopes, -⟩ := Prod.mk.inj hd
    rw [← hscopes, begun_of_enter enter]
    exact innermostOnly_push s
  · obtain rfl : n = k := by omega
    obtain rfl := Option.some.inj (hline.symm.trans begin_eq)
    have row := h.row ⟨t', x', j', o, begin_eq⟩
    rw [begun_succ begin_eq]
    obtain ⟨hpc, hd⟩ := Prod.mk.inj step_eq
    rcases scopes_begin careful.bindsOnly x' s w t' with ⟨v, bound⟩ | ⟨-, no⟩
    · have left : d.scopes = s.bind x' v := by
        rw [← bound]
        exact (congrArg Prod.fst hd).symm
      rw [left]
      exact row.bind x' v
    · exfalso
      cases hbegin : (begin_ ex x' s w t').1 with
      | error f =>
        change (begin_ ex x' s w t').1.map _ = _ at hpc
        rw [hbegin] at hpc
        cases hpc
      | ok yes =>
        change (begin_ ex x' s w t').1.map _ = _ at hpc
        rw [hbegin] at hpc
        cases yes with
        | true => exact no hbegin
        | false => exact stays (congrArg some (Except.ok.inj hpc))

theorem poised_of_trail {c d : Config ω} {cs : List (Config ω)} (trail : Trail ex p c cs d)
    (start : ∃ n : Nat, c.pc = n ∧ Poised p n c.scopes) : ∃ n : Nat, d.pc = n ∧ Poised p n d.scopes := by
  induction trail with
  | nil => exact start
  | @cons c d e cs first _ ih =>
    obtain ⟨pc, s, w⟩ := c
    obtain ⟨n, rfl, h⟩ := start
    exact ih (h.step careful obeys orderly first)

end Runs

/-- Failures of a program on a stack leave the scopes alone: at each moment of each run, an instruction
that fails to resolve leaves the scopes of that moment; so a run that fails leaves what the instructions
before have made of the scopes, or of as many of them as were there, if it takes its own scope off. -/
structure FailsClean (ex : Executor κ ω) (p : Program κ) (s₀ : Scopes) : Prop where
  step : ∀ w₀ cs c, Trail ex p ⟨(0 : Nat), s₀.push, w₀⟩ cs c → ∀ line, p.at? c.pc = some line →
    ∀ e s w, step ex c.pc line.instruction c.scopes c.world = (.error (.access e), s, w) →
      s = c.scopes
  run : ∀ flag budget keep w₀ position e origin s w,
    run ex flag budget p keep s₀ w₀ = (.failed position e origin, s, w) →
      ∃ cs c, Trail ex p ⟨(0 : Nat), s₀.push, w₀⟩ cs c ∧ c.pc = position ∧
        s = if keep then c.scopes else c.scopes.truncate s₀.length

/-- A run that fails to resolve does so at the instruction of its last moment. -/
theorem failed_of_ends {flag : Nat → ω → Bool} {c : Config ω} {r : Outcome × Scopes × ω}
    {position : Int} {origin : Option String} (ends : Ends ex flag p c r)
    (failed : r.1 = .failed position e origin) :
    c.pc = position ∧ ∃ line, p.at? c.pc = some line ∧ origin = placeOf c.pc line ∧
      step ex c.pc line.instruction c.scopes c.world = (.error (.access e), r.2) := by
  cases ends with
  | finished | unfinished | stopped | astray | exhausted => cases failed
  | @failed line f here hat hstep =>
    cases f with
    | crash => cases failed
    | access e' =>
      obtain ⟨hpc, rfl, horigin⟩ := Outcome.failed.inj failed
      exact ⟨hpc, line, hat, horigin.symm, hstep⟩

/-- **Programs whose variables begin in order fail clean**, on every well-formed stack. -/
theorem failsClean (careful : ex.Careful) (obeys : ex.Obeys) (orderly : OrderlyFrom p 0 p.length)
    {s₀ : Scopes} (wellFormed : s₀.WellFormed) : FailsClean ex p s₀ := by
  have steps : ∀ w₀ cs c, Trail ex p ⟨(0 : Nat), s₀.push, w₀⟩ cs c → ∀ line, p.at? c.pc = some line →
      ∀ e s w, Machine.step ex c.pc line.instruction c.scopes c.world = (.error (.access e), s, w) →
        s = c.scopes := by
    intro w₀ cs c trail line line_eq e s w failed
    obtain ⟨n, hn, poised⟩ := poised_of_trail careful obeys orderly trail
      ⟨0, rfl, poised_zero p wellFormed⟩
    rw [hn] at line_eq
    have hline : p[n]? = some line := line_eq
    have here := orderly n line (Nat.zero_le n) (lt_length_of_getElem? hline) hline
    refine scopes_of_failed_step careful poised.wellFormed (fun t x j starts => ?_) failed
    obtain ⟨-, other⟩ := here.begins t x j starts
    obtain ⟨i, origin⟩ := line
    obtain rfl : i = .start t x j := starts
    exact (poised.row ⟨t, x, j, origin, hline⟩).new other
  refine ⟨steps, fun flag budget keep w₀ position e origin s w failed => ?_⟩
  obtain ⟨cs, c, trail, ends⟩ := exists_trail_of_runFrom ex flag p budget 0 ⟨(0 : Nat), s₀.push, w₀⟩
  obtain ⟨houtcome, hrest⟩ := Prod.mk.inj failed
  obtain ⟨hscopes, -⟩ := Prod.mk.inj hrest
  obtain ⟨hpc, line, line_eq, -, fails⟩ := failed_of_ends ends houtcome
  refine ⟨cs, c, trail, hpc, ?_⟩
  rw [← hscopes, ← steps w₀ cs c trail line line_eq e _ _ fails]
  rfl

end Machine

/-! ### What runs template programs -/

namespace Rendering

variable {α β : Type} {names : NameTable} {s : Scopes} {v u : Rendering} {value : Value}

theorem exists_of_run_bind {m : Building α} {f : α → Building β} {b : β}
    (h : (m >>= f).run v = (.ok b, u)) : ∃ a v', m.run v = (.ok a, v') ∧ (f a).run v' = (.ok b, u) := by
  rw [run_bind] at h
  rcases hm : m.run v with ⟨e | a, v'⟩
  · rw [hm] at h
    cases h
  · rw [hm] at h
    exact ⟨a, v', rfl, h⟩

theorem of_run_resolving {r : Except ReadError α} {a : α} (h : (resolving r).run v = (.ok a, u)) :
    r = .ok a := by
  cases r with
  | error e => cases e <;> cases h
  | ok b =>
    obtain ⟨same, -⟩ := Prod.mk.inj h
    rw [Except.ok.inj same]

section Values

variable {P : Value → Prop} (parts : Value.Structural P) (evals : ∀ {e v}, Expr.eval s e = .ok v → P v)

include parts evals

theorem of_buildField {f : BuiltField} (h : (buildField names s f).run v = (.ok value, u)) : P value := by
  cases f with
  | value e => exact evals (of_run_resolving h)
  | file b =>
    obtain ⟨path, v', -, hvalue⟩ := exists_of_run_bind h
    obtain ⟨same, -⟩ := Prod.mk.inj hvalue
    obtain rfl := Except.ok.inj same
    exact parts.struct.2 (List.forall_mem_nil _)

theorem of_buildFields {fields : List (NameId × BuiltField)} {values : List (NameId × Value)}
    (h : (buildFields names s fields).run v = (.ok values, u)) : ∀ e ∈ values, P e.2 := by
  induction fields generalizing v u values with
  | nil =>
    obtain ⟨same, -⟩ := Prod.mk.inj h
    obtain rfl := Except.ok.inj same
    exact List.forall_mem_nil _
  | cons field rest ih =>
    obtain ⟨first, v', hfirst, h⟩ := exists_of_run_bind h
    obtain ⟨others, v'', hothers, h⟩ := exists_of_run_bind h
    obtain ⟨same, -⟩ := Prod.mk.inj h
    obtain rfl := Except.ok.inj same
    exact List.forall_mem_cons.2 ⟨of_buildField parts evals hfirst, ih hothers⟩

theorem of_buildObject {b : BuiltExpr} (h : (buildObject names s b).run v = (.ok value, u)) : P value := by
  have built (base : String) {v : Rendering} (h : (do
      return Value.struct base (Assoc.ofList (← buildFields names s b.fields)) :
        Building Value).run v = (.ok value, u)) : P value := by
    obtain ⟨values, v', hvalues, h⟩ := exists_of_run_bind h
    obtain ⟨same, -⟩ := Prod.mk.inj h
    obtain rfl := Except.ok.inj same
    exact parts.struct.2 fun e he => of_buildFields parts evals hvalues e (Assoc.mem_of_mem_ofList he)
  rw [buildObject] at h
  dsimp only at h
  split at h
  · obtain ⟨base, v', -, h⟩ := exists_of_run_bind h
    exact built base h
  · obtain ⟨base, v', -, h⟩ := exists_of_run_bind h
    exact built base h

/-- **What a command builds has every property that goes by the parts**, if what expressions give has it. -/
theorem of_valueOf {c : RenderCommand} (h : (valueOf names s c).run v = (.ok value, u)) : P value := by
  cases c with
  | bind x b => exact of_buildObject parts evals h
  | yield x product =>
    cases product with
    | built b => exact of_buildObject parts evals h
    | plain e => exact evals (of_run_resolving h)

end Values

theorem obeys_executor (names : NameTable) : (executor names).Obeys where
  execute c s v wellFormed := by
    show s.Touches (execute names c s v).2.1
    rw [execute]
    split
    · next value u built =>
      have free := of_valueOf Value.structural_refFree (Expr.refFree_of_eval wellFormed _) built
      cases c with
      | bind x b => exact .bind .refl free x
      | yield x product => exact .yield .refl free x
    · exact .refl
    · exact .refl
    · exact .refl
  visit _ _ _ _ _ _ := .refl
  finish _ _ _ := .refl

theorem keeps_executor {Q : Scope → Prop} {P : Value → Prop} (kept : Scope.Kept Q P) (names : NameTable) :
    (executor names).Keeps (Scopes.Each Q) where
  execute c s v h := by
    show Scopes.Each Q (execute names c s v).2.1
    rw [execute]
    split
    · next value u built =>
      have has := of_valueOf kept.parts (h.of_eval kept) built
      cases c with
      | bind x b => exact h.bind kept has x
      | yield x product => exact h.yield kept has x
    · exact h
    · exact h
    · exact h
  visit _ _ _ _ _ h := h
  finish _ _ h := h

theorem careful_executor (names : NameTable) : (executor names).Careful where
  execute c s v e failed := by
    change (execute names c s v).1 = _ at failed
    show (execute names c s v).2.1 = s
    rw [execute] at failed ⊢
    split at failed
    · cases failed
    · cases failed
    · rfl
    · cases failed
  visit _ _ _ _ _ := rfl
  told _ _ _ _ _ _ _ := nofun
  finish _ _ := rfl

end Rendering

/-! ### What runs command programs -/

namespace Supervision

theorem obeys_executor (names : NameTable) (patience : Nat) : (executor names patience).Obeys where
  execute _ _ _ _ := .refl
  visit _ _ _ _ _ _ := .refl
  finish _ _ _ := .refl

theorem keeps_executor (I : Scopes → Prop) (names : NameTable) (patience : Nat) :
    (executor names patience).Keeps I where
  execute _ _ _ h := h
  visit _ _ _ _ _ h := h
  finish _ _ h := h

/-- An element of a value without references resolves; its text may be a number that cannot be written. -/
theorem elementText_ne_access {v : Value} (free : v.refFree = true) (s : Scopes) (position : Int)
    (e : AccessError) : elementText s position v ≠ .error (.access e) := by
  cases v with
  | struct base fields => nofun
  | counter start stop offset =>
    rw [elementText, ReadError.textOf]
    split
    · nofun
    · nofun
  | ref => cases free
  | list items =>
    rw [elementText]
    split
    · nofun
    · next item found =>
      split at found
      · have free_item := Value.refFree_list.1 free item (List.mem_of_getElem? found)
        rw [Scopes.deref_of_refFree free_item]
        cases item <;> nofun
      · cases found

theorem careful_executor (names : NameTable) (patience : Nat) : (executor names patience).Careful where
  execute _ _ _ _ _ := rfl
  visit _ _ _ _ _ := rfl
  told x position v s u e free := by
    have told := elementText_ne_access free s position e
    show (visit names x position v s u).1 ≠ _
    rw [visit]
    dsimp only
    split
    · next e' failed =>
      rw [failed] at told
      cases e' with
      | access e' => exact fun same => told (by rw [Failure.access.inj (Except.error.inj same)])
      | unwritable => nofun
    · nofun
  finish _ _ := rfl

end Supervision

/-! ### Beds -/

namespace Bed

/-- The stacks that programs of a bed leave, one after the other and beginning with the empty stack:
any of its programs at any time, with any ending, and taking its scope off or not. -/
inductive LeftBy (bed : Bed) : Scopes → Prop where
  | nothing : LeftBy bed []
  | globals {s : Scopes} (before : LeftBy bed s) (names : NameTable) (flag : Nat → Rendering → Bool)
      (budget : Nat) (keep : Bool) (v : Rendering) :
      LeftBy bed (Machine.run (Rendering.executor names) flag budget (compile bed.globals) keep s v).2.1
  | template {s : Scopes} (before : LeftBy bed s) {e : String × List (Statement RenderCommand)}
      (mem : e ∈ bed.templates) (names : NameTable) (flag : Nat → Rendering → Bool) (budget : Nat)
      (keep : Bool) (v : Rendering) :
      LeftBy bed (Machine.run (Rendering.executor names) flag budget (compile e.2) keep s v).2.1
  | command {s : Scopes} (before : LeftBy bed s) {e : Option String × List (Statement Command)}
      (mem : e ∈ bed.commands) (names : NameTable) (patience : Nat)
      (flag : Nat → Supervision → Bool) (budget : Nat) (keep : Bool) (v : Supervision) :
      LeftBy bed
        (Machine.run (Supervision.executor names patience) flag budget (compile e.2) keep s v).2.1

theorem LeftBy.wellFormed {bed : Bed} {s : Scopes} (h : LeftBy bed s) : s.WellFormed := by
  induction h with
  | nothing => exact Scopes.wellFormed_nil
  | globals _ names flag budget keep v ih =>
    exact Machine.wellFormed_run (Rendering.obeys_executor names) ih flag budget _ keep v
  | template _ _ names flag budget keep v ih =>
    exact Machine.wellFormed_run (Rendering.obeys_executor names) ih flag budget _ keep v
  | command _ _ names patience flag budget keep v ih =>
    exact Machine.wellFormed_run (Supervision.obeys_executor names patience) ih flag budget _ keep v

/-- What writing keeps in one scope holds of every stack that programs of a bed leave. -/
theorem LeftBy.each {Q : Scope → Prop} {P : Value → Prop} (kept : Scope.Kept Q P) {bed : Bed} {s : Scopes}
    (h : LeftBy bed s) : s.Each Q := by
  have upheld := Scopes.upheld_each kept
  induction h with
  | nothing => exact List.forall_mem_nil _
  | globals _ names flag budget keep v ih =>
    exact Machine.keeps_run upheld (Rendering.keeps_executor kept names) ih flag budget _ keep v
  | template _ _ names flag budget keep v ih =>
    exact Machine.keeps_run upheld (Rendering.keeps_executor kept names) ih flag budget _ keep v
  | command _ _ names patience flag budget keep v ih =>
    exact Machine.keeps_run upheld (Supervision.keeps_executor _ names patience) ih flag budget _ keep v

/-- **A failing step changes nothing.**  Take any program of a bed in which the variables of each loop in
lock step have different names, on a stack that programs of the bed have left.  At every moment of every
run, an instruction that fails to resolve leaves the whole stack as it was, loop variables included; and
what a failed run leaves is what the instructions before have made of it. -/
theorem failed_step_changes_nothing {here : Whereabouts} {d : Document} {bed : Bed}
    (read : ofDocument here d = .ok bed) {s : Scopes} (left : bed.LeftBy s) :
    (Statement.DistinctIn bed.globals → ∀ names,
      Machine.FailsClean (Rendering.executor names) (compile bed.globals) s) ∧
    (∀ e ∈ bed.templates, Statement.DistinctIn e.2 → ∀ names,
      Machine.FailsClean (Rendering.executor names) (compile e.2) s) ∧
    (∀ e ∈ bed.commands, Statement.DistinctIn e.2 → ∀ names patience,
      Machine.FailsClean (Supervision.executor names patience) (compile e.2) s) := by
  have proper := yields_ofDocument here d
  rw [read] at proper
  have wellFormed := left.wellFormed
  have rendering {ts : List (Statement RenderCommand)} (hts : Statement.ProperIn ts)
      (distinct : Statement.DistinctIn ts) (names : NameTable) :
      Machine.FailsClean (Rendering.executor names) (compile ts) s :=
    Machine.failsClean (Rendering.careful_executor names) (Rendering.obeys_executor names)
      (Machine.orderly_of_distinct hts distinct) wellFormed
  refine ⟨rendering proper.globals, fun e he => rendering (proper.templates e he), ?_⟩
  intro e he distinct names patience
  exact Machine.failsClean (Supervision.careful_executor names patience)
    (Supervision.obeys_executor names patience)
    (Machine.orderly_of_distinct (proper.commands e he) distinct) wellFormed

/-- A bed whose command program walks over a list from the globals with two variables in lock step, and
pushes to one of them, which is no list. -/
def pushingBed : Document :=
  .mapping [
    ("globals", .list [.mapping [("set", .mapping [("x", .list [.text "a", .text "b"])])]]),
    ("commands", .list [.mapping [("for", .list [.text "y", .text "z"]),
      ("in", .list [.text "x", .text "x"]), ("mode", .text "group"),
      ("do", .list [.mapping [("push", .mapping [("y", .text "c")])]])]])]

theorem failed_step_changes_nothing_pushingBed :
    ∃ bed, ofDocument default pushingBed = .ok bed ∧
      bed.LeftBy [[(0, .list [.ofText "a", .ofText "b"])]] ∧
      ∃ e ∈ bed.commands, e.2.length = 1 ∧ Statement.DistinctIn e.2 ∧ ∀ names patience,
        Machine.FailsClean (Supervision.executor names patience) (compile e.2)
          [[(0, .list [.ofText "a", .ofText "b"])]] := by
  obtain ⟨bed, read, left, e, he, he_length, distinct⟩ :
      ∃ bed, ofDocument default pushingBed = .ok bed ∧
        (Machine.run (Rendering.executor bed.names) Machine.never 2 (compile bed.globals) true []
          ⟨{ output := default, includes := [] }, default⟩).2.1
            = [[(0, .list [.ofText "a", .ofText "b"])]] ∧
        ∃ e ∈ bed.commands, e.2.length = 1 ∧ Statement.DistinctIn e.2 :=
    ⟨_, rfl, rfl, _, List.mem_cons_self, rfl, ⟨by decide, trivial, trivial⟩, trivial⟩
  have leftBy : bed.LeftBy [[(0, .list [.ofText "a", .ofText "b"])]] :=
    left ▸ .globals .nothing bed.names Machine.never 2 true _
  exact ⟨bed, read, leftBy, e, he, he_length, distinct,
    (failed_step_changes_nothing read leftBy).2.2 e he distinct⟩

/-- The loop variables have begun, and the push to the first of them fails. -/
example :
    ∃ bed w, ofDocument default pushingBed = .ok bed ∧ ∃ e ∈ bed.commands,
      Machine.run (Supervision.executor bed.names 1) Machine.never 9 (compile e.2) true
          [[(0, .list [.ofText "a", .ofText "b"])]] ⟨{}, default⟩
        = (.failed 4 (.variableNotList 1) (some "commands[0].do[0].push.y"),
          [[(0, .list [.ofText "a", .ofText "b"])], [], [(1, .ref 0 0 0), (2, .ref 0 0 0)], []], w) :=
  ⟨_, _, rfl, _, List.mem_cons_self, rfl⟩

end Bed

end Sweep
