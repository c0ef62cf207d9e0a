import Sweep.Child.Start
import Sweep.Proofs.Asking

/-!
# Children over time

The world only goes on: the clock does not go back, a flag that is up stays up, and a child that has
come to its end stays there.  What an operation may do beyond this comes in three degrees.

* `Child.Later`, `World.Later` — the same child, and the same world, at a later moment;
* `World.Onward` — a later world in which nobody tried to start a child;
* `World.Quiet` — a later world in which no time went by either.

What can come of a look at a child and of killing it is said once for all (`CheckEnds`, `KillEnds`).

Each operation on children has its degree here, and says when it brings a child to its end
(`World.IsOver`): seeing that a child is over (`isOver_of_check`), killing it (`isOver_kill`), and
waiting for it (`isOver_of_await`).  A child that was seen to be over in an instant is seen so again in
the same instant (`Quiet.seen`).
-/

namespace Sweep

/-- The same child at a later moment of its life. -/
structure Child.Later (c d : Child) : Prop where
  order : d.order = c.order
  script : d.script = c.script
  started : d.started = c.started
  killed : c.killed = true → d.killed = true
  final : c.status.isFinal = true → d.status = c.status

namespace Child

variable {c d e : Child}

theorem Later.refl (c : Child) : c.Later c := ⟨rfl, rfl, rfl, id, fun _ => rfl⟩

theorem Later.trans (h₁ : c.Later d) (h₂ : d.Later e) : c.Later e where
  order := h₂.order.trans h₁.order
  script := h₂.script.trans h₁.script
  started := h₂.started.trans h₁.started
  killed h := h₂.killed (h₁.killed h)
  final h := by
    have hd := h₁.final h
    rw [h₂.final (hd ▸ h), hd]

theorem Later.isFinal (h : c.Later d) (final : c.status.isFinal = true) :
    d.status.isFinal = true := by
  rw [h.final final]
  exact final

theorem later_settle (c : Child) (s : Status) : c.Later (c.settle s) := by
  rw [settle]
  split
  · exact .refl c
  · next h => exact ⟨rfl, rfl, rfl, id, fun final => absurd final h⟩

theorem isFinal_settle (c : Child) {s : Status} (h : s.isFinal = true) :
    (c.settle s).status.isFinal = true := by
  rw [settle]
  split
  · next final => exact final
  · exact h

theorem later_kill (c : Child) : c.Later { c with killed := true } :=
  ⟨rfl, rfl, rfl, fun _ => rfl, fun _ => rfl⟩

theorem isFinal_ofExit (code : Int) : (Status.ofExit code).isFinal = true := by
  rw [Status.ofExit]
  split <;> rfl

/-- A child that answers goes on answering. -/
theorem Later.poll_ne (h : c.Later d) {now : Nat} (answers : c.poll now ≠ .ok none) :
    d.poll now ≠ .ok none := by
  intro silent
  apply answers
  rw [poll] at silent ⊢
  rw [h.script, h.started] at silent
  split at silent
  · cases silent
  · split at silent
    · cases silent
    · next alive =>
      rw [if_neg fun killed => alive (h.killed killed)]
      exact silent

end Child

namespace World

variable {w w' w'' : World} {i : Nat}

/-- The same world at a later moment. -/
structure Later (w w' : World) : Prop where
  now : w.now ≤ w'.now
  attempts : w.attempts ≤ w'.attempts
  raised : w'.raised = w.raised
  cancelAt : w'.cancelAt = w.cancelAt
  cancelAtAttempt : w'.cancelAtAttempt = w.cancelAtAttempt
  child : ∀ (i : Nat) (c : Child), w.children[i]? = some c →
    ∃ d, w'.children[i]? = some d ∧ c.Later d

/-- A later world in which nobody tried to start a child. -/
structure Onward (w w' : World) : Prop extends Later w w' where
  no_attempt : w'.attempts = w.attempts
  no_child : w'.children.size = w.children.size

/-- A later world in which nobody tried to start a child and no time went by. -/
structure Quiet (w w' : World) : Prop extends Onward w w' where
  no_time : w'.now = w.now

theorem Later.refl (w : World) : w.Later w :=
  ⟨Nat.le_refl _, Nat.le_refl _, rfl, rfl, rfl, fun _ c h => ⟨c, h, .refl c⟩⟩

theorem Later.trans (h₁ : w.Later w') (h₂ : w'.Later w'') : w.Later w'' where
  now := Nat.le_trans h₁.now h₂.now
  attempts := Nat.le_trans h₁.attempts h₂.attempts
  raised := h₂.raised.trans h₁.raised
  cancelAt := h₂.cancelAt.trans h₁.cancelAt
  cancelAtAttempt := h₂.cancelAtAttempt.trans h₁.cancelAtAttempt
  child i c h := by
    obtain ⟨d, hd, hcd⟩ := h₁.child i c h
    obtain ⟨e, he, hde⟩ := h₂.child i d hd
    exact ⟨e, he, hcd.trans hde⟩

theorem Onward.refl (w : World) : w.Onward w := ⟨.refl w, rfl, rfl⟩

theorem Onward.trans (h₁ : w.Onward w') (h₂ : w'.Onward w'') : w.Onward w'' :=
  ⟨h₁.toLater.trans h₂.toLater, h₂.no_attempt.trans h₁.no_attempt, h₂.no_child.trans h₁.no_child⟩

theorem Quiet.refl (w : World) : w.Quiet w := ⟨.refl w, rfl⟩

theorem Quiet.trans (h₁ : w.Quiet w') (h₂ : w'.Quiet w'') : w.Quiet w'' :=
  ⟨h₁.toOnward.trans h₂.toOnward, h₂.no_time.trans h₁.no_time⟩

/-- **A flag that is up stays up.** -/
theorem Later.isCancelled (h : w.Later w') (up : w.isCancelled = true) : w'.isCancelled = true := by
  have any_mono {o : Option Nat} {m n : Nat} (le : m ≤ n) (ho : o.any (· ≤ m) = true) :
      o.any (· ≤ n) = true := by
    cases o with
    | none => exact ho
    | some k =>
      have hk : k ≤ m := by simpa using ho
      simpa using Nat.le_trans hk le
  simp only [World.isCancelled, Bool.or_eq_true, h.raised, h.cancelAt, h.cancelAtAttempt] at up ⊢
  rcases up with (up | up) | up
  · exact .inl (.inl up)
  · exact .inl (.inr (any_mono h.now up))
  · exact .inr (any_mono h.attempts up)

/-- Where no time goes by and no child is started, the flag stays as it is. -/
theorem Quiet.isCancelled_eq (h : w.Quiet w') : w'.isCancelled = w.isCancelled := by
  simp only [World.isCancelled, h.raised, h.cancelAt, h.cancelAtAttempt, h.no_time, h.no_attempt]

/-- A child has come to its end. -/
def IsOver (w : World) (i : Nat) : Prop := ∃ c, w.children[i]? = some c ∧ c.status.isFinal = true

/-- **A child that is over stays over.** -/
theorem IsOver.later (h : w.IsOver i) (later : w.Later w') : w'.IsOver i := by
  obtain ⟨c, hc, final⟩ := h
  obtain ⟨d, hd, hcd⟩ := later.child i c hc
  exact ⟨d, hd, hcd.isFinal final⟩

theorem Later.size_le (h : w.Later w') : w.children.size ≤ w'.children.size := by
  rcases Nat.lt_or_ge w'.children.size w.children.size with hlt | hge
  · obtain ⟨d, hd, -⟩ := h.child _ _ (Array.getElem?_eq_getElem hlt)
    have hin := (Array.getElem?_eq_some_iff.1 hd).1
    omega
  · exact hge

/-- A child that was there before is the same child, only later. -/
theorem Later.before {d : Child} (h : w.Later w') (hi : i < w.children.size)
    (hd : w'.children[i]? = some d) : ∃ c, w.children[i]? = some c ∧ c.Later d := by
  have hc : w.children[i]? = some w.children[i] := Array.getElem?_eq_getElem hi
  obtain ⟨e, he, later⟩ := h.child i _ hc
  obtain rfl : e = d := Option.some.inj (he.symm.trans hd)
  exact ⟨_, hc, later⟩

/-- Where no child was started, every child was there before. -/
theorem Onward.before {d : Child} (h : w.Onward w') (hd : w'.children[i]? = some d) :
    ∃ c, w.children[i]? = some c ∧ c.Later d :=
  h.toLater.before (h.no_child ▸ (Array.getElem?_eq_some_iff.1 hd).1) hd

/-! ### What is noted, and what is changed about one child -/

/-- Only what no child and no clock depends on differs. -/
theorem Quiet.of_same (now : w'.now = w.now) (attempts : w'.attempts = w.attempts)
    (raised : w'.raised = w.raised) (cancelAt : w'.cancelAt = w.cancelAt)
    (cancelAtAttempt : w'.cancelAtAttempt = w.cancelAtAttempt)
    (children : w'.children = w.children) : w.Quiet w' where
  now := Nat.le_of_eq now.symm
  attempts := Nat.le_of_eq attempts.symm
  raised := raised
  cancelAt := cancelAt
  cancelAtAttempt := cancelAtAttempt
  child i c h := ⟨c, by rw [children, h], .refl c⟩
  no_attempt := attempts
  no_child := by rw [children]
  no_time := now

theorem quiet_happen (w : World) (e : Event) : w.Quiet (w.happen e) :=
  .of_same rfl rfl rfl rfl rfl rfl

theorem quiet_disk (w : World) (d : Disk) : w.Quiet { w with disk := d } :=
  .of_same rfl rfl rfl rfl rfl rfl

/-- Something happens, and may be kept on the disk. -/
theorem quiet_note (w : World) (e : Event) (disk : Disk) : w.Quiet { w.happen e with disk } :=
  .of_same rfl rfl rfl rfl rfl rfl

theorem quiet_record (w : World) (level : Level) (source message : String)
    (labels : List (String × Document)) : w.Quiet (w.record level source message labels) := by
  rw [record]
  split
  · exact .of_same rfl rfl rfl rfl rfl rfl
  · exact .of_same rfl rfl rfl rfl rfl rfl

theorem getElem?_modifyChild (w : World) (i : Nat) (f : Child → Child) (j : Nat) :
    (w.modifyChild i f).children[j]? = if i = j then w.children[j]?.map f else w.children[j]? :=
  Array.getElem?_modify

theorem quiet_modifyChild (w : World) (i : Nat) {f : Child → Child} (hf : ∀ c : Child, c.Later (f c)) :
    w.Quiet (w.modifyChild i f) where
  now := Nat.le_refl _
  attempts := Nat.le_refl _
  raised := rfl
  cancelAt := rfl
  cancelAtAttempt := rfl
  child j c h := by
    rw [getElem?_modifyChild, h]
    split
    · exact ⟨f c, rfl, hf c⟩
    · exact ⟨c, rfl, .refl c⟩
  no_attempt := rfl
  no_child := Array.size_modify
  no_time := rfl

theorem quiet_modifyLine (w : World) (i : Nat) (f : StatusLine → StatusLine) :
    w.Quiet (w.modifyLine i f) :=
  w.quiet_modifyChild i fun _ => ⟨rfl, rfl, rfl, id, fun _ => rfl⟩

theorem isOver_modifyChild {f : Child → Child} (hi : i < w.children.size)
    (hf : ∀ c, (f c).status.isFinal = true) : (w.modifyChild i f).IsOver i :=
  ⟨f w.children[i], by rw [getElem?_modifyChild, if_pos rfl, Array.getElem?_eq_getElem hi]; rfl, hf _⟩

/-- Sleeping lets time go by and does nothing else. -/
theorem onward_sleep (d : Nat) (w : World) : w.Onward (Clocked.sleep d w) :=
  ⟨⟨Nat.le_add_right _ _, Nat.le_refl _, rfl, rfl, rfl, fun _ c h => ⟨c, h, .refl c⟩⟩, rfl, rfl⟩

theorem onward_sleepUnlessCancelled (w : World) (micros : Nat) :
    w.Onward (w.sleepUnlessCancelled micros) := by
  rw [sleepUnlessCancelled]
  split
  · exact .refl w
  · split
    · exact w.onward_sleep _
    · exact w.onward_sleep _

/-! ### What can come of a look and of a kill -/

/-- A record is something that happens, and may be kept on the disk. -/
theorem record_eq (w : World) (level : Level) (source message : String)
    (labels : List (String × Document)) :
    ∃ r disk, w.record level source message labels = { w.happen (.record r) with disk } := by
  rw [record]
  split
  · exact ⟨_, _, rfl⟩
  · exact ⟨_, w.disk, rfl⟩

/-- There is a child of that number, it is not over as far as anybody knows, and this is what the system
says about it now. -/
structure Asked (w : World) (i : Nat) (c : Child) (answer : Except SystemError (Option Int)) : Prop where
  found : w.children[i]? = some c
  running : ¬ c.status.isFinal = true
  answer_eq : c.poll w.now = answer

/-- What can come of a look at a child. -/
inductive CheckEnds (w : World) (i : Nat) : Bool × World → Prop where
  /-- There is nothing to ask for. -/
  | known (final : ∀ c, w.children[i]? = some c → c.status.isFinal = true) : CheckEnds w i (true, w)
  | refused {c : Child} {e : SystemError} (asked : w.Asked i c (.error e)) :
      CheckEnds w i (true, w.modifyChild i (·.settle (.error (some e.message))))
  | exited {c : Child} {code : Int} {r : Record} {disk : Disk} (asked : w.Asked i c (.ok (some code))) :
      CheckEnds w i (true, { (w.modifyChild i (·.settle (.ofExit code))).happen (.record r) with disk })
  | running {c : Child} (asked : w.Asked i c (.ok none)) : CheckEnds w i (false, w)

theorem check_ends (w : World) (i : Nat) : CheckEnds w i (w.check i) := by
  rw [check]
  split
  · next gone =>
    refine .known fun c hc => ?_
    rw [gone] at hc
    cases hc
  · next c found =>
    split
    · next final =>
      refine .known fun d hd => ?_
      rw [found] at hd
      obtain rfl := Option.some.inj hd
      exact final
    · next running =>
      split
      · next answer => exact .refused ⟨found, running, answer⟩
      · next answer => exact .running ⟨found, running, answer⟩
      · next code answer =>
        obtain ⟨r, disk, eq⟩ := (w.modifyChild i (·.settle (.ofExit code))).record_eq .debug
          Source.children ("Process " ++ toString c.pid ++ " exited with " ++ toString code)
          (childLabels "exit" c.pid)
        rw [eq]
        exact .exited ⟨found, running, answer⟩

/-- A child that runs is killed, and this is noted. -/
def strike (w : World) (i : Nat) (c : Child) : World :=
  (w.happen (.kill c.pid)).modifyChild i fun c => { c with killed := true }.settle .killed

/-- What can come of killing a child. -/
inductive KillEnds (w : World) (i : Nat) : World → Prop where
  /-- The child was seen to be over. -/
  | seen (seen : (w.check i).1 = true) : KillEnds w i (w.check i).2
  | refused {c : Child} {e : SystemError} {r : Record} {disk : Disk} (asked : w.Asked i c (.ok none))
      (fault : c.script.killFault = some e) :
      KillEnds w i ({ (w.happen (.kill c.pid)).happen (.record r) with disk }.modifyChild i
        (·.settle (.error (some e.message))))
  | obeyed {c : Child} {r : Record} {disk : Disk} (asked : w.Asked i c (.ok none))
      (fault : c.script.killFault = none) :
      KillEnds w i { (w.strike i c).happen (.record r) with disk }
  /-- The child is given some time to go away, and does not. -/
  | stubborn {c : Child} {r r' : Record} {disk disk' : Disk} (asked : w.Asked i c (.ok none))
      (fault : c.script.killFault = none) :
      KillEnds w i { (Clocked.sleep killGrace
        { (w.strike i c).happen (.record r) with disk }).happen (.record r') with disk := disk' }

theorem kill_ends (w : World) (i : Nat) : KillEnds w i (w.kill i) := by
  have ends := w.check_ends i
  rw [kill]
  split
  · next heq =>
    have seen : KillEnds w i (w.check i).2 := .seen (by rw [heq])
    rwa [heq] at seen
  · next u heq =>
    rw [heq] at ends
    cases ends with
    | @running c asked =>
      rw [asked.found]
      dsimp only
      split
      · next e fault =>
        obtain ⟨r, disk, eq⟩ := (w.happen (.kill c.pid)).record_eq .error Source.children
          ("Failed to kill process " ++ toString c.pid ++ ": " ++ e.message) []
        rw [eq]
        exact .refused asked fault
      · next fault =>
        obtain ⟨r, disk, eq⟩ := (w.strike i c).record_eq .info Source.children
          ("Killed process " ++ toString c.pid) (childLabels "kill" c.pid)
        rw [strike] at eq
        rw [eq]
        split
        · obtain ⟨r', disk', eq'⟩ := (Clocked.sleep killGrace
            { (w.strike i c).happen (.record r) with disk }).record_eq .warning Source.children
              ("Process " ++ toString c.pid ++ " still alive after kill") []
          rw [strike] at eq'
          rw [eq']
          exact .stubborn asked fault
        · exact .obeyed asked fault

/-! ### Seeing, killing and waiting -/

/-- A look at a child takes no time. -/
theorem quiet_check (i : Nat) (w : World) : w.Quiet (w.check i).2 := by
  have ends := w.check_ends i
  generalize w.check i = r at ends ⊢
  cases ends with
  | known | running => exact .refl w
  | refused => exact w.quiet_modifyChild i fun c => c.later_settle _
  | exited => exact (w.quiet_modifyChild i fun c => c.later_settle _).trans (quiet_note _ _ _)

/-- Seeing that a child still runs changes nothing. -/
theorem check_of_running (h : (w.check i).1 = false) : (w.check i).2 = w := by
  have ends := w.check_ends i
  generalize w.check i = r at ends h ⊢
  cases ends with
  | running => rfl
  | known | refused | exited => cases h

/-- **A child that is seen to be over is over.** -/
theorem isOver_of_check (hi : i < w.children.size) (h : (w.check i).1 = true) :
    (w.check i).2.IsOver i := by
  have ends := w.check_ends i
  generalize w.check i = r at ends h ⊢
  cases ends with
  | running => cases h
  | known final => exact ⟨_, Array.getElem?_eq_getElem hi, final _ (Array.getElem?_eq_getElem hi)⟩
  | refused => exact isOver_modifyChild hi fun c => c.isFinal_settle rfl
  | exited =>
    exact (isOver_modifyChild hi fun c => c.isFinal_settle (Child.isFinal_ofExit _)).later
      (quiet_note _ _ _).toLater

/-- A child is seen to be over when its state is final or the system answers. -/
theorem seen_iff : (w.check i).1 = true ↔
    ∀ c, w.children[i]? = some c → c.status.isFinal = true ∨ c.poll w.now ≠ .ok none := by
  rw [check]
  cases hc : w.children[i]? with
  | none => exact ⟨fun _ _ => nofun, fun _ => rfl⟩
  | some c =>
    dsimp only
    constructor
    · intro seen d hd
      obtain rfl := Option.some.inj hd
      by_cases final : c.status.isFinal = true
      · exact .inl final
      · rw [if_neg final] at seen
        refine .inr fun silent => ?_
        rw [silent] at seen
        cases seen
    · intro ends
      split
      · rfl
      · next running =>
        have answers := (ends c rfl).resolve_left running
        split
        · rfl
        · next silent => exact absurd silent answers
        · rfl

/-- **A child that is seen to be over is seen so again**, as long as no time goes by. -/
theorem Quiet.seen (h : w.Quiet w') (seen : (w.check i).1 = true) : (w'.check i).1 = true := by
  rw [seen_iff] at seen ⊢
  intro d hd
  obtain ⟨c, hc, later⟩ := h.before hd
  rcases seen c hc with final | answers
  · exact .inl (later.isFinal final)
  · rw [h.no_time]
    exact .inr (later.poll_ne answers)

theorem quiet_strike (w : World) (i : Nat) (c : Child) : w.Quiet (w.strike i c) :=
  (w.quiet_happen _).trans
    (quiet_modifyChild _ i fun c => c.later_kill.trans (Child.later_settle _ _))

/-- Killing a child may take time, and starts none. -/
theorem onward_kill (i : Nat) (w : World) : w.Onward (w.kill i) := by
  have ends := w.kill_ends i
  generalize w.kill i = u at ends ⊢
  have struck (c : Child) (e : Event) (disk : Disk) :
      w.Onward { (w.strike i c).happen e with disk } :=
    ((w.quiet_strike i c).trans (quiet_note _ _ _)).toOnward
  cases ends with
  | seen => exact (w.quiet_check i).toOnward
  | refused =>
    refine .trans ?_ (quiet_modifyChild _ i fun c => c.later_settle _).toOnward
    exact ((w.quiet_happen _).trans (quiet_note _ _ _)).toOnward
  | obeyed => exact struck _ _ _
  | stubborn => exact ((struck _ _ _).trans (onward_sleep _ _)).trans (quiet_note _ _ _).toOnward

/-- **A child that is killed is over**, whether the system kills it or refuses to. -/
theorem isOver_kill (hi : i < w.children.size) : (w.kill i).IsOver i := by
  have ends := w.kill_ends i
  generalize w.kill i = u at ends ⊢
  have struck (c : Child) (e : Event) (disk : Disk) :
      World.IsOver { (w.strike i c).happen e with disk } i :=
    (isOver_modifyChild (w := w.happen (.kill c.pid)) hi fun c => Child.isFinal_settle _ rfl).later
      (quiet_note _ _ _).toLater
  cases ends with
  | seen seen => exact isOver_of_check hi seen
  | refused => exact isOver_modifyChild hi fun c => c.isFinal_settle rfl
  | obeyed => exact struck _ _ _
  | stubborn =>
    exact ((struck _ _ _).later (onward_sleep _ _).toLater).later (quiet_note _ _ _).toLater

theorem onward_checkOrKill (i : Nat) (w : World) : w.Onward (w.checkOrKill i).2 := by
  rw [checkOrKill]
  split
  · exact w.onward_kill i
  · exact (w.quiet_check i).toOnward

theorem isOver_of_checkOrKill (hi : i < w.children.size) (h : (w.checkOrKill i).1 = true) :
    (w.checkOrKill i).2.IsOver i := by
  rw [checkOrKill] at h ⊢
  split
  · exact isOver_kill hi
  · next up =>
    rw [if_neg up] at h
    exact isOver_of_check hi h

theorem keeps_checkOrKill (i : Nat) (w : World) : Wait.Keeps (checkOrKill i) (w.Onward ·) where
  ask u hu := hu.trans (u.onward_checkOrKill i)
  sleep d u hu := hu.trans (u.onward_sleep d)

theorem onward_await (i : Nat) (plan : WaitPlan) (patience : Nat) (w : World) :
    w.Onward (w.await i plan patience).2 := by
  have kept := Wait.run_keeps (w.keeps_checkOrKill i) plan patience (.refl w)
  rw [await]
  split
  · next heq =>
    rw [heq] at kept
    refine .trans ?_ (onward_kill _ _)
    exact kept.trans (quiet_record _ _ _ _ _).toOnward
  · exact kept

/-- **A child that was waited for is over**, whether or not there was time enough. -/
theorem isOver_of_await {plan : WaitPlan} {patience : Nat} (hi : i < w.children.size)
    (h : (w.await i plan patience).1 = .done ∨ (w.await i plan patience).1 = .timedOut) :
    (w.await i plan patience).2.IsOver i := by
  have ended := Wait.run_ended (w.keeps_checkOrKill i) plan patience (.refl w)
  have kept := ended.after (w.keeps_checkOrKill i)
  rw [await] at h ⊢
  split at h
  · next u heq =>
    rw [heq] at kept
    refine isOver_kill ?_
    rw [(quiet_record _ _ _ _ _).no_child, kept.no_child]
    exact hi
  · next running =>
    cases hr : Wait.run plan patience (checkOrKill i) w with
    | mk r u =>
      rw [hr] at ended h
      cases ended with
      | @done v u before answer =>
        have gone := isOver_of_checkOrKill (w := v) (i := i) (by rw [before.no_child]; exact hi)
        rw [answer] at gone
        exact gone rfl
      | timedOut => exact absurd hr (running u)
      | unfinished => rcases h with h | h <;> cases h
      | refused => rcases h with h | h <;> cases h

end World

end Sweep
