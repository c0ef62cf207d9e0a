import Sweep.Proofs.Fates

/-!
# One child in many hands

A child is looked at, killed and written about, in any order and at any time.  What comes of it depends on
the child and on the clock alone, and the child has its say in two places: its state, and its status line.

* `Child.seen`, `Child.felled` — a child after a look at it, and after it was killed;
* `getElem?_check`, `getElem?_kill` — this is what happens to the child, and nothing happens to others;
* `Handling` — what can be done about a child, and `getElem?_run`, what it does to the child;
* `Child.Bonded` — the state of a child and its line say the same; `Bonded.handle` is the step;
* `changes_once` — a state that stays when it is final changes at most once;
* `state_settled_once` — what a child has to show for itself after any handlings, one after the other.
-/

namespace Sweep

namespace Child

variable {c : Child} {t : Nat} {s : Status}

/-- A child after a look at it. -/
def seen (t : Nat) (c : Child) : Child :=
  match c.poll t with
  | .error e => c.settle (.error (some e.message))
  | .ok none => c
  | .ok (some code) => c.settle (.ofExit code)

/-- A child that runs after the system was asked to kill it. -/
def struck (c : Child) : Child :=
  match c.script.killFault with
  | some e => c.settle (.error (some e.message))
  | none => { c with killed := true }.settle .killed

/-- A child after it was killed, which begins with a look at it. -/
def felled (t : Nat) (c : Child) : Child :=
  if (c.seen t).status.isFinal then c.seen t else c.struck

theorem settle_of_final (final : c.status.isFinal = true) (s : Status) : c.settle s = c := if_pos final

theorem seen_of_final (final : c.status.isFinal = true) (t : Nat) : c.seen t = c := by
  rw [seen]
  split
  · exact settle_of_final final _
  · rfl
  · exact settle_of_final final _

theorem seen_of_running (silent : c.poll t = .ok none) : c.seen t = c := by
  rw [seen, silent]

/-- A look at a child that answers brings the child to its end. -/
theorem isFinal_seen (answers : c.poll t ≠ .ok none) : (c.seen t).status.isFinal = true := by
  rw [seen]
  split
  · exact c.isFinal_settle rfl
  · next silent => exact absurd silent answers
  · exact c.isFinal_settle (isFinal_ofExit _)

theorem isFinal_struck (c : Child) : c.struck.status.isFinal = true := by
  rw [struck]
  split
  · exact c.isFinal_settle rfl
  · exact isFinal_settle _ rfl

theorem isFinal_felled (t : Nat) (c : Child) : (c.felled t).status.isFinal = true := by
  rw [felled]
  split
  · next final => exact final
  · exact c.isFinal_struck

/-- What is seen of a child is never that it was killed. -/
theorem seen_ne_killed (running : c.status ≠ .killed) (t : Nat) : (c.seen t).status ≠ .killed := by
  have settled {s : Status} (hs : s ≠ .killed) : (c.settle s).status ≠ .killed := by
    rw [settle]
    split
    · exact running
    · exact hs
  rw [seen]
  split
  · exact settled fun h => by cases h
  · exact running
  · refine settled fun h => ?_
    rw [Status.ofExit] at h
    split at h <;> cases h

/-- A child that has exited answers. -/
theorem poll_ne_of_exited (exited : c.hasExited t = true) : c.poll t ≠ .ok none := by
  intro silent
  rw [poll] at silent
  split at silent
  · cases silent
  · split at silent
    · cases silent
    · rw [show c.script.exit.any (· ≤ t - c.started) = true from exited] at silent
      cases silent

/-- **A child that has exited is not turned into one that was killed.** -/
theorem felled_ne_killed (exited : c.hasExited t = true) (running : c.status ≠ .killed) :
    (c.felled t).status ≠ .killed := by
  rw [felled, if_pos (isFinal_seen (poll_ne_of_exited exited))]
  exact seen_ne_killed running t

end Child

namespace World

variable {w : World}

/-! ### What looking and killing do to the children -/

/-- **A look changes the child that is looked at.** -/
theorem getElem?_check (i : Nat) (w : World) (j : Nat) :
    (w.check i).2.children[j]?
      = if i = j then w.children[j]?.map (Child.seen w.now) else w.children[j]? := by
  have ends := w.check_ends i
  generalize w.check i = r at ends ⊢
  -- the child that is looked at is what it should be
  suffices h : r.2.children[i]? = w.children[i]?.map (Child.seen w.now) ∧
      ∀ j, i ≠ j → r.2.children[j]? = w.children[j]? by
    split
    · next same =>
      subst same
      exact h.1
    · next other => exact h.2 j other
  cases ends with
  | known final =>
    refine ⟨?_, fun _ _ => rfl⟩
    cases hc : w.children[i]? with
    | none => rfl
    | some c => rw [Option.map_some, Child.seen_of_final (final c hc)]
  | @refused c e asked =>
    refine ⟨?_, fun j other => by rw [getElem?_modifyChild, if_neg other]⟩
    rw [getElem?_modifyChild, if_pos rfl, asked.found, Option.map_some, Option.map_some, Child.seen,
      asked.answer_eq]
  | @exited c code r disk asked =>
    refine ⟨?_, fun j other => (getElem?_modifyChild w i _ j).trans (if_neg other)⟩
    refine (getElem?_modifyChild w i _ i).trans ?_
    rw [if_pos rfl, asked.found, Option.map_some, Option.map_some, Child.seen, asked.answer_eq]
  | @running c asked =>
    refine ⟨?_, fun _ _ => rfl⟩
    rw [asked.found, Option.map_some, Child.seen_of_running asked.answer_eq]

/-- **A look tells whether the child is over.** -/
theorem check_answer {i : Nat} {c : Child} (hc : w.children[i]? = some c) :
    (w.check i).1 = (c.seen w.now).status.isFinal := by
  have seen := w.getElem?_check i i
  rw [if_pos rfl, hc, Option.map_some] at seen
  cases answer : (w.check i).1 with
  | true =>
    obtain ⟨d, hd, final⟩ := isOver_of_check (Array.getElem?_eq_some_iff.1 hc).1 answer
    obtain rfl := Option.some.inj (hd.symm.trans seen)
    exact final.symm
  | false =>
    have ends := w.check_ends i
    generalize w.check i = r at ends answer
    cases ends with
    | @running d asked =>
      obtain rfl := Option.some.inj (hc.symm.trans asked.found)
      rw [Child.seen_of_running asked.answer_eq]
      exact (Bool.eq_false_of_not_eq_true asked.running).symm
    | known | refused | exited => cases answer

/-- **Killing changes the child that is killed.** -/
theorem getElem?_kill (i : Nat) (w : World) (j : Nat) :
    (w.kill i).children[j]?
      = if i = j then w.children[j]?.map (Child.felled w.now) else w.children[j]? := by
  have ends := w.kill_ends i
  generalize w.kill i = u at ends ⊢
  have felled {c : Child} (asked : w.Asked i c (.ok none)) : c.felled w.now = c.struck := by
    rw [Child.felled, Child.seen_of_running asked.answer_eq, if_neg asked.running]
  -- a child that runs is changed by the system
  have modified {c : Child} (asked : w.Asked i c (.ok none)) {f : Child → Child} (hf : f c = c.struck) :
      (w.modifyChild i f).children[j]?
        = if i = j then w.children[j]?.map (Child.felled w.now) else w.children[j]? := by
    rw [getElem?_modifyChild]
    split
    · next same =>
      subst same
      rw [asked.found, Option.map_some, Option.map_some, felled asked, hf]
    · rfl
  cases ends with
  | seen seen =>
    rw [getElem?_check]
    split
    · next same =>
      subst same
      cases hc : w.children[i]? with
      | none => rfl
      | some c =>
        rw [check_answer hc] at seen
        rw [Option.map_some, Option.map_some, Child.felled, if_pos seen]
    · rfl
  | refused asked fault => exact modified asked (by rw [Child.struck, fault])
  | obeyed asked fault => exact modified asked (by rw [Child.struck, fault])
  | stubborn asked fault => exact modified asked (by rw [Child.struck, fault])

end World

/-! ### Handlings -/

/-- What can be done about a child. -/
inductive Handling where
  | check
  | kill
  /-- A new line of output. -/
  | say (message : String)
  /-- A stream could not be written to its file. -/
  | flag (channel : Channel)
  /-- The status line is told that the child runs. -/
  | proceed
  /-- Time goes by, in microseconds. -/
  | pause (micros : Nat)
  deriving DecidableEq, Repr

namespace Handling

/-- Do it about a child of a world. -/
def run (i : Nat) (w : World) : Handling → World
  | check => (w.check i).2
  | kill => w.kill i
  | say message => w.modifyLine i (·.say message)
  | flag channel => w.modifyLine i (·.flag channel)
  | proceed => w.modifyLine i (·.settle .running)
  | pause micros => Clocked.sleep micros w

/-- What it does to the child at an instant. -/
def handle (t : Nat) (c : Child) : Handling → Child
  | check => c.seen t
  | kill => c.felled t
  | say message => { c with line := c.line.say message }
  | flag channel => { c with line := c.line.flag channel }
  | proceed => { c with line := c.line.settle .running }
  | pause _ => c

theorem getElem?_run (i : Nat) (w : World) (a : Handling) :
    (a.run i w).children[i]? = w.children[i]?.map (a.handle w.now) := by
  have written (f : StatusLine → StatusLine) :
      (w.modifyLine i f).children[i]? = w.children[i]?.map fun c => { c with line := f c.line } :=
    (w.getElem?_modifyChild i _ i).trans (if_pos rfl)
  cases a with
  | check => exact (w.getElem?_check i i).trans (if_pos rfl)
  | kill => exact (w.getElem?_kill i i).trans (if_pos rfl)
  | say message => exact written _
  | flag channel => exact written _
  | proceed => exact written _
  | pause micros => exact Option.map_id_fun'.symm ▸ rfl

theorem onward_run (i : Nat) (w : World) (a : Handling) : w.Onward (a.run i w) := by
  cases a with
  | check => exact (w.quiet_check i).toOnward
  | kill => exact w.onward_kill i
  | say message => exact (w.quiet_modifyLine i (·.say message)).toOnward
  | flag channel => exact (w.quiet_modifyLine i (·.flag channel)).toOnward
  | proceed => exact (w.quiet_modifyLine i (·.settle .running)).toOnward
  | pause micros => exact w.onward_sleep micros

end Handling

/-! ### The state and the status line -/

/-- A stream has a flag on the line. -/
def StatusLine.isLost (l : StatusLine) : Channel → Bool
  | .stdout => l.stdoutLost
  | .stderr => l.stderrLost

/-- The state of a child and its line say the same: that the child runs, or how it ended. -/
inductive Child.Bonded (c : Child) : Prop where
  | running (status : c.status = .running) (line : c.line.final = none)
  | ended (final : c.status.isFinal = true) (line : c.line.final = some c.status)
      (text : c.line.message = c.status.text)

namespace Child

variable {c : Child}

theorem Bonded.settle (h : c.Bonded) {s : Status} (final : s.isFinal = true) : (c.settle s).Bonded := by
  cases h with
  | running status line =>
    have settled : c.line.settle s = { c.line with final := some s, message := s.text } := by
      simp [StatusLine.settle, final, line]
    rw [World.settle_of_running (by rw [status]; nofun), settled]
    exact .ended final rfl rfl
  | ended before line text =>
    rw [settle_of_final before]
    exact .ended before line text

theorem Bonded.seen (h : c.Bonded) (t : Nat) : (c.seen t).Bonded := by
  rw [Child.seen]
  split
  · exact h.settle rfl
  · exact h
  · exact h.settle (isFinal_ofExit _)

theorem Bonded.felled (h : c.Bonded) (t : Nat) : (c.felled t).Bonded := by
  rw [Child.felled]
  split
  · exact h.seen t
  · rw [struck]
    split
    · exact h.settle rfl
    · refine Bonded.settle ?_ rfl
      cases h with
      | running status line => exact .running status line
      | ended final line text => exact .ended final line text

/-- **Nothing that is done about a child parts its state from its line.** -/
theorem Bonded.handle (h : c.Bonded) (t : Nat) (a : Handling) : (a.handle t c).Bonded := by
  cases a with
  | check => exact h.seen t
  | kill => exact h.felled t
  | say message =>
    cases h with
    | running status line => exact .running status (by simp [Handling.handle, StatusLine.say, line])
    | ended final line text =>
      have kept : c.line.say message = c.line := by simp [StatusLine.say, line]
      rw [Handling.handle, kept]
      exact .ended final line text
  | flag channel =>
    cases h with
    | running status line => exact .running status (by cases channel <;> exact line)
    | ended final line text =>
      exact .ended final (by cases channel <;> exact line) (by cases channel <;> exact text)
  | proceed => exact h
  | pause micros => exact h

/-! ### Flags -/

theorem isLost_settle (c : Child) (s : Status) (channel : Channel) :
    (c.settle s).line.isLost channel = c.line.isLost channel := by
  rw [settle]
  split
  · rfl
  · dsimp only
    rw [StatusLine.settle]
    split
    · cases channel <;> rfl
    · rfl

theorem isLost_seen (t : Nat) (c : Child) (channel : Channel) :
    (c.seen t).line.isLost channel = c.line.isLost channel := by
  rw [seen]
  split
  · exact c.isLost_settle _ channel
  · rfl
  · exact c.isLost_settle _ channel

theorem isLost_felled (t : Nat) (c : Child) (channel : Channel) :
    (c.felled t).line.isLost channel = c.line.isLost channel := by
  rw [felled]
  split
  · exact isLost_seen t c channel
  · rw [struck]
    split
    · exact c.isLost_settle _ channel
    · exact isLost_settle _ _ channel

/-- **A flag that is set stays set.** -/
theorem isLost_handle {channel : Channel} (lost : c.line.isLost channel = true) (t : Nat) (a : Handling) :
    (a.handle t c).line.isLost channel = true := by
  cases a with
  | check => exact (isLost_seen t c channel).trans lost
  | kill => exact (isLost_felled t c channel).trans lost
  | say message =>
    show (c.line.say message).isLost channel = true
    rw [StatusLine.say]
    split
    · exact lost
    · cases channel <;> exact lost
  | flag other => cases channel <;> cases other <;> first | rfl | exact lost
  | proceed => exact lost
  | pause micros => exact lost

end Child

/-! ### One handling after the other -/

/-- A state that stays when it is final changes at most once. -/
theorem changes_once (status : Nat → Status) (stays : ∀ k, (status k).isFinal = true →
    status (k + 1) = status k) (m : Nat) :
    ∃ n s, s.isFinal = true ∧ ∀ k ≤ m, status k = if k < n then .running else s := by
  have running {s : Status} (h : ¬ s.isFinal = true) : s = .running := by
    cases s <;> first | rfl | exact absurd rfl h
  induction m with
  | zero =>
    by_cases final : (status 0).isFinal = true
    · refine ⟨0, status 0, final, fun k hk => ?_⟩
      rw [Nat.le_zero.1 hk, if_neg (Nat.lt_irrefl 0)]
    · refine ⟨1, .killed, rfl, fun k hk => ?_⟩
      rw [Nat.le_zero.1 hk, if_pos Nat.one_pos, running final]
  | succ m ih =>
    obtain ⟨n, s, final, before⟩ := ih
    by_cases changed : n ≤ m
    · -- the state has changed already
      refine ⟨n, s, final, fun k hk => ?_⟩
      rcases Nat.le_or_eq_of_le_succ hk with hk | rfl
      · exact before k hk
      · have last : status m = s := (before m (Nat.le_refl m)).trans (if_neg (by omega))
        rw [stays m (last ▸ final), last, if_neg (by omega)]
    · have all (k : Nat) (hk : k ≤ m) : status k = .running := (before k hk).trans (if_pos (by omega))
      by_cases now : (status (m + 1)).isFinal = true
      · refine ⟨m + 1, status (m + 1), now, fun k hk => ?_⟩
        rcases Nat.le_or_eq_of_le_succ hk with hk | rfl
        · rw [all k hk, if_pos (by omega)]
        · rw [if_neg (Nat.lt_irrefl _)]
      · refine ⟨m + 2, .killed, rfl, fun k hk => ?_⟩
        rw [if_pos (by omega)]
        rcases Nat.le_or_eq_of_le_succ hk with hk | rfl
        · exact all k hk
        · exact running now

/-- Several things are done about a child, one after the other. -/
def handled (i : Nat) (as : List Handling) (w : World) : World := as.foldl (fun w a => a.run i w) w

theorem handled_take_succ {i : Nat} {as : List Handling} {k : Nat} {a : Handling} (ha : as[k]? = some a)
    (w : World) : handled i (as.take (k + 1)) w = a.run i (handled i (as.take k) w) := by
  rw [handled, List.take_add_one, ha, List.foldl_append]
  rfl

theorem handled_take_of_le {i : Nat} {as : List Handling} {k : Nat} (hk : as[k]? = none) (w : World) :
    handled i (as.take (k + 1)) w = handled i (as.take k) w := by
  rw [handled, List.take_add_one, hk, Option.toList_none, List.append_nil]
  rfl

/-- What a child is like while things are done about it, one after the other. -/
theorem exists_children_of_handled {w : World} {i : Nat} {c : Child} (found : w.children[i]? = some c)
    (as : List Handling) :
    ∃ child : Nat → Child, (∀ k, (handled i (as.take k) w).children[i]? = some (child k)) ∧
      (∀ k a, as[k]? = some a → child (k + 1) = a.handle (handled i (as.take k) w).now (child k)) ∧
      ∀ k, as[k]? = none → child (k + 1) = child k := by
  have there (k : Nat) : ∃ d, (handled i (as.take k) w).children[i]? = some d := by
    induction k with
    | zero => exact ⟨c, found⟩
    | succ k ih =>
      obtain ⟨d, hd⟩ := ih
      cases ha : as[k]? with
      | none => exact ⟨d, by rw [handled_take_of_le ha, hd]⟩
      | some a => exact ⟨_, by rw [handled_take_succ ha, Handling.getElem?_run, hd, Option.map_some]⟩
  choose child child_eq using there
  refine ⟨child, child_eq, fun k a ha => ?_, fun k ha => ?_⟩
  · have next := child_eq (k + 1)
    rw [handled_take_succ ha, Handling.getElem?_run, child_eq k, Option.map_some] at next
    exact (Option.some.inj next).symm
  · have next := child_eq (k + 1)
    rw [handled_take_of_le ha, child_eq k] at next
    exact (Option.some.inj next).symm

/-- **The state of a child is settled once.**  Take a child that runs in any world, whatever its script
says, and a list of things that are done about it, one after the other.  Then

* its state is that it runs up to some point, and one final state from there on;
* killing it brings it to its end, but never turns a child that had exited into one that was killed;
* a look at it says that it is over if and only if its state is final afterwards;
* when its state is final, its status line has this state, and the text of it for its message;
* a flag that was set on the line stays set. -/
theorem state_settled_once {w : World} {i : Nat} {c : Child} (found : w.children[i]? = some c)
    (running : c.status = .running) (unsettled : c.line.final = none) (as : List Handling) :
    ∃ child : Nat → Child, child 0 = c ∧
      (∀ k, (handled i (as.take k) w).children[i]? = some (child k)) ∧
      (∃ n s, s.isFinal = true ∧ ∀ k ≤ as.length, (child k).status = if k < n then .running else s) ∧
      (∀ k, as[k]? = some .kill → (child (k + 1)).status.isFinal = true ∧
        ((child k).hasExited (handled i (as.take k) w).now = true → (child k).status ≠ .killed →
          (child (k + 1)).status ≠ .killed)) ∧
      (∀ k, as[k]? = some .check →
        ((handled i (as.take k) w).check i).1 = (child (k + 1)).status.isFinal) ∧
      (∀ k, (child k).status.isFinal = true →
        (child k).line.final = some (child k).status ∧
          (child k).line.message = (child k).status.text) ∧
      (∀ channel k, as[k]? = some (.flag channel) → (child (k + 1)).line.isLost channel = true) ∧
      ∀ channel j k, j ≤ k → (child j).line.isLost channel = true →
        (child k).line.isLost channel = true := by
  obtain ⟨child, child_eq, next, rest⟩ := exists_children_of_handled found as
  have first : child 0 = c := Option.some.inj ((child_eq 0).symm.trans found)
  have bonded (k : Nat) : (child k).Bonded := by
    induction k with
    | zero =>
      rw [first]
      exact .running running unsettled
    | succ k ih =>
      cases ha : as[k]? with
      | none =>
        rw [rest k ha]
        exact ih
      | some a =>
        rw [next k a ha]
        exact ih.handle _ a
  have stays (k : Nat) (final : (child k).status.isFinal = true) :
      (child (k + 1)).status = (child k).status := by
    cases ha : as[k]? with
    | none => rw [rest k ha]
    | some a =>
      obtain ⟨d, hd, later⟩ := (a.onward_run i (handled i (as.take k) w)).child i _ (child_eq k)
      rw [← handled_take_succ ha, child_eq (k + 1)] at hd
      obtain rfl := Option.some.inj hd
      exact later.final final
  have flagged (channel : Channel) (k : Nat) (lost : (child k).line.isLost channel = true) :
      (child (k + 1)).line.isLost channel = true := by
    cases ha : as[k]? with
    | none => rwa [rest k ha]
    | some a =>
      rw [next k a ha]
      exact Child.isLost_handle lost _ a
  refine ⟨child, first, child_eq, changes_once (fun k => (child k).status) stays as.length,
    fun k ha => ?_, fun k ha => ?_, fun k final => ?_, fun channel k ha => ?_,
    fun channel j k hjk lost => ?_⟩
  · rw [next k _ ha]
    exact ⟨Child.isFinal_felled _ _, Child.felled_ne_killed⟩
  · rw [next k _ ha]
    exact World.check_answer (child_eq k)
  · cases bonded k with
    | running status =>
      rw [status] at final
      cases final
    | ended _ line text => exact ⟨line, text⟩
  · rw [next k _ ha]
    cases channel <;> rfl
  · induction hjk with
    | refl => exact lost
    | step _ ih => exact flagged channel _ ih

/-- A child that the system refuses to kill: it exits later, and a look at it then, a new line of output and a
line that is told that the child runs come too late to change anything. -/
theorem state_settled_once_refusedKill :
    let c : Child :=
      { order := { command := "a" }, pid := 1001, started := 0, line := { label := "a" }
        script := { exit := some 500, killFault := some ⟨1, "x"⟩ } }
    let as : List Handling :=
      [.check, .flag .stderr, .pause 300, .kill, .say "b", .proceed, .pause 300, .check]
    ({ children := #[c] } : World).children[0]? = some c ∧ c.status = .running ∧ c.line.final = none ∧
      ∃ d, (handled 0 as { children := #[c] }).children[0]? = some d ∧
        d.status = .error (some "[Errno 1] x") ∧ d.line.final = some d.status ∧
        d.line.message = d.status.text ∧ d.line.isLost .stderr = true := by
  intro c as
  obtain ⟨child, -, child_eq, -, -, -, bonded, flagged, kept⟩ :=
    state_settled_once (w := { children := #[c] }) (i := 0) rfl rfl rfl as
  have last : (handled 0 as { children := #[c] }).children[0]? = some (child 8) := child_eq 8
  have status : (child 8).status = .error (some "[Errno 1] x") := by
    have found : (handled 0 as { children := #[c] }).children[0]?.map (·.status)
        = some (.error (some "[Errno 1] x")) := by decide +kernel
    rw [last] at found
    exact Option.some.inj found
  obtain ⟨line, text⟩ := bonded 8 (by rw [status]; rfl)
  exact ⟨rfl, rfl, rfl, child 8, last, status, line, text,
    kept .stderr 2 8 (by decide) (flagged .stderr 1 rfl)⟩

end Sweep
