import Sweep.Proofs.Handling

/-!
# Killing children one after the other

Children that are killed one after the other have their turns at different instants: who does not go away
at once is given some time, and in this time the children that are still to come may exit.

* `World.kills` — the kills so far with their times, which a look does not add to (`kills_check`);
* `Child.sentence`, `Child.lingers` — the state of a child that ran when it was killed, and whether killing
  it takes time;
* `kill_spec` — killing a child is noted when the child runs, and takes time only if it lingers;
* `turn`, `turn_head`, `turn_tail` — when each of several children has its turn;
* `Felled`, `felled_cons` — what comes of it, and how it goes on with one child more;
* `felled_killAll` — this is what killing them one after the other does.
-/

namespace Sweep

/-- The number of the process that is killed, if the event is a kill. -/
def Event.killed? : Event → Option Nat
  | kill pid => some pid
  | _ => none

namespace World

variable {w : World} {i : Nat} {c : Child}

/-- The kills so far with their times, the refused ones included. -/
def kills (w : World) : List (Nat × Nat) :=
  w.events.toList.filterMap fun e => e.2.killed?.map (e.1, ·)

theorem kills_happen (w : World) (e : Event) :
    (w.happen e).kills = w.kills ++ (e.killed?.map (w.now, ·)).toList := by
  simp only [kills, happen, Array.toList_push, List.filterMap_append]
  cases h : e.killed? <;> simp [h]

section Record

variable (w : World) (level : Level) (source message : String) (labels : List (String × Document))

@[simp] theorem now_record : (w.record level source message labels).now = w.now := by
  obtain ⟨r, disk, eq⟩ := w.record_eq level source message labels
  rw [eq]
  rfl

@[simp] theorem children_record : (w.record level source message labels).children = w.children := by
  obtain ⟨r, disk, eq⟩ := w.record_eq level source message labels
  rw [eq]
  rfl

@[simp] theorem kills_record : (w.record level source message labels).kills = w.kills := by
  obtain ⟨r, disk, eq⟩ := w.record_eq level source message labels
  rw [eq]
  exact (kills_happen w (.record r)).trans (List.append_nil _)

end Record

@[simp] theorem kills_modifyChild (w : World) (i : Nat) (f : Child → Child) :
    (w.modifyChild i f).kills = w.kills := rfl

@[simp] theorem kills_sleep (d : Nat) (w : World) : (Clocked.sleep d w : World).kills = w.kills := rfl

/-- A look at a child kills nobody. -/
theorem kills_check (i : Nat) (w : World) : (w.check i).2.kills = w.kills := by
  have ends := w.check_ends i
  generalize w.check i = r at ends ⊢
  cases ends with
  | known | refused | running => rfl
  | @exited c code r => exact (kills_happen _ (.record r)).trans (List.append_nil _)

/-- A look depends on the child and the clock. -/
theorem check_congr {w' : World} (child : w'.children[i]? = w.children[i]?) (now : w'.now = w.now) :
    (w'.check i).1 = (w.check i).1 := by
  cases hc : w.children[i]? with
  | none =>
    rw [hc] at child
    rw [check, check, hc, child]
  | some c =>
    rw [hc] at child
    rw [check_answer hc, check_answer child, now]

/-! ### One child -/

/-- Killing a child that is over changes nothing but what is seen of it. -/
theorem kill_of_seen (seen : (w.check i).1 = true) : w.kill i = (w.check i).2 := by
  rw [kill]
  split
  · next heq => rw [heq]
  · next heq =>
    rw [heq] at seen
    cases seen

/-- A child that runs is killed by the system, unless it refuses. -/
theorem kill_of_running (hc : w.children[i]? = some c) (running : (w.check i).1 = false) :
    (w.kill i).now = w.now + (if c.script.killFault = none ∧ c.script.stubborn then killGrace else 0) ∧
      (w.kill i).kills = w.kills ++ [(w.now, c.pid)] := by
  have look : w.check i = (false, w) := Prod.ext running (check_of_running running)
  rw [kill, look]
  dsimp only
  rw [hc]
  dsimp only
  cases fault : c.script.killFault with
  | some e =>
    refine ⟨?_, ?_⟩
    · exact now_record _ _ _ _ _
    · rw [kills_modifyChild, kills_record, kills_happen]
      rfl
  | none =>
    dsimp only
    split
    · next stubborn =>
      refine ⟨?_, ?_⟩
      · rw [now_record, if_pos ⟨rfl, stubborn⟩]
        exact congrArg (· + killGrace) (now_record _ _ _ _ _)
      · rw [kills_record, kills_sleep, kills_record, kills_modifyChild, kills_happen]
        rfl
    · next obedient =>
      refine ⟨?_, ?_⟩
      · rw [now_record, if_neg fun h => obedient h.2]
        rfl
      · rw [kills_record, kills_modifyChild, kills_happen]
        rfl

end World

namespace Child

variable {c : Child} {t : Nat}

/-- The state of a child that ran when it was killed. -/
def sentence (c : Child) : Status :=
  match c.script.killFault with
  | some e => .error (some e.message)
  | none => .killed

/-- The child was killed and does not go away at once. -/
def lingers (c : Child) : Bool := c.status = .killed && c.script.stubborn

theorem status_struck (running : c.status = .running) : c.struck.status = c.sentence := by
  have alive : ¬ c.status.isFinal = true := by
    rw [running]
    nofun
  rw [struck, sentence]
  cases c.script.killFault with
  | some e => exact congrArg status (World.settle_of_running alive _)
  | none => exact congrArg status (World.settle_of_running (c := { c with killed := true }) alive _)

theorem script_settle (c : Child) (s : Status) : (c.settle s).script = c.script :=
  (c.later_settle s).script

theorem script_struck (c : Child) : c.struck.script = c.script := by
  rw [struck]
  split
  · exact c.script_settle _
  · exact script_settle _ _

end Child

namespace World

variable {w w' : World} {i : Nat} {c : Child}

/-- The child was killed and does not go away at once. -/
def lingers (w : World) (i : Nat) : Bool := w.children[i]?.any Child.lingers

/-- The number of the process of a child. -/
def pidOf (w : World) (i : Nat) : Nat := (w.children[i]?.map Child.pid).getD 0

theorem script_felled (c : Child) (t : Nat) : (c.felled t).script = c.script := by
  rw [Child.felled]
  split
  · rw [Child.seen]
    split
    · exact c.script_settle _
    · rfl
    · exact c.script_settle _
  · exact c.script_struck

/-- **Killing a child that runs**: the kill is noted if the child is not seen to be over, and it takes time
only if the child lingers. -/
theorem kill_spec (hc : w.children[i]? = some c) (running : c.status = .running) :
    (w.kill i).now = w.now + (if (w.kill i).lingers i then killGrace else 0) ∧
      (w.kill i).kills = w.kills ++
        (if (c.seen w.now).status.isFinal then [] else [(w.now, c.pid)]) := by
  have after : (w.kill i).children[i]? = some (c.felled w.now) := by
    rw [getElem?_kill, if_pos rfl, hc, Option.map_some]
  have answer := check_answer hc
  rw [lingers, after, Option.any_some, Child.lingers, script_felled, ← answer]
  cases look : (w.check i).1 with
  | true =>
    have unkilled : (c.felled w.now).status ≠ .killed := by
      rw [Child.felled, if_pos (answer.symm.trans look)]
      exact Child.seen_ne_killed (fun killed => by cases running.symm.trans killed) _
    rw [kill_of_seen look, decide_eq_false unkilled]
    exact ⟨(w.quiet_check i).no_time, (kills_check i w).trans (List.append_nil _).symm⟩
  | false =>
    obtain ⟨now, kills⟩ := kill_of_running hc look
    refine ⟨?_, kills⟩
    have ended : (c.felled w.now).status = c.sentence := by
      rw [Child.felled, if_neg (by rw [← answer, look]; exact Bool.false_ne_true),
        Child.status_struck running]
    rw [now, ended, Child.sentence]
    cases c.script.killFault <;> simp

theorem map_pidOf_congr {struck : List (Nat × Nat)} {is : List Nat}
    (once : (struck.map Prod.snd).Sublist is) (same : ∀ i ∈ is, w'.children[i]? = w.children[i]?) :
    struck.map (fun k => (k.1, w'.pidOf k.2)) = struck.map fun k => (k.1, w.pidOf k.2) :=
  List.map_congr_left fun k hk => by
    rw [pidOf, pidOf, same _ (once.subset (List.mem_map_of_mem hk))]

/-! ### Several children -/

/-- When a child has its turn: after the time that the children before it were given to go away. -/
def turn (start : Nat) (is : List Nat) (w : World) (i : Nat) : Nat :=
  start + killGrace * (is.takeWhile (· ≠ i)).countP w.lingers

theorem turn_head (start : Nat) (i : Nat) (is : List Nat) (w : World) : turn start (i :: is) w i = start := by
  rw [turn, List.takeWhile_cons_of_neg (by simp)]
  rfl

/-- The others have their turns after the time that the first child is given. -/
theorem turn_tail {j : Nat} (other : i ≠ j) (start : Nat) (is : List Nat) (w : World) :
    turn start (i :: is) w j = turn (start + if w.lingers i then killGrace else 0) is w j := by
  rw [turn, turn, List.takeWhile_cons_of_pos (by simpa using other), List.countP_cons, Nat.mul_add]
  split <;> omega

/-- What comes of killing several children that run, one after the other.  Some of them are struck, each
at its turn; the others are seen to be over. -/
structure Felled (w : World) (is : List Nat) (struck : List (Nat × Nat)) (w' : World) : Prop where
  others : ∀ j, j ∉ is → w'.children[j]? = w.children[j]?
  now : w'.now = w.now + killGrace * is.countP w'.lingers
  kills : w'.kills = w.kills ++ struck.map fun k => (k.1, w.pidOf k.2)
  once : (struck.map Prod.snd).Sublist is
  child : ∀ i ∈ is, ∀ c, w.children[i]? = some c →
    w'.children[i]? = some (c.felled (turn w.now is w' i)) ∧
      if (c.seen (turn w.now is w' i)).status.isFinal then i ∉ struck.map Prod.snd
      else (turn w.now is w' i, i) ∈ struck

/-- Every child has its turn before the end. -/
theorem Felled.turn_le {is : List Nat} {struck : List (Nat × Nat)} (h : Felled w is struck w') (i : Nat) :
    turn w.now is w' i ≤ w'.now := by
  rw [h.now]
  exact Nat.add_le_add_left (Nat.mul_le_mul_left _ (List.takeWhile_sublist _).countP_le) _

theorem felled_nil (w : World) : Felled w [] [] w where
  others _ _ := rfl
  now := rfl
  kills := (List.append_nil _).symm
  once := .slnil
  child _ hi := nomatch hi

/-- The first child has its turn at once, and the others after it. -/
theorem felled_cons {is : List Nat} {struck : List (Nat × Nat)} (hc : w.children[i]? = some c)
    (running : c.status = .running) (fresh : i ∉ is) (rest : Felled (w.kill i) is struck w') :
    Felled w (i :: is) ((if (c.seen w.now).status.isFinal then [] else [(w.now, i)]) ++ struck) w' := by
  obtain ⟨now, kills⟩ := kill_spec hc running
  have after : w'.children[i]? = (w.kill i).children[i]? := rest.others i fresh
  have lingers : w'.lingers i = (w.kill i).lingers i := by rw [World.lingers, World.lingers, after]
  have others (j : Nat) (hj : i ≠ j) : (w.kill i).children[j]? = w.children[j]? :=
    (w.getElem?_kill i j).trans (if_neg hj)
  have different {j : Nat} (hj : j ∈ is) : i ≠ j := fun same => fresh (same ▸ hj)
  have next {j : Nat} (hj : j ∈ is) : turn w.now (i :: is) w' j = turn (w.kill i).now is w' j := by
    rw [turn_tail (different hj), now, lingers]
  refine ⟨fun j hj => ?_, ?_, ?_, ?_, fun j hj d hd => ?_⟩
  · rw [List.mem_cons, not_or] at hj
    rw [rest.others j hj.2, others j (Ne.symm hj.1)]
  · rw [rest.now, now, List.countP_cons, lingers, Nat.mul_add]
    split <;> omega
  · have pids := map_pidOf_congr rest.once fun j hj => others j (different hj)
    have pid : w.pidOf i = c.pid := by rw [pidOf, hc]; rfl
    rw [rest.kills, kills, pids, List.map_append, List.append_assoc]
    split
    · rfl
    · rw [List.map_singleton, pid]
  · rw [List.map_append]
    split
    · exact rest.once.cons i
    · exact rest.once.cons_cons i
  · rcases List.mem_cons.1 hj with rfl | hj
    · obtain rfl : d = c := Option.some.inj (hd.symm.trans hc)
      have gone : j ∉ struck.map Prod.snd := fun h => fresh (rest.once.subset h)
      rw [turn_head, after, getElem?_kill, if_pos rfl, hc]
      refine ⟨rfl, ?_⟩
      split
      · exact gone
      · exact List.mem_cons_self
    · rw [← others j (different hj)] at hd
      obtain ⟨child, fate⟩ := rest.child j hj d hd
      rw [next hj]
      refine ⟨child, ?_⟩
      split at fate
      · next ended =>
        rw [if_pos ended, List.map_append, List.mem_append, not_or]
        refine ⟨?_, fate⟩
        split
        · exact List.not_mem_nil
        · exact fun h => different hj (List.mem_singleton.1 h).symm
      · next alive =>
        rw [if_neg alive]
        exact List.mem_append_right _ fate

/-- **Children are killed one after the other, each at its turn.** -/
theorem felled_killAll {is : List Nat} (distinct : is.Nodup) (w : World)
    (running : ∀ i ∈ is, ∃ c, w.children[i]? = some c ∧ c.status = .running) :
    ∃ struck, Felled w is struck (is.foldl (fun w i => w.kill i) w) := by
  induction is generalizing w with
  | nil => exact ⟨[], felled_nil w⟩
  | cons i is ih =>
    obtain ⟨fresh, distinct⟩ := List.nodup_cons.1 distinct
    obtain ⟨c, hc, status⟩ := running i List.mem_cons_self
    have still (j : Nat) (hj : j ∈ is) : ∃ d, (w.kill i).children[j]? = some d ∧ d.status = .running := by
      rw [getElem?_kill, if_neg fun same : i = j => fresh (same ▸ hj)]
      exact running j (List.mem_cons_of_mem i hj)
    obtain ⟨struck, rest⟩ := ih distinct (w.kill i) still
    exact ⟨_, felled_cons hc status fresh rest⟩

end World

end Sweep
