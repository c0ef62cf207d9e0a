import Sweep.Proofs.Children

/-!
# Attempts to start a child

Every attempt is counted, takes no time, and leaves the children that are there alone.  It ends in one
of three ways (`StartEnded`), which differ in whether there is a child afterwards:

* the attempt is refused, for a reason that is known before anything is started, and there is no new
  child (`World.Refused`);
* a child is started and its streams go somewhere (`World.Started`);
* a child is started and one of its streams has nowhere to go, because a NUL stands in the name of
  an output file (`Order.isUnroutable`).

The main statement is `start_ended`.
-/

namespace Sweep

/-- A NUL stands in the name of the file. -/
def Routing.hasNul : Routing Pathname → Bool
  | print => false
  | create path | append path => path.hasNul

/-- A NUL stands in the name of an output file. -/
def Order.isUnroutable (o : Order) : Bool := o.stdout.hasNul || o.stderr.hasNul

theorem Pathname.hasNul_of_parent {p : Pathname} (h : p.parent.hasNul = true) : p.hasNul = true := by
  rw [hasNul, List.any_eq_true] at h ⊢
  obtain ⟨part, hmem, hpart⟩ := h
  exact ⟨part, List.dropLast_subset _ hmem, hpart⟩

namespace World

variable {w w' w'' : World} {o : Order} {i : Nat}

/-! ### Routing -/

theorem quiet_showStream (i : Nat) (tracker : Text.LineTracker) (stream : List Chunk) (w : World) :
    w.Quiet (showStream i tracker stream w) := by
  induction stream generalizing tracker w with
  | nil =>
    rw [showStream]
    split
    · exact .refl w
    · exact w.quiet_modifyLine i _
  | cons chunk rest ih =>
    cases chunk with
    | data bytes => exact (w.quiet_modifyLine i _).trans (ih _ _)
    | fault e => exact w.quiet_modifyLine i _

theorem quiet_saveStream (i : Nat) (channel : Channel) (path : Pathname) (h : Disk.Handle)
    (stream : List Chunk) (w : World) : w.Quiet (saveStream i channel path h stream w) := by
  induction stream generalizing w with
  | nil => exact .refl w
  | cons chunk rest ih =>
    cases chunk with
    | fault e => exact .refl w
    | data bytes =>
      rw [saveStream]
      split
      · exact (w.quiet_disk _).trans (ih _)
      · refine .trans ?_ (quiet_showStream _ _ _ _)
        refine .trans ?_ (quiet_modifyLine _ _ _)
        exact quiet_record _ _ _ _ _

theorem quiet_routeToFile (i : Nat) (channel : Channel) (path : Pathname) (emptied : Bool)
    (stream : List Chunk) (w : World) : w.Quiet (w.routeToFile i channel path emptied stream).2 := by
  rw [routeToFile]
  split
  · exact .refl w
  · have made := w.quiet_disk (w.disk.makeDirectories path.parent).2
    dsimp only
    split
    · exact made
    · split
      · refine .trans ?_ (quiet_saveStream _ _ _ _ _ _)
        exact made.trans (quiet_disk _ _)
      · refine .trans ?_ (quiet_showStream _ _ _ _)
        refine .trans ?_ (quiet_modifyLine _ _ _)
        exact made.trans (quiet_record _ _ _ _ _)

theorem quiet_route (i : Nat) (channel : Channel) (stream : List Chunk) (w : World)
    (r : Routing Pathname) : w.Quiet (w.route i channel stream r).2 := by
  cases r with
  | print => exact quiet_showStream _ _ _ _
  | create path => exact quiet_routeToFile _ _ _ _ _ _
  | append path => exact quiet_routeToFile _ _ _ _ _ _

theorem hasNul_of_routeToFile {channel : Channel} {path : Pathname} {emptied : Bool}
    {stream : List Chunk} (h : (w.routeToFile i channel path emptied stream).1 = false) :
    path.hasNul = true := by
  rw [routeToFile] at h
  split at h
  · next hp => exact Pathname.hasNul_of_parent hp
  · dsimp only at h
    split at h
    · next hp => exact (Bool.and_eq_true_iff.1 hp).2
    · split at h <;> cases h

/-- A stream has nowhere to go only if a NUL stands in the name of its file. -/
theorem hasNul_of_route {channel : Channel} {stream : List Chunk} {r : Routing Pathname}
    (h : (w.route i channel stream r).1 = false) : r.hasNul = true := by
  cases r with
  | print => cases h
  | create path => exact hasNul_of_routeToFile h
  | append path => exact hasNul_of_routeToFile h

/-! ### Attempts -/

/-- Somebody tried to start a child, and there is no new one. -/
structure Refused (w w' : World) : Prop extends Later w w' where
  one_attempt : w'.attempts = w.attempts + 1
  no_child : w'.children.size = w.children.size
  no_time : w'.now = w.now

/-- Somebody tried to start a child by an order, and there is one more child, with a number. -/
structure Started (w w' : World) (o : Order) (i : Nat) : Prop extends Later w w' where
  one_attempt : w'.attempts = w.attempts + 1
  one_child : w'.children.size = w.children.size + 1
  no_time : w'.now = w.now
  number : i = w.children.size
  ordered : ∃ c, w'.children[i]? = some c ∧ c.order = o

theorem Refused.quiet (h : w.Refused w') (h' : w'.Quiet w'') : w.Refused w'' where
  toLater := h.toLater.trans h'.toLater
  one_attempt := h'.no_attempt.trans h.one_attempt
  no_child := h'.no_child.trans h.no_child
  no_time := h'.no_time.trans h.no_time

theorem Started.quiet (h : w.Started w' o i) (h' : w'.Quiet w'') : w.Started w'' o i where
  toLater := h.toLater.trans h'.toLater
  one_attempt := h'.no_attempt.trans h.one_attempt
  one_child := h'.no_child.trans h.one_child
  no_time := h'.no_time.trans h.no_time
  number := h.number
  ordered := by
    obtain ⟨c, hc, order⟩ := h.ordered
    obtain ⟨d, hd, later⟩ := h'.child i c hc
    exact ⟨d, hd, later.order.trans order⟩

theorem Started.route (h : w.Started w' o i) {j : Nat} {channel : Channel} {stream : List Chunk}
    {r : Routing Pathname} {somewhere : Bool}
    (routed : w'.route j channel stream r = (somewhere, w'')) : w.Started w'' o i := by
  have quiet := quiet_route j channel stream w' r
  rw [routed] at quiet
  exact h.quiet quiet

theorem Started.lt_size (h : w.Started w' o i) : i < w'.children.size := by
  have number := h.number
  have one_child := h.one_child
  omega

/-- Of the children that are there after a start, all but the new one were there before. -/
theorem Started.lt_or_eq (h : w.Started w' o i) {j : Nat} (hj : j < w'.children.size) :
    j < w.children.size ∨ j = i := by
  have number := h.number
  have one_child := h.one_child
  omega

/-- An attempt is noted and counted. -/
theorem refused_attempt (w : World) (e : Event) :
    w.Refused { w.happen e with attempts := w.attempts + 1 } where
  now := Nat.le_refl _
  attempts := Nat.le_succ _
  raised := rfl
  cancelAt := rfl
  cancelAtAttempt := rfl
  child _ c h := ⟨c, h, .refl c⟩
  one_attempt := rfl
  no_child := rfl
  no_time := rfl

/-- A counted attempt becomes a start when a child is added. -/
theorem Refused.push (h : w.Refused w') (c : Child) :
    w.Started { w' with children := w'.children.push c } c.order w.children.size where
  now := h.now
  attempts := h.attempts
  raised := h.raised
  cancelAt := h.cancelAt
  cancelAtAttempt := h.cancelAtAttempt
  child j d hd := by
    obtain ⟨e, he, later⟩ := h.child j d hd
    have hj := (Array.getElem?_eq_some_iff.1 he).1
    refine ⟨e, ?_, later⟩
    rw [Array.getElem?_push, if_neg (Nat.ne_of_lt hj), he]
  one_attempt := h.one_attempt
  one_child := by
    rw [Array.size_push, h.no_child]
  no_time := h.no_time
  number := rfl
  ordered := ⟨c, by rw [← h.no_child, Array.getElem?_push_size], rfl⟩

/-- How an attempt ends, and in which world. -/
inductive StartEnded (w : World) (o : Order) : StartResult × World → Prop where
  | refused {reason : String} {w' : World}
      (cause : startFault? o ((w.scripts[w.attempts]?).getD {}) = some reason)
      (after : w.Refused w') : StartEnded w o (.refused reason, w')
  | started {i : Nat} {w' : World} (after : w.Started w' o i) : StartEnded w o (.started i, w')
  | unrouted {i : Nat} {reason : String} {w' : World} (cause : o.isUnroutable = true)
      (after : w.Started w' o i) : StartEnded w o (.unrouted i reason, w')

/-- **Every attempt starts one child or none**, and a child whose streams have nowhere to go only if
a NUL stands in the name of an output file. -/
theorem start_ended (o : Order) (shown : Option Int) (w : World) :
    StartEnded w o (w.start o shown) := by
  have attempt := w.refused_attempt (.spawn o)
  have unrouted {i : Nat} {u : World} (cause : o.isUnroutable = true) (after : w.Started u o i) :
      StartEnded w o (u.leaveUnrouted i) :=
    .unrouted cause (after.quiet (u.quiet_modifyChild i fun _ => ⟨rfl, rfl, rfl, id, fun _ => rfl⟩))
  rw [start]
  dsimp only
  split
  · next reason cause => exact .refused cause attempt
  · -- the child is there before its streams are routed
    have pushed := attempt.push {
      order := o, pid := pidBase + (w.attempts + 1), script := (w.scripts[w.attempts]?).getD {}
      started := w.now, line := { label := o.label shown } }
    split
    · next u out =>
      have cause : o.stdout.hasNul = true := hasNul_of_route (congrArg Prod.fst out)
      exact unrouted (by rw [Order.isUnroutable, cause, Bool.true_or]) (pushed.route out)
    · next u out =>
      split
      · next v err =>
        have cause : o.stderr.hasNul = true := hasNul_of_route (congrArg Prod.fst err)
        exact unrouted (by rw [Order.isUnroutable, cause, Bool.or_true])
          ((pushed.route out).route err)
      · next v err =>
        exact .started (((pushed.route out).route err).quiet (quiet_record _ _ _ _ _))

end World

end Sweep
