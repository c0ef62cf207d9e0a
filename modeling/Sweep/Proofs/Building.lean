import Sweep.Proofs.Answering
import Sweep.Proofs.Children
import Sweep.Render.Rendering

/-!
# Rendering leaves children alone

A template program reads and writes files, and makes records.  It starts no child, takes no time, and
crashes only for a file with a NUL in its name, for a failure of the template engine that is none of a
template, or for a number that is to be shown and has too many digits.

* `BuildCrash` — the crashes of a template program;
* `Ensures` — what building leaves, whether or not it stops, and what stops it, with one lemma for each way
  to put building together;
* `ensures_save`, `ensures_build` — a file that is rendered, for whatever is upheld on the way;
* `Gentle` — building that leaves children and clock alone and crashes in these ways only;
* `gentle_build`, `gentle_valueOf` — all building of a template program is gentle;
* `leads_executor`, `crashesOnly_executor`, `run_spec` — the same for the executor of template programs
  and for their runs.
-/

namespace Sweep.Rendering

/-- The crashes of a template program. -/
inductive BuildCrash : Crash → Prop where
  | nulInName : BuildCrash .nulInName
  | foreign (e : Foreign) : BuildCrash (.foreign e)
  | unwritable : BuildCrash (.number .unwritable)

variable {α β : Type} {m : Building α} {f : α → Building β} {w : World} {u v : Rendering}
  {stop : BuildStop}

theorem run_bind (m : Building α) (f : α → Building β) (v : Rendering) :
    (m >>= f).run v = match m.run v with
      | (.ok a, u) => (f a).run u
      | (.error e, u) => (.error e, u) := by
  show (match m.run v with | (a, u) => ExceptT.bindCont f a u) = _
  rcases m.run v with ⟨e | a, u⟩ <;> rfl

/-! ### Building step by step -/

/-- Whether or not building stops, the state that it leaves has a property, and what stops it has one. -/
structure Ensures (R : Rendering → Prop) (C : BuildStop → Prop) (m : Building α) (v : Rendering) : Prop where
  state : R (m.run v).2
  stop : ∀ stop, (m.run v).1 = .error stop → C stop

section Ensures

variable {R : Rendering → Prop} {C : BuildStop → Prop}

theorem ensures_of_run {a : α} (ran : m.run v = (.ok a, u)) (h : R u) : Ensures R C m v where
  state := by rwa [ran]
  stop stop failed := by
    rw [ran] at failed
    cases failed

theorem ensures_pure (a : α) (h : R v) : Ensures R C (pure a) v := ensures_of_run rfl h

theorem ensures_throw (h : R v) (told : C stop) : Ensures R C (throw stop : Building α) v :=
  ⟨h, fun _ failed => Except.error.inj failed ▸ told⟩

/-- Stopping ends what is built. -/
theorem ensures_throw_bind (h : R v) (told : C stop) (rest : α → Building β) :
    Ensures R C (throw stop >>= rest) v :=
  ⟨h, fun _ failed => Except.error.inj failed ▸ told⟩

theorem ensures_get {f : Rendering → Building α} (h : Ensures R C (f v) v) : Ensures R C (get >>= f) v :=
  ⟨h.state, h.stop⟩

theorem ensures_set {f : PUnit → Building α} (h : Ensures R C (f ()) u) : Ensures R C (set u >>= f) v :=
  ⟨h.state, h.stop⟩

theorem Ensures.bind (first : Ensures R C m v) (rest : ∀ a u, R u → Ensures R C (f a) u) :
    Ensures R C (m >>= f) v := by
  obtain ⟨state, told⟩ := first
  rcases hm : m.run v with ⟨e | a, u⟩
  · rw [hm] at state told
    have stopped : (m >>= f).run v = (.error e, u) := by rw [run_bind, hm]
    refine ⟨by rwa [stopped], fun stop failed => ?_⟩
    rw [stopped] at failed
    exact told stop (congrArg Except.error (Except.error.inj failed))
  · rw [hm] at state
    have later : (m >>= f).run v = (f a).run u := by rw [run_bind, hm]
    obtain ⟨state, told⟩ := rest a u state
    rw [← later] at state told
    exact ⟨state, told⟩

theorem ensures_resolving_bind {r : Except ReadError α} (h : R v) (access : ∀ e, C (.access e))
    (long : C (.crash (.number .unwritable))) (rest : ∀ a, r = .ok a → Ensures R C (f a) v) :
    Ensures R C (resolving r >>= f) v := by
  cases r with
  | ok a => exact rest a rfl
  | error e =>
    cases e with
    | access e => exact ensures_throw_bind h (access e) f
    | unwritable => exact ensures_throw_bind h long f

/-- What files do to the renderer and its world keeps a property of both. -/
structure Upheld (R : Rendering → Prop) : Prop where
  disk : ∀ {u} d, R u → R { u with world := { u.world with disk := d } }
  ask : ∀ {u} calls, R u → R { u with renderer := { u.renderer with calls } }
  render : ∀ {u} path message labels, R u →
    R { renderer := { u.renderer with rendered := u.renderer.rendered ++ [path] }
        world := u.world.record .debug Source.rendering message labels }

/-- **Saving a text** changes the disk and stops for a NUL or for what the system refuses. -/
theorem ensures_save {fault : SystemError → BuildStop} (upheld : Upheld R) (crash : C (.crash .nulInName))
    (refused : ∀ e, C (fault e)) (target : Pathname) (text : String) (h : R v) :
    Ensures R C (save target text fault) v := by
  rw [save]
  split
  · exact ensures_throw_bind h crash _
  · refine ensures_get ?_
    split
    refine ensures_set ?_
    dsimp only
    split
    · exact ensures_throw_bind (upheld.disk _ h) (refused _) _
    · split
      · exact ensures_throw_bind (upheld.disk _ h) crash _
      · split
        · exact ensures_throw (upheld.disk _ h) (refused _)
        · split
          · exact ensures_throw (upheld.disk _ h) (refused _)
          · exact ensures_of_run rfl (upheld.disk _ (upheld.disk _ h))

/-- **Asking the engine** stops for what it answers, whatever it is asked. -/
theorem ensures_ask {call : EngineCall} {answer : Except EngineError α} {tell : EngineError → BuildStop}
    (upheld : Upheld R) (told : ∀ e, C (tell e)) (h : R v) : Ensures R C (ask call answer tell) v := by
  cases answer with
  | ok a => exact ensures_of_run rfl (upheld.ask _ h)
  | error e => exact ⟨upheld.ask _ h, fun _ failed => Except.error.inj failed ▸ told e⟩

/-- **Rendering a file** stops for a variable or a number, for what the engine says or the system refuses, or
for a NUL in a name; in the second of these ways unless the engine fails of itself, this file is not
rendered. -/
theorem ensures_build (upheld : Upheld R) (access : ∀ e, C (.access e))
    (crash : ∀ c, BuildCrash c → C (.crash c)) (names : NameTable) (s : Scopes) (template output : String)
    (told : ∀ stage cause, C (.fault
      ⟨template, (v.renderer.output.join (.ofString output)).text, stage, cause⟩)) (h : R v) :
    Ensures R C (build names s template output) v := by
  have not_found (e : EngineError) : C (notFound (fun stage cause => .fault
      ⟨template, (v.renderer.output.join (.ofString output)).text, stage, cause⟩) e) := by
    cases e with
    | missing | faulty => exact told _ _
    | foreign e => exact crash _ (.foreign e)
  have not_rendered (e : EngineError) : C (notRendered (fun stage cause => .fault
      ⟨template, (v.renderer.output.join (.ofString output)).text, stage, cause⟩) e) := by
    cases e with
    | missing | faulty => exact told _ _
    | foreign e => exact crash _ (.foreign e)
  rw [build]
  refine ensures_get (Ensures.bind (ensures_get (ensures_ask upheld not_found h)) fun _ u h => ?_)
  refine ensures_resolving_bind h access (crash _ .unwritable) fun visible _ => ?_
  refine Ensures.bind (ensures_get (ensures_ask upheld not_rendered h)) fun text u h => ?_
  refine (ensures_save upheld (crash _ .nulInName) (fun _ => told _ _) _ _ h).bind fun _ u h => ?_
  exact ensures_of_run rfl (upheld.render _ _ _ h)

end Ensures

/-! ### Children and clock -/

/-- What building from a state on may do: whether or not it stops, the world is a quiet successor of
another one, and it crashes in one of these ways only. -/
def GentleFrom {α : Type} (w : World) (m : Building α) (v : Rendering) : Prop :=
  w.Quiet (m.run v).2.world ∧ ∀ c, (m.run v).1 = .error (.crash c) → BuildCrash c

/-- Building that leaves children and clock alone. -/
def Gentle {α : Type} (m : Building α) : Prop := ∀ w v, w.Quiet v.world → GentleFrom w m v

variable {α β : Type} {w : World} {v : Rendering}

theorem gentle_pure (a : α) : Gentle (pure a : Building α) := fun _ _ quiet => ⟨quiet, nofun⟩

theorem Gentle.bind (first : Gentle m) (rest : ∀ a, Gentle (f a)) : Gentle (m >>= f) := by
  intro w v quiet
  obtain ⟨quiet, crashes⟩ := first w v quiet
  rw [GentleFrom, run_bind]
  rcases hm : m.run v with ⟨e | a, u⟩
  · rw [hm] at quiet crashes
    exact ⟨quiet, fun c hc => crashes c (congrArg Except.error (Except.error.inj hc))⟩
  · rw [hm] at quiet
    exact rest a w u quiet

theorem gentle_resolving (r : Except ReadError α) : Gentle (resolving r) := by
  cases r with
  | ok a => exact gentle_pure a
  | error e =>
    cases e with
    | access e => exact fun _ _ quiet => ⟨quiet, nofun⟩
    | unwritable => exact fun _ _ quiet => ⟨quiet, fun c same => by
      cases same
      exact .unwritable⟩

theorem upheld_quiet (w : World) : Upheld fun v => w.Quiet v.world where
  disk d quiet := quiet.trans (World.quiet_disk _ d)
  ask _ quiet := quiet
  render _ _ _ quiet := quiet.trans (World.quiet_record _ _ _ _ _)

/-- Rendering a file is gentle. -/
theorem gentle_build (names : NameTable) (s : Scopes) (template output : String) :
    Gentle (build names s template output) := by
  intro w v quiet
  have ensures : Ensures (fun v => w.Quiet v.world) (fun stop => ∀ c, stop = .crash c → BuildCrash c)
      (build names s template output) v :=
    ensures_build (upheld_quiet w) (fun _ _ => nofun) (fun c file c' same => BuildStop.crash.inj same ▸ file)
      names s template output (fun _ _ _ => nofun) quiet
  exact ⟨ensures.state, fun c failed => ensures.stop _ failed c rfl⟩

/-! ### Commands -/

theorem gentle_buildFile (names : NameTable) (s : Scopes) (b : Build) :
    Gentle (buildFile names s b) :=
  (gentle_resolving _).bind fun _ => (gentle_resolving _).bind fun _ => gentle_build _ _ _ _

theorem gentle_buildField (names : NameTable) (s : Scopes) (f : BuiltField) :
    Gentle (buildField names s f) := by
  cases f with
  | value e => exact gentle_resolving _
  | file b => exact (gentle_buildFile names s b).bind fun _ => gentle_pure _

theorem gentle_buildFields (names : NameTable) (s : Scopes) (fields : List (NameId × BuiltField)) :
    Gentle (buildFields names s fields) := by
  induction fields with
  | nil => exact gentle_pure []
  | cons field rest ih =>
    exact (gentle_buildField names s field.2).bind fun _ => ih.bind fun _ => gentle_pure _

theorem gentle_buildObject (names : NameTable) (s : Scopes) (b : BuiltExpr) :
    Gentle (buildObject names s b) := by
  have fields (base : String) : Gentle (do
      return Value.struct base (Assoc.ofList (← buildFields names s b.fields))) :=
    (gentle_buildFields names s b.fields).bind fun _ => gentle_pure _
  rw [buildObject]
  dsimp only
  split
  · exact (gentle_resolving _).bind fields
  · exact (gentle_buildFile names s _).bind fields

/-- **All building of a template program is gentle.** -/
theorem gentle_valueOf (names : NameTable) (s : Scopes) (c : RenderCommand) :
    Gentle (valueOf names s c) := by
  cases c with
  | bind x b => exact gentle_buildObject names s b
  | yield x product =>
    cases product with
    | built b => exact gentle_buildObject names s b
    | plain e => exact gentle_resolving _

theorem execute_spec (names : NameTable) (c : RenderCommand) (s : Scopes) (v : Rendering) :
    v.world.Quiet (execute names c s v).2.2.world ∧
      ∀ crash, (execute names c s v).1 = .error (.crash crash) → BuildCrash crash := by
  obtain ⟨quiet, crashes⟩ := gentle_valueOf names s c v.world v (.refl _)
  rw [execute]
  split
  · next heq =>
    rw [heq] at quiet
    exact ⟨quiet, nofun⟩
  · next heq =>
    rw [heq] at quiet
    refine ⟨quiet.trans ?_, nofun⟩
    exact (World.quiet_record _ _ _ _ _).trans (World.quiet_happen _ _)
  · next heq =>
    rw [heq] at quiet
    exact ⟨quiet, nofun⟩
  · next heq =>
    rw [heq] at quiet crashes
    exact ⟨quiet, fun c h => crashes c (by rw [Failure.crash.inj (Except.error.inj h)])⟩

/-- **What runs template programs leaves children and clock alone.** -/
theorem leads_executor (names : NameTable) :
    (executor names).Leads fun v v' => v.world.Quiet v'.world where
  refl v := .refl v.world
  trans := .trans
  execute c s v := (execute_spec names c s v).1
  visit _ _ _ _ v := .refl v.world
  finish _ v := v.world.quiet_record _ _ _ _
  stop _ v := v.world.quiet_record _ _ _ _

theorem crashesOnly_executor (names : NameTable) (p : Program RenderCommand) :
    (executor names).CrashesOnly p (fun _ => True) BuildCrash where
  unwritable := .unwritable
  execute _ _ c _ s v _ := (execute_spec names c s v).2
  visit _ _ _ _ _ _ := nofun
  finish _ _ _ := nofun

/-- **A template program leaves children and clock alone, and crashes in one of these ways only.** -/
theorem run_spec {ts : List (Statement RenderCommand)} (proper : Statement.ProperIn ts)
    (names : NameTable) (flag : Nat → Rendering → Bool) (budget : Nat) (keep : Bool) (s : Scopes)
    (v : Rendering) :
    v.world.Quiet (Machine.run (executor names) flag budget (compile ts) keep s v).2.2.world ∧
      ∀ c, (Machine.run (executor names) flag budget (compile ts) keep s v).1 = .crashed c →
        BuildCrash c := by
  have leads := leads_executor names
  refine ⟨Machine.leads_of_run leads flag budget (compile ts) keep s v, fun c => ?_⟩
  exact Machine.crash_of_run (Machine.guided_of_proper proper) (crashesOnly_executor names _)
    (leads.keeps fun _ => id) trivial

end Sweep.Rendering
