import Sweep.Proofs.Endings
import Sweep.Proofs.Timing

/-!
# The chronicle of a session

A session that ends with a report has gone through its programs one after the other.

* `Job` — a program to be run: the globals, a template program, or a command program;
* `Attempt` — a job with the session in which it started: how it ended (`outcome`), what it left
  (`left`), and what is reported of it (`completed`, `failure?`);
* `Chronicle` — the order of a session: the jobs are taken from the front until none is left, the flag is
  up, or a program failed and the session stops at the first failure;
* `closed_of_close` — what the session notes of one attempt;
* `Chronicle.complete`, `Chronicle.finished`, `Chronicle.failures`, `Chronicle.decided` — which attempts
  there are, and what is reported of them;
* `Chronicle.scopes`, `Chronicle.crews` — on how many scopes and with which crew every attempt starts;
* `chronicle_of_runAll` — a session keeps to the order.

The main statement is `run_conducted`.
-/

namespace Sweep

/-- A run is stopped only by the flag, and the flag is still up when the executor has stopped. -/
theorem Machine.up_of_stopped {κ ω : Type} {ex : Executor κ ω} {up : ω → Bool} {p : Program κ}
    {budget : Nat} {s : Scopes} {w : ω} (keeps : ex.Leads fun w w' => up w = true → up w' = true)
    (keep : Bool) (stopped : (run ex (fun _ w => up w) budget p keep s w).1 = .stopped) :
    up (run ex (fun _ w => up w) budget p keep s w).2.2 = true := by
  change (runFrom ex (fun _ w => up w) p budget 0 0 s.push w).1 = .stopped at stopped
  show up (runFrom ex (fun _ w => up w) p budget 0 0 s.push w).2.2 = true
  obtain ⟨cs, d, -, ended⟩ := exists_trail_of_runFrom ex (fun _ w => up w) p budget 0 ⟨0, s.push, w⟩
  generalize runFrom ex (fun _ w => up w) p budget 0 0 s.push w = r at *
  cases ended with
  | stopped raised =>
    obtain ⟨-, raised⟩ := raised
    exact keeps.stop _ _ raised
  | @failed line f => cases f <;> cases stopped
  | finished | unfinished | astray | exhausted => cases stopped

/-! ### Jobs -/

/-- A program that is to be run in a session. -/
inductive Job where
  /-- A program that renders files; its scope may be kept. -/
  | rendering (name : String) (p : Program RenderCommand) (keep : Bool)
  /-- A program that starts children. -/
  | commanding (name : String) (p : Program Command)

namespace Job

/-- The name under which the program is reported. -/
def name : Job → String
  | rendering name _ _ => name
  | commanding name _ => name

def isCommanding : Job → Bool
  | rendering .. => false
  | commanding .. => true

/-- The globals of a bed. -/
def globals (bed : Bed) : Job := rendering "globals" (compile bed.globals) true

def ofTemplate : String × Program RenderCommand → Job
  | (name, p) => rendering name p false

def ofCommand : String × Program Command → Job
  | (name, p) => commanding name p

/-- What is to be run after the globals: the template programs that are wanted, in the order of the bed,
then the command programs that are wanted, in the order of the bed. -/
def planned (bed : Bed) (wanted : Option (List String)) : List Job :=
  ((Session.templatesOf bed).filter fun p => Session.isWanted wanted p.1).map ofTemplate ++
    ((Session.commandsOf bed).filter fun p => Session.isWanted wanted p.1).map ofCommand

/-- Make ready for a program; `first` says that no command program was run before. -/
def prepare (setup : Setup) (first : Bool) (t : Session) : Job → Except Crash Unit × Session
  | rendering .. => (.ok (), t)
  | commanding .. => t.prepare setup first

/-- Run the program: how it ends, and what it leaves. -/
def execute (names : NameTable) (setup : Setup) (t : Session) : Job → Outcome × Session
  | rendering name p keep =>
    let t := t.announce name
    let (outcome, scopes, v) := Machine.run (Rendering.executor names)
      (fun _ v => v.world.isCancelled) setup.budget p keep t.scopes ⟨t.renderer, t.world⟩
    (outcome, { t with scopes, renderer := v.renderer, world := v.world })
  | commanding name p =>
    let t := t.announce name
    let (outcome, scopes, v) := Machine.run (Supervision.executor names setup.patience)
      (fun _ v => v.world.isCancelled) setup.budget p false t.scopes ⟨t.crew, t.world⟩
    let v := Session.stopAfter outcome v
    (outcome, { t with scopes, crew := v.crew, world := v.world })

end Job

/-! ### Attempts -/

/-- A program that was run. -/
structure Attempt where
  job : Job
  /-- The session in which it started. -/
  start : Session

namespace Attempt

variable (names : NameTable) (setup : Setup) (a : Attempt)

def outcome : Outcome := (a.job.execute names setup a.start).1

/-- The session that the program leaves. -/
def left : Session := (a.job.execute names setup a.start).2

/-- The program came to its end before the flag was up. -/
def completed : Bool := a.outcome names setup = .finished && !(a.left names setup).world.isCancelled

/-- What is reported of a program that failed. -/
def failure? : Option ProgramFailure :=
  match a.outcome names setup with
  | .failed position e origin =>
    some ⟨a.job.name, failureMessage position origin (e.message names), origin⟩
  | _ => none

/-- Take note of how the program ended. -/
def close : Except Crash Bool × Session :=
  Session.conclude names a.job.name (a.outcome names setup) (a.left names setup)

theorem close_rendering (t : Session) (name : String) (p : Program RenderCommand) (keep : Bool) :
    close names setup ⟨.rendering name p keep, t⟩ = t.runRendering names setup name p keep := rfl

theorem close_commanding (t : Session) (name : String) (p : Program Command) :
    close names setup ⟨.commanding name p, t⟩ = t.runCommanding names setup name p := rfl

/-- The program was run in a session with the flag down, as soon as the session was ready for it;
afterwards the session knows whether it did not fail. -/
structure Made (first : Bool) (t : Session) (good : Bool) (u : Session) : Prop where
  down : t.world.isCancelled = false
  ready : a.job.prepare setup first t = (.ok (), a.start)
  closed : a.close names setup = (.ok good, u)

end Attempt

/-- **The order of a session.**  `Chronicle names setup first t jobs as u`: from the session `t` on the
jobs are taken from the front, the attempts `as` are made, and the session comes to `u`; `first` says that
no command program was run before `t`.  No attempt is made once the flag is up, nor after a program that
failed when the session stops at the first failure. -/
inductive Chronicle (names : NameTable) (setup : Setup) :
    Bool → Session → List Job → List Attempt → Session → Prop where
  | idle {first : Bool} {t : Session} : Chronicle names setup first t [] [] t
  | cancelled {first : Bool} {t : Session} {jobs : List Job} (up : t.world.isCancelled = true) :
      Chronicle names setup first t jobs [] t
  | halted {first : Bool} {t u : Session} {a : Attempt} {jobs : List Job}
      (made : a.Made names setup first t false u) (fast : setup.failFast = true) :
      Chronicle names setup first t (a.job :: jobs) [a] u
  | next {first good : Bool} {t u v : Session} {a : Attempt} {jobs : List Job} {as : List Attempt}
      (made : a.Made names setup first t good u) (goes : good = false → setup.failFast = false)
      (rest : Chronicle names setup (first && !a.job.isCommanding) u jobs as v) :
      Chronicle names setup first t (a.job :: jobs) (a :: as) v

variable {names : NameTable} {setup : Setup} {first good : Bool} {t u v : Session} {a : Attempt}
  {jobs : List Job} {as : List Attempt}

/-! ### One job -/

namespace Job

/-- A session is made ready at once, unless a command program was run before: then the children that are
left are waited for, and there is a new crew. -/
theorem prepare_cases {j : Job} (h : j.prepare setup first t = (.ok (), u)) :
    (u = t ∧ (j.isCommanding = true → first = true)) ∨
    (first = false ∧ ∃ v : Supervision,
      Supervision.reset setup.patience ⟨t.crew, t.world⟩ = (.ok (), v) ∧
      u = { t with crew := v.crew, world := v.world }) := by
  cases j with
  | rendering name p keep => exact .inl ⟨(Prod.mk.inj h).2.symm, nofun⟩
  | commanding name p =>
    change Session.prepare setup first t = (.ok (), u) at h
    rw [Session.prepare] at h
    split at h
    · next already => exact .inl ⟨(Prod.mk.inj h).2.symm, fun _ => already⟩
    · next later =>
      obtain ⟨done, rfl⟩ := Prod.mk.inj h
      exact .inr ⟨Bool.eq_false_iff.2 later, _, Prod.ext done rfl, rfl⟩

variable (names setup t) (j : Job)

/-- A program leaves alone what the session has to report. -/
theorem finished_execute : (j.execute names setup t).2.finished = t.finished := by
  cases j <;> rfl

theorem failures_execute : (j.execute names setup t).2.failures = t.failures := by
  cases j <;> rfl

theorem crew_execute (rendering : j.isCommanding = false) :
    (j.execute names setup t).2.crew = t.crew := by
  cases j with
  | rendering => rfl
  | commanding => cases rendering

/-- **A program is stopped only by the flag.** -/
theorem isCancelled_of_stopped (stopped : (j.execute names setup t).1 = .stopped) :
    (j.execute names setup t).2.world.isCancelled = true := by
  cases j with
  | rendering name p keep =>
    have keeps := (Rendering.leads_executor names).keeps (P := fun v => v.world.isCancelled = true)
      fun quiet => quiet.isCancelled
    exact Machine.up_of_stopped keeps keep stopped
  | commanding name p =>
    have keeps := (Supervision.leads_executor names setup.patience).keeps Supervision.Moves.isCancelled
    have up := Machine.up_of_stopped keeps false stopped
    exact (Supervision.moves_stopAfter _ _).isCancelled up

end Job

/-! ### One attempt -/

namespace Attempt

/-- No attempt is both completed and failed. -/
theorem failure?_of_completed (h : a.completed names setup = true) : a.failure? names setup = none := by
  rw [completed, Bool.and_eq_true, decide_eq_true_eq] at h
  rw [failure?, h.1]

theorem completed_of_failure? {f : ProgramFailure} (h : a.failure? names setup = some f) :
    a.completed names setup = false := by
  by_contra complete
  rw [failure?_of_completed (Bool.eq_true_of_not_eq_false complete)] at h
  cases h

/-- A session has taken note of how an attempt ended. -/
structure Closed (names : NameTable) (setup : Setup) (a : Attempt) (good : Bool) (u : Session) :
    Prop where
  finished : u.finished
    = (a.left names setup).finished ++ if a.completed names setup then [a.job.name] else []
  failures : u.failures = (a.left names setup).failures ++ (a.failure? names setup).toList
  good_eq : good = (a.failure? names setup).isNone
  decided : u.world.isCancelled = false →
    a.completed names setup = true ∨ (a.failure? names setup).isSome = true
  scopes : u.scopes = (a.left names setup).scopes
  crew : u.crew = (a.left names setup).crew

/-- The end of a program that came too late, or was stopped, is not noted. -/
theorem closed_of_late (up : (a.left names setup).world.isCancelled = true)
    (unfailed : a.failure? names setup = none) :
    a.Closed names setup true (a.left names setup) where
  finished := by simp [completed, up]
  failures := by simp [unfailed]
  good_eq := by simp [unfailed]
  decided down := by simp [up] at down
  scopes := rfl
  crew := rfl

theorem closed_of_completed (complete : a.completed names setup = true)
    (finished : u.finished = (a.left names setup).finished ++ [a.job.name])
    (failures : u.failures = (a.left names setup).failures)
    (scopes : u.scopes = (a.left names setup).scopes) (crew : u.crew = (a.left names setup).crew) :
    a.Closed names setup true u where
  finished := by rw [finished, complete, if_pos rfl]
  failures := by simp [failures, failure?_of_completed complete]
  good_eq := by simp [failure?_of_completed complete]
  decided _ := .inl complete
  scopes := scopes
  crew := crew

theorem closed_of_failed {f : ProgramFailure} (failed : a.failure? names setup = some f)
    (finished : u.finished = (a.left names setup).finished)
    (failures : u.failures = (a.left names setup).failures ++ [f])
    (scopes : u.scopes = (a.left names setup).scopes) (crew : u.crew = (a.left names setup).crew) :
    a.Closed names setup false u where
  finished := by simp [finished, completed_of_failure? failed]
  failures := by simp [failures, failed]
  good_eq := by simp [failed]
  decided _ := .inr (by simp [failed])
  scopes := scopes
  crew := crew

/-- **What a session notes of an attempt.** -/
theorem closed_of_close (h : a.close names setup = (.ok good, u)) : a.Closed names setup good u := by
  rw [close] at h
  cases ended : a.outcome names setup with
  | finished =>
    have unfailed : a.failure? names setup = none := by rw [failure?, ended]
    rw [ended, Session.conclude.eq_def] at h
    dsimp only at h
    split at h
    · next up =>
      obtain ⟨hgood, rfl⟩ := Prod.mk.inj h
      obtain rfl := Except.ok.inj hgood
      exact closed_of_late up unfailed
    · next down =>
      obtain ⟨hgood, rfl⟩ := Prod.mk.inj h
      obtain rfl := Except.ok.inj hgood
      have complete : a.completed names setup = true := by simp [completed, ended, down]
      exact closed_of_completed complete rfl rfl rfl rfl
  | stopped =>
    have unfailed : a.failure? names setup = none := by rw [failure?, ended]
    have up : (a.left names setup).world.isCancelled = true :=
      a.job.isCancelled_of_stopped names setup a.start ended
    rw [ended, Session.conclude.eq_def] at h
    dsimp only at h
    rw [if_pos up] at h
    obtain ⟨hgood, rfl⟩ := Prod.mk.inj h
    obtain rfl := Except.ok.inj hgood
    exact closed_of_late up unfailed
  | failed position e origin =>
    have failed : a.failure? names setup
        = some ⟨a.job.name, failureMessage position origin (e.message names), origin⟩ := by
      rw [failure?, ended]
    rw [ended] at h
    obtain ⟨hgood, rfl⟩ := Prod.mk.inj h
    obtain rfl := Except.ok.inj hgood
    exact closed_of_failed failed rfl rfl rfl rfl
  | crashed c =>
    rw [ended] at h
    cases h
  | exhausted =>
    rw [ended] at h
    cases h

namespace Made

/-- What is reported so far, and the scopes, are those of the session that was made ready. -/
theorem start_eq (h : a.Made names setup first t good u) :
    a.start.finished = t.finished ∧ a.start.failures = t.failures ∧ a.start.scopes = t.scopes := by
  rcases Job.prepare_cases h.ready with ⟨same, -⟩ | ⟨-, v, -, renewed⟩
  · rw [same]
    exact ⟨rfl, rfl, rfl⟩
  · rw [renewed]
    exact ⟨rfl, rfl, rfl⟩

theorem finished (h : a.Made names setup first t good u) :
    u.finished = t.finished ++ if a.completed names setup then [a.job.name] else [] := by
  have before : (a.left names setup).finished = t.finished :=
    (a.job.finished_execute names setup a.start).trans h.start_eq.1
  rw [(closed_of_close h.closed).finished, before]

theorem failures (h : a.Made names setup first t good u) :
    u.failures = t.failures ++ (a.failure? names setup).toList := by
  have before : (a.left names setup).failures = t.failures :=
    (a.job.failures_execute names setup a.start).trans h.start_eq.2.1
  rw [(closed_of_close h.closed).failures, before]

end Made

end Attempt

/-! ### What the chronicle of a session says -/

namespace Chronicle

/-- The jobs are taken from the front. -/
theorem isPrefix (h : Chronicle names setup first t jobs as u) : as.map Attempt.job <+: jobs := by
  induction h with
  | idle => exact List.prefix_refl []
  | cancelled => exact List.nil_prefix
  | halted => exact ⟨_, rfl⟩
  | next _ _ _ ih => exact List.cons_prefix_cons.2 ⟨rfl, ih⟩

/-- **No job is left out**, unless the flag is up or the last attempt failed. -/
theorem complete (h : Chronicle names setup first t jobs as u) :
    as.map Attempt.job = jobs ∨ u.world.isCancelled = true ∨
      setup.failFast = true ∧ ∃ a, as.getLast? = some a ∧ (a.failure? names setup).isSome = true := by
  induction h with
  | idle => exact .inl rfl
  | cancelled up => exact .inr (.inl up)
  | @halted _ _ _ a _ made fast =>
    have failed : false = (a.failure? names setup).isNone := (Attempt.closed_of_close made.closed).good_eq
    refine .inr (.inr ⟨fast, a, rfl, ?_⟩)
    rwa [eq_comm, Option.isNone_eq_false_iff] at failed
  | @next _ _ _ _ _ a _ as _ _ _ ih =>
    rcases ih with all | up | ⟨fast, b, last, failed⟩
    · exact .inl (congrArg (a.job :: ·) all)
    · exact .inr (.inl up)
    · refine .inr (.inr ⟨fast, b, ?_, failed⟩)
      rw [List.getLast?_cons, last]
      rfl

/-- With the flag up nothing is done. -/
theorem of_up (h : Chronicle names setup first t jobs as u) (up : t.world.isCancelled = true) :
    as = [] ∧ u = t := by
  cases h with
  | idle => exact ⟨rfl, rfl⟩
  | cancelled => exact ⟨rfl, rfl⟩
  | halted made => exact absurd up (by rw [made.down]; exact Bool.false_ne_true)
  | next made => exact absurd up (by rw [made.down]; exact Bool.false_ne_true)

theorem down (h : Chronicle names setup first t jobs as u) (down : u.world.isCancelled = false) :
    t.world.isCancelled = false := by
  by_contra up
  rw [(h.of_up (Bool.eq_true_of_not_eq_false up)).2] at down
  exact up down

/-- **The programs that came to their end**, in the order of the attempts. -/
theorem finished (h : Chronicle names setup first t jobs as u) :
    u.finished = t.finished ++ (as.filter (·.completed names setup)).map (·.job.name) := by
  induction h with
  | idle => exact (List.append_nil _).symm
  | cancelled => exact (List.append_nil _).symm
  | halted made =>
    rw [made.finished, List.filter_cons]
    split <;> rfl
  | next made _ _ ih =>
    rw [ih, made.finished, List.append_assoc, List.filter_cons]
    split <;> rfl

/-- **The programs that failed**, in the order of the attempts. -/
theorem failures (h : Chronicle names setup first t jobs as u) :
    u.failures = t.failures ++ as.filterMap (·.failure? names setup) := by
  induction h with
  | idle => exact (List.append_nil _).symm
  | cancelled => exact (List.append_nil _).symm
  | @halted _ _ _ a _ made =>
    rw [made.failures, List.filterMap_cons]
    cases a.failure? names setup <;> rfl
  | @next _ _ _ _ _ a _ _ made _ _ ih =>
    rw [ih, made.failures, List.append_assoc, List.filterMap_cons]
    cases a.failure? names setup <;> rfl

/-- **Every program that was run is reported**, unless the flag is up. -/
theorem decided (h : Chronicle names setup first t jobs as u) (down : u.world.isCancelled = false) :
    ∀ a ∈ as, a.completed names setup = true ∨ (a.failure? names setup).isSome = true := by
  induction h with
  | idle => exact List.forall_mem_nil _
  | cancelled => exact List.forall_mem_nil _
  | halted made =>
    exact List.forall_mem_singleton.2 ((Attempt.closed_of_close made.closed).decided down)
  | @next _ _ _ u v a _ _ made _ rest ih =>
    -- had the flag been up behind the first attempt, it would be up now
    have before : u.world.isCancelled = false := rest.down down
    exact List.forall_mem_cons.2 ⟨(Attempt.closed_of_close made.closed).decided before, ih down⟩

end Chronicle

/-! ### Where programs start -/

/-- The program is code of statements, and does not keep its scope. -/
def Job.Proper : Job → Prop
  | rendering _ p keep => (∃ ts, Statement.ProperIn ts ∧ p = compile ts) ∧ keep = false
  | commanding _ p => ∃ ts, Statement.ProperIn ts ∧ p = compile ts

theorem Scopes.length_yield {s : Scopes} (hs : 0 < s.length) (x : NameId) (v : Value) :
    (s.yield x v).length = s.length := by
  cases s with
  | nil => cases hs
  | cons root inner =>
    rw [Scopes.yield]
    split
    · rfl
    · rfl

theorem Rendering.keepsOpen_executor (names : NameTable) : (executor names).KeepsOpen where
  execute c s v hs := by
    have placed (value : Value) : (place s value c).length = s.length := by
      cases c with
      | bind x b => exact Scopes.length_bind hs x value
      | yield x p => exact Scopes.length_yield hs x value
    show (execute names c s v).2.1.length = s.length
    rw [execute]
    split
    · exact placed _
    · rfl
    · rfl
    · rfl
  visit _ _ _ _ _ _ := rfl
  finish _ _ _ := rfl

theorem Supervision.keepsOpen_executor (names : NameTable) (patience : Nat) :
    (executor names patience).KeepsOpen where
  execute _ _ _ _ := rfl
  visit _ _ _ _ _ _ := rfl
  finish _ _ _ := rfl

/-- **A program leaves as many scopes as it found**, unless it keeps its own. -/
theorem Job.length_execute {j : Job} (proper : j.Proper) :
    (j.execute names setup t).2.scopes.length = t.scopes.length := by
  cases j with
  | rendering name p keep =>
    obtain ⟨⟨ts, ts_proper, rfl⟩, rfl⟩ := proper
    exact Machine.length_run (Machine.level_of_proper ts_proper) (Rendering.keepsOpen_executor names) _ _ _ _
  | commanding name p =>
    obtain ⟨ts, ts_proper, rfl⟩ := proper
    exact Machine.length_run (Machine.level_of_proper ts_proper)
      (Supervision.keepsOpen_executor names setup.patience) _ _ _ _

namespace Chronicle

/-- **Every program starts on as many scopes as the first one.** -/
theorem scopes (h : Chronicle names setup first t jobs as u) (proper : ∀ j ∈ jobs, j.Proper) :
    ∀ a ∈ as, a.start.scopes.length = t.scopes.length := by
  induction h with
  | idle => exact List.forall_mem_nil _
  | cancelled => exact List.forall_mem_nil _
  | halted made => exact List.forall_mem_singleton.2 (congrArg List.length made.start_eq.2.2)
  | @next _ _ t u _ a jobs _ made _ _ ih =>
    have start : a.start.scopes.length = t.scopes.length := congrArg List.length made.start_eq.2.2
    have behind : u.scopes.length = t.scopes.length := by
      rw [(Attempt.closed_of_close made.closed).scopes, ← start]
      exact Job.length_execute (proper _ List.mem_cons_self)
    refine List.forall_mem_cons.2 ⟨start, ?_⟩
    rw [← behind]
    exact ih fun j hj => proper j (List.mem_cons_of_mem _ hj)

end Chronicle

/-- A crew as a command program has to find it. -/
structure Crew.Ready (c : Crew) : Prop where
  limit : c.limit = none
  tracked : c.tracked = []
  meters : c.meters = []

theorem Crew.ready_renewed (c : Crew) : c.renewed.Ready := ⟨rfl, rfl, rfl⟩

theorem Supervision.ready_of_reset {patience : Nat} {v v' : Supervision}
    (h : reset patience v = (.ok (), v')) : v'.crew.Ready := by
  rw [reset] at h
  split at h
  · cases h
  · obtain ⟨-, rfl⟩ := Prod.mk.inj h
    exact Crew.ready_renewed _

theorem Attempt.Made.crew (h : a.Made names setup first t good u)
    (ready : first = true → t.crew.Ready) :
    (a.job.isCommanding = true → a.start.crew.Ready) ∧
    ((first && !a.job.isCommanding) = true → u.crew.Ready) := by
  rcases Job.prepare_cases h.ready with ⟨same, commanding⟩ | ⟨later, v, reset, renewed⟩
  · refine ⟨fun c => same ▸ ready (commanding c), fun still => ?_⟩
    obtain ⟨is_first, rendering⟩ : first = true ∧ a.job.isCommanding = false := by simpa using still
    have left : (a.left names setup).crew = a.start.crew := a.job.crew_execute names setup a.start rendering
    rw [(Attempt.closed_of_close h.closed).crew, left, same]
    exact ready is_first
  · refine ⟨fun _ => ?_, fun still => ?_⟩
    · rw [renewed]
      exact Supervision.ready_of_reset reset
    · rw [later] at still
      cases still

/-- **Every command program finds its crew ready.** -/
theorem Chronicle.crews (h : Chronicle names setup first t jobs as u)
    (ready : first = true → t.crew.Ready) :
    ∀ a ∈ as, a.job.isCommanding = true → a.start.crew.Ready := by
  induction h with
  | idle => exact List.forall_mem_nil _
  | cancelled => exact List.forall_mem_nil _
  | halted made => exact List.forall_mem_singleton.2 (made.crew ready).1
  | next made _ _ ih => exact List.forall_mem_cons.2 ⟨(made.crew ready).1, ih (made.crew ready).2⟩

/-! ### Sessions -/

theorem Job.proper_planned {bed : Bed} (proper : bed.Proper) (wanted : Option (List String)) :
    ∀ j ∈ planned bed wanted, j.Proper := by
  intro j hj
  rcases List.mem_append.1 hj with template | command
  · obtain ⟨e, he, rfl⟩ := List.mem_map.1 template
    exact ⟨Session.proper_templates proper wanted e he, rfl⟩
  · obtain ⟨e, he, rfl⟩ := List.mem_map.1 command
    obtain ⟨entry, -, entry_proper, code⟩ := Session.proper_commands proper wanted e he
    exact ⟨entry.2, entry_proper, code⟩

namespace Session

variable {bed : Bed} {wanted : Option (List String)}

/-- The first attempt of a session: its globals. -/
def seeding (bed : Bed) (setup : Setup) (w : World) : Attempt := ⟨.globals bed, Session.new bed setup w⟩

/-- What a session tells of its programs.  The globals are run first; `rest` are the attempts behind
them. -/
structure Conducted (bed : Bed) (setup : Setup) (wanted : Option (List String)) (w : World)
    (rest : List Attempt) (r : Report) (t : Session) : Prop where
  /-- The session is made of these attempts, from its first state to its last. -/
  chronicle : ∃ good u v, (seeding bed setup w).close bed.names setup = (.ok good, u) ∧
    Chronicle bed.names setup true u (if good then Job.planned bed wanted else []) rest v ∧
    r = v.report w.now ∧ t = v.recordEnd r
  /-- When the globals fail nothing else is run. -/
  globals_failed : ∀ f, (seeding bed setup w).failure? bed.names setup = some f →
    rest = [] ∧ r.programs = [] ∧ r.failures = [f]
  /-- Otherwise the attempts are made in the order of the plan, from its first job on. -/
  ordered : (seeding bed setup w).failure? bed.names setup = none →
    rest.map Attempt.job <+: Job.planned bed wanted
  /-- The whole plan is carried out, unless the run is cancelled, or stops at a failure. -/
  complete : (seeding bed setup w).failure? bed.names setup = none →
    rest.map Attempt.job = Job.planned bed wanted ∨ r.cancelled = true ∨
      setup.failFast = true ∧
        ∃ a, rest.getLast? = some a ∧ (a.failure? bed.names setup).isSome = true
  programs : r.programs = ((seeding bed setup w :: rest).filter (·.completed bed.names setup)).map
    (·.job.name)
  failures : r.failures = (seeding bed setup w :: rest).filterMap (·.failure? bed.names setup)
  /-- No attempt is both completed and failed. -/
  apart : ∀ a ∈ seeding bed setup w :: rest, a.completed bed.names setup = true →
    a.failure? bed.names setup = none
  /-- Unless the run is cancelled, every attempt is one of both. -/
  decided : r.cancelled = false → ∀ a ∈ seeding bed setup w :: rest,
    a.completed bed.names setup = true ∨ (a.failure? bed.names setup).isSome = true
  success : r.isSuccess = true ↔ r.failures = [] ∧ r.cancelled = false
  /-- Behind the globals every program starts on one scope. -/
  scopes : ∀ a ∈ rest, a.start.scopes.length = 1
  /-- Every command program starts without a limit, without tracked children and without meters. -/
  crews : ∀ a ∈ rest, a.job.isCommanding = true → a.start.crew.limit = none ∧
    a.start.crew.tracked = [] ∧ a.start.crew.meters = []

/-- Behind an attempt the session stops, or goes on with the jobs that are left. -/
theorem chronicle_of_made (made : a.Made names setup first t good u)
    (stops : (!good && setup.failFast) = true → u = v)
    (goes : (!good && setup.failFast) = false →
      ∃ as, Chronicle names setup (first && !a.job.isCommanding) u jobs as v) :
    ∃ as, Chronicle names setup first t (a.job :: jobs) as v := by
  by_cases halts : (!good && setup.failFast) = true
  · obtain rfl := stops halts
    obtain ⟨rfl, fast⟩ : good = false ∧ setup.failFast = true := by simpa using halts
    exact ⟨[a], .halted made fast⟩
  · obtain ⟨as, rest⟩ := goes (Bool.eq_false_iff.2 halts)
    exact ⟨a :: as, .next made (by simpa using halts) rest⟩

theorem chronicle_of_runTemplates {more : Bool} {programs : List (String × Program RenderCommand)}
    (h : runTemplates names setup programs t = (.ok more, u)) (stops : more = false → u = v)
    (goes : more = true → ∃ as, Chronicle names setup true u jobs as v) :
    ∃ as, Chronicle names setup true t (programs.map Job.ofTemplate ++ jobs) as v := by
  induction programs generalizing t with
  | nil =>
    obtain ⟨hmore, rfl⟩ := Prod.mk.inj h
    exact goes (Except.ok.inj hmore).symm
  | cons e rest ih =>
    obtain ⟨name, p⟩ := e
    rw [runTemplates] at h
    split at h
    · next up =>
      obtain ⟨hmore, rfl⟩ := Prod.mk.inj h
      obtain rfl := stops (Except.ok.inj hmore).symm
      exact ⟨[], .cancelled up⟩
    · next down =>
      split at h
      · cases h
      · next good u₁ closed =>
        have made : Attempt.Made names setup ⟨.ofTemplate (name, p), t⟩ true t good u₁ :=
          ⟨Bool.eq_false_iff.2 down, rfl, (Attempt.close_rendering names setup ..).trans closed⟩
        refine chronicle_of_made made (fun halts => ?_) fun goes_on => ?_
        · rw [if_pos halts] at h
          obtain ⟨hmore, rfl⟩ := Prod.mk.inj h
          exact stops (Except.ok.inj hmore).symm
        · rw [goes_on] at h
          exact ih h

theorem chronicle_of_runCommands {programs : List (String × Program Command)}
    (h : runCommands names setup first programs t = (.ok (), u)) :
    ∃ as, Chronicle names setup first t (programs.map Job.ofCommand) as u := by
  induction programs generalizing first t with
  | nil =>
    obtain ⟨-, rfl⟩ := Prod.mk.inj h
    exact ⟨[], .idle⟩
  | cons e rest ih =>
    obtain ⟨name, p⟩ := e
    rw [runCommands] at h
    split at h
    · next up =>
      obtain ⟨-, rfl⟩ := Prod.mk.inj h
      exact ⟨[], .cancelled up⟩
    · next down =>
      split at h
      · cases h
      · next start ready =>
        split at h
        · cases h
        · next good u₁ closed =>
          have made : Attempt.Made names setup ⟨.ofCommand (name, p), start⟩ first t good u₁ :=
            ⟨Bool.eq_false_iff.2 down, ready, (Attempt.close_commanding names setup ..).trans closed⟩
          refine chronicle_of_made made (fun halts => ?_) fun goes_on => ?_
          · rw [if_pos halts] at h
            exact (Prod.mk.inj h).2
          · rw [goes_on] at h
            rw [show (first && !(Job.ofCommand (name, p)).isCommanding) = false from Bool.and_false _]
            exact ih h

/-- **A session keeps to the order.** -/
theorem chronicle_of_runAll
    (h : runAll bed setup ((templatesOf bed).filter fun p => isWanted wanted p.1)
      ((commandsOf bed).filter fun p => isWanted wanted p.1) t = (.ok (), v)) :
    ∃ good u as, (⟨.globals bed, t⟩ : Attempt).close bed.names setup = (.ok good, u) ∧
      Chronicle bed.names setup true u (if good then Job.planned bed wanted else []) as v := by
  rw [runAll] at h
  split at h
  · cases h
  · next u closed =>
    obtain ⟨-, rfl⟩ := Prod.mk.inj h
    exact ⟨false, u, [], closed, .idle⟩
  · next u closed =>
    split at h
    · cases h
    · next rendered =>
      obtain ⟨-, rfl⟩ := Prod.mk.inj h
      obtain ⟨as, chronicle⟩ := chronicle_of_runTemplates rendered (fun _ => rfl)
        fun more => absurd more Bool.false_ne_true
      exact ⟨true, u, as, closed, chronicle⟩
    · next rendered =>
      obtain ⟨as, chronicle⟩ :=
        chronicle_of_runTemplates rendered (fun halted => absurd halted.symm Bool.false_ne_true)
          fun _ => chronicle_of_runCommands h
      exact ⟨true, u, as, closed, chronicle⟩

/-- When a program is run behind the globals, they did not fail, and left one scope. -/
theorem length_of_seeding (proper : bed.Proper) {w : World}
    (closed : (seeding bed setup w).Closed bed.names setup good u)
    (chronicle : Chronicle bed.names setup true u (if good then Job.planned bed wanted else []) as v)
    (more : as ≠ []) : u.scopes.length = 1 := by
  have down : u.world.isCancelled = false := by
    by_contra up
    exact more (chronicle.of_up (Bool.eq_true_of_not_eq_false up)).1
  have unfailed : good = true := by
    by_contra failed
    have empty := chronicle.isPrefix
    rw [if_neg failed] at empty
    exact more (List.map_eq_nil_iff.1 (List.prefix_nil.1 empty))
  have completed : (seeding bed setup w).completed bed.names setup = true := by
    refine (closed.decided down).resolve_right fun failed => ?_
    rw [closed.good_eq, Option.isNone_iff_eq_none] at unfailed
    rw [unfailed] at failed
    cases failed
  rw [Attempt.completed, Bool.and_eq_true, decide_eq_true_eq] at completed
  rw [closed.scopes]
  exact Machine.length_run_kept (Machine.level_of_proper proper.globals)
    (Rendering.keepsOpen_executor bed.names) _ _ _ _ completed.1

theorem conducted_of_chronicle (proper : bed.Proper) {w : World}
    (close : (seeding bed setup w).close bed.names setup = (.ok good, u))
    (chronicle : Chronicle bed.names setup true u (if good then Job.planned bed wanted else []) as v) :
    Conducted bed setup wanted w as (v.report w.now) (v.recordEnd (v.report w.now)) := by
  have closed := Attempt.closed_of_close close
  have good_of (unfailed : (seeding bed setup w).failure? bed.names setup = none) : good = true := by
    rw [closed.good_eq, unfailed]
    rfl
  have planned_proper : ∀ j ∈ if good then Job.planned bed wanted else [], j.Proper := by
    intro j hj
    split at hj
    · exact Job.proper_planned proper wanted j hj
    · cases hj
  have finished : v.finished = ((seeding bed setup w :: as).filter (·.completed bed.names setup)).map
      (·.job.name) := by
    rw [chronicle.finished, closed.finished, Attempt.left, Job.finished_execute, List.filter_cons]
    split <;> rfl
  have failures : v.failures = (seeding bed setup w :: as).filterMap (·.failure? bed.names setup) := by
    rw [chronicle.failures, closed.failures, Attempt.left, Job.failures_execute, List.filterMap_cons]
    cases (seeding bed setup w).failure? bed.names setup <;> rfl
  refine
    { chronicle := ⟨good, u, v, close, chronicle, rfl, rfl⟩
      globals_failed := fun f failed => ?_
      ordered := fun unfailed => ?_
      complete := fun unfailed => ?_
      programs := finished
      failures := failures
      apart := fun a _ => a.failure?_of_completed
      decided := fun down => ?_
      success := ?_
      scopes := fun a ha => ?_
      crews := fun a ha commanding => ?_ }
  · have stopped : good = false := by rw [closed.good_eq, failed]; rfl
    have incomplete := Attempt.completed_of_failure? failed
    have empty := chronicle.isPrefix
    rw [stopped] at empty
    obtain rfl : as = [] := List.map_eq_nil_iff.1 (List.prefix_nil.1 empty)
    refine ⟨rfl, ?_, ?_⟩
    · show v.finished = []
      rw [finished, List.filter_cons, incomplete]
      rfl
    · show v.failures = [f]
      rw [failures, List.filterMap_cons, failed]
      rfl
  · have ordered := chronicle.isPrefix
    rwa [if_pos (good_of unfailed)] at ordered
  · have complete := chronicle.complete
    rwa [if_pos (good_of unfailed)] at complete
  · exact List.forall_mem_cons.2 ⟨closed.decided (chronicle.down down), chronicle.decided down⟩
  · simp [Report.isSuccess, report]
  · rw [chronicle.scopes planned_proper a ha]
    exact length_of_seeding proper closed chronicle (List.ne_nil_of_mem ha)
  · have ready : u.crew.Ready := by
      rw [closed.crew, Attempt.left, Job.crew_execute _ _ _ _ rfl]
      exact ⟨rfl, rfl, rfl⟩
    have found := chronicle.crews (fun _ => ready) a ha commanding
    exact ⟨found.limit, found.tracked, found.meters⟩

/-- **How the programs of a bed are run.**  Take any bed that is accepted, any of its programs, any setup
and any world, and let the session end with a report.  Then its programs were run as `Conducted` says:
the globals, then template programs, then command programs, in order and reported as they ended. -/
theorem run_conducted {here : Whereabouts} {d : Document} (accepted : Bed.ofDocument here d = .ok bed)
    {w : World} {r : Report}
    (returns : Session.run bed setup wanted (Session.new bed setup w) = (.ok r, t)) :
    ∃ rest, Conducted bed setup wanted w rest r t := by
  have proper : bed.Proper := by
    have yields := Bed.yields_ofDocument here d
    rwa [accepted] at yields
  rw [Session.run] at returns
  split at returns
  · cases returns
  · dsimp only at returns
    split at returns
    · cases returns
    · next v ran =>
      obtain ⟨hr, rfl⟩ := Prod.mk.inj returns
      obtain rfl := Except.ok.inj hr
      obtain ⟨good, u, rest, close, chronicle⟩ := chronicle_of_runAll ran
      exact ⟨rest, conducted_of_chronicle proper close chronicle⟩

/-- A bed whose template program overwrites a variable that is not there. -/
def brokenBed : Document :=
  .mapping [("templates", .mapping [("broken", .list [.mapping [("assign",
      .mapping [("x", .text "a")])]])]),
    ("commands", .list [.mapping [("sleep", .int 1)]])]

def brokenReport : Report where
  programs := ["globals", "commands"]
  failures := [{
    program := "broken"
    error := "instruction 0 (templates.broken[0].assign.x): missing variable `x`"
    origin := some "templates.broken[0].assign.x" }]
  templateErrors := 0
  spawnFailures := 0
  cancelled := false
  duration := 1

/-- The failure is reported, and the command program is run all the same. -/
theorem run_conducted_brokenBed :
    ∃ bed, Bed.ofDocument default brokenBed = .ok bed ∧
      let setup : Setup := { budget := 9, patience := 9 }
      let ran := Session.run bed setup none (Session.new bed setup {})
      ran.1 = .ok brokenReport ∧
        ∃ rest, rest.map Attempt.job = Job.planned bed none ∧
          Conducted bed setup none {} rest brokenReport ran.2 := by
  have conducts (bed : Bed) (accepted : Bed.ofDocument default brokenBed = .ok bed) (setup : Setup)
      (patient : setup.failFast = false)
      (reported : (Session.run bed setup none (Session.new bed setup {})).1 = .ok brokenReport) :
      ∃ rest, rest.map Attempt.job = Job.planned bed none ∧ Conducted bed setup none {} rest brokenReport
        (Session.run bed setup none (Session.new bed setup {})).2 := by
    obtain ⟨rest, conducted⟩ := run_conducted accepted (Prod.ext reported rfl)
    refine ⟨rest, ?_, conducted⟩
    have unfailed : (seeding bed setup {}).failure? bed.names setup = none := by
      rw [Option.eq_none_iff_forall_ne_some]
      intro f failed
      cases (conducted.globals_failed f failed).2.1
    rcases conducted.complete unfailed with all | cancelled | ⟨fast, -⟩
    · exact all
    · cases cancelled
    · rw [patient] at fast
      cases fast
  have accepted : Bed.ofDocument default brokenBed = .ok _ := rfl
  refine ⟨_, accepted, ?_⟩
  intro setup ran
  have reported : ran.1 = .ok brokenReport := by decide +kernel
  exact ⟨reported, conducts _ accepted setup rfl reported⟩

end Session

end Sweep
