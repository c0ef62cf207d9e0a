import Sweep.Proofs.Building
import Sweep.Proofs.Reading
import Sweep.Proofs.Tracking
import Sweep.Session

/-!
# How a session ends

When a session ends with a report, every child that it started is over, whether the programs were
completed, failed or were stopped; the one exception are children that were never registered.  A session
that crashes leaves its children as they are.

* `crash_of_execute`, `endless_of_finish` — how the commands and the end of a command program can crash;
* `Accounted` — every child is tracked, over, or of an order with a NUL in the name of an output file;
  kept by every move of a crew;
* `tracked_eq_nil_of_run` — no child is tracked behind a program that did not crash;
* `Session.Clear`, `Session.EndsClear` — no child is left between two programs, with one lemma for each
  part of a session;
* `Session.no_child_left` — the two ways in which the session of a bed can end;
* `Session.child_left_by_untimelyWait` — a bed whose session crashes and leaves a child running.
-/

namespace Sweep

namespace Supervision

variable {v v' : Supervision}

/-! ### Crashes of command programs -/

theorem SpawnEnded.crash {l : Launch} {s : Scopes} {r : Except Failure Unit × Supervision} {c : Crash}
    (h : SpawnEnded l s v r) (crash : r.1 = .error (.crash c)) :
    c = .endless ∨ c = .number .unwritable ∨ v.crew.progress ≠ .none ∧ ProgressFault c := by
  cases h with
  | crashed cause after =>
    obtain rfl := Failure.crash.inj (Except.error.inj crash)
    exact cause.imp id .inr
  | @unevaluated e v' cause after =>
    cases e with
    | access e => cases crash
    | unwritable => exact .inr (.inl (Failure.crash.inj (Except.error.inj crash)).symm)
  | calledOff | attempted => cases crash

/-- **How a command crashes**: it waits without end, a number cannot be written, progress cannot be written,
or its time cannot be counted. -/
theorem crash_of_execute {patience : Nat} {c : Command} {s : Scopes} {crash : Crash}
    (h : (execute patience c s v).1 = .error (.crash crash)) :
    crash = .endless ∨ crash = .number .unwritable ∨ (v.crew.progress ≠ .none ∧ ProgressFault crash) ∨
      Untimely c crash := by
  cases c with
  | limit n => cases h
  | sleep ms =>
    rw [execute] at h
    split at h
    · cases h
    · next e world paused =>
      obtain rfl := Failure.crash.inj (Except.error.inj h)
      refine .inr (.inr (.inr (.sleep ?_)))
      rw [pause] at paused
      split at paused
      · next long =>
        obtain ⟨he, -⟩ := Prod.mk.inj paused
        exact Except.error.inj he ▸ long
      · cases paused
  | spawn l => exact ((spawn_ended l s patience v).crash h).imp id (Or.imp id .inl)
  | wait timeout polls =>
    rw [execute] at h
    split at h
    · cases h
    · next waited =>
      obtain rfl := Failure.crash.inj (Except.error.inj h)
      exact (crash_of_waitAll waited).imp id fun untimely => .inr (.inr untimely)

theorem endless_of_drain {patience : Nat} {is : List Nat} {w : World} {c : Crash}
    (h : (drain patience is w).1 = .error c) : c = .endless := by
  induction is generalizing w with
  | nil => cases h
  | cons i rest ih =>
    rw [drain] at h
    split at h
    · next e u waited =>
      -- a wait without a time is never refused
      rw [World.await] at waited
      split at waited
      · cases waited
      · exact absurd (congrArg Prod.fst waited) (Wait.lasting_none_ne_refused _ _ _)
    · exact (Except.error.inj h).symm
    · exact ih h

theorem endless_of_finish {patience : Nat} {c : Crash} (h : (finish patience v).1 = .error c) :
    c = .endless := by
  rw [finish] at h
  split at h
  · next w drained =>
    obtain rfl := Except.error.inj h
    exact endless_of_drain (congrArg Prod.fst drained)
  · cases h

theorem endless_of_reset {patience : Nat} {c : Crash} (h : reset patience v = (.error c, v')) :
    c = .endless := by
  rw [reset] at h
  split at h
  · next waited =>
    obtain ⟨hc, -⟩ := Prod.mk.inj h
    obtain rfl := Except.error.inj hc
    exact endless_of_waitAll waited
  · cases h

/-- A loop variable that takes a position crashes only for a number that cannot be written. -/
theorem crash_of_visit {names : NameTable} {x : NameId} {position : Int} {value : Value} {s : Scopes}
    {c : Crash} (h : (visit names x position value s v).1 = .error (.crash c)) :
    c = .number .unwritable := by
  rw [visit] at h
  dsimp only at h
  split at h
  · next e _ =>
    cases e with
    | access e => cases h
    | unwritable => exact (Failure.crash.inj (Except.error.inj h)).symm
  · cases h

/-- Where progress is not written it stays so. -/
theorem Moves.progress (h : v.Moves v') (idle : v.crew.progress = .none) :
    v'.crew.progress = .none := by
  induction h with
  | refl => exact idle
  | tail _ last ih =>
    cases last with
    | subsides after => exact after.progress ih
    | attempted after => cases after <;> exact ih
    | limited | raised | renewed => exact ih

/-! ### Children that are accounted for -/

/-- Every child is tracked, over, or of an order with a NUL in the name of an output file. -/
def Accounted (v : Supervision) : Prop :=
  ∀ i c, v.world.children[i]? = some c →
    i ∈ v.crew.tracked ∨ c.status.isFinal = true ∨ c.order.isUnroutable = true

namespace Accounted

/-- A child that was there before is accounted for as it was, at least as long as it is tracked. -/
theorem old {w : World} {i : Nat} {c : Child} (h : v.Accounted) (later : v.world.Later w)
    (hi : i < v.world.children.size) (hc : w.children[i]? = some c) :
    i ∈ v.crew.tracked ∨ c.status.isFinal = true ∨ c.order.isUnroutable = true := by
  obtain ⟨b, hb, grown⟩ := later.before hi hc
  exact (h i b hb).imp id (Or.imp grown.isFinal (grown.order ▸ ·))

theorem subsides (h : v.Accounted) (after : v.Subsides v') : v'.Accounted := by
  intro i c hc
  have hi : i < v.world.children.size := after.world.no_child ▸ (Array.getElem?_eq_some_iff.1 hc).1
  rcases h.old after.world.toLater hi hc with tracked | rest
  · by_cases still : i ∈ v'.crew.tracked
    · exact .inl still
    · obtain ⟨d, hd, final⟩ := after.gone i tracked hi still
      obtain rfl : d = c := Option.some.inj (hd.symm.trans hc)
      exact .inr (.inl final)
  · exact .inr rest

theorem attempted {o : Order} (h : v.Accounted) (after : Attempted o v v') : v'.Accounted := by
  intro i c hc
  have size := (Array.getElem?_eq_some_iff.1 hc).1
  cases after with
  | refused world => exact h.old world.toLater (world.no_child ▸ size) hc
  | registered world =>
    rcases world.lt_or_eq size with hi | rfl
    · exact (h.old world.toLater hi hc).imp (List.mem_append_left _) id
    · exact .inl (List.mem_append_right _ List.mem_cons_self)
  | stray cause world =>
    rcases world.lt_or_eq size with hi | rfl
    · exact h.old world.toLater hi hc
    · obtain ⟨d, hd, order⟩ := world.ordered
      obtain rfl : d = c := Option.some.inj (hd.symm.trans hc)
      exact .inr (.inr (order ▸ cause))

theorem move (h : v.Accounted) (m : Move v v') : v'.Accounted := by
  cases m with
  | subsides after => exact h.subsides after
  | attempted after => exact h.attempted after
  | limited | raised => exact h
  | renewed empty =>
    intro i c hc
    have before := h i c hc
    rw [empty] at before
    exact before

/-- **A crew never loses a child that it registered.** -/
theorem moves (h : v.Accounted) (m : v.Moves v') : v'.Accounted := by
  induction m with
  | refl => exact h
  | tail _ last ih => exact ih.move last

end Accounted

/-! ### Command programs -/

open Machine

theorem crashesOnly_executor (names : NameTable) (patience : Nat) (p : Program Command)
    (idle : Prop) :
    (executor names patience).CrashesOnly p (fun v => idle → v.crew.progress = .none) fun crash =>
      crash = .endless ∨ crash = .number .unwritable ∨ (¬ idle ∧ ProgressFault crash) ∨
        ∃ line ∈ p, ∃ c, line.instruction = .command c ∧ Untimely c crash where
  unwritable := .inr (.inl rfl)
  execute line hline c hc s v progress crash h := by
    rcases crash_of_execute h with endless | long | ⟨writes, fault⟩ | untimely
    · exact .inl endless
    · exact .inr (.inl long)
    · exact .inr (.inr (.inl ⟨fun h => writes (progress h), fault⟩))
    · exact .inr (.inr (.inr ⟨line, hline, c, hc, untimely⟩))
  visit x position value s v _ crash h := .inr (.inl (crash_of_visit h))
  finish s v _ crash h := .inl (endless_of_finish h)

/-- Whether a program was completed, stopped or failed, no child is tracked when its crew is done. -/
theorem tracked_eq_nil_of_run {names : NameTable} {patience budget : Nat} {p : Program Command}
    {flag : Nat → Supervision → Bool} {keep : Bool} {s : Scopes}
    (crashes : ∀ c, (run (executor names patience) flag budget p keep s v).1 ≠ .crashed c)
    (ends : (run (executor names patience) flag budget p keep s v).1 ≠ .exhausted) :
    (Session.stopAfter (run (executor names patience) flag budget p keep s v).1
      (run (executor names patience) flag budget p keep s v).2.2).crew.tracked = [] := by
  change ∀ c, (runFrom (executor names patience) flag p budget 0 0 s.push v).1 ≠ .crashed c at crashes
  change (runFrom (executor names patience) flag p budget 0 0 s.push v).1 ≠ .exhausted at ends
  change (Session.stopAfter (runFrom (executor names patience) flag p budget 0 0 s.push v).1
    (runFrom (executor names patience) flag p budget 0 0 s.push v).2.2).crew.tracked = []
  obtain ⟨cs, d, -, ended⟩ :=
    exists_trail_of_runFrom (executor names patience) flag p budget 0 ⟨0, s.push, v⟩
  generalize runFrom (executor names patience) flag p budget 0 0 s.push v = r at *
  cases ended with
  | @finished here out finish =>
    have done : Supervision.finish patience d.world = (.ok (), here.2) := by
      have result := congrArg (fun r => (r.1, r.2.2)) finish
      exact result
    exact tracked_eq_nil_of_finish done
  | @unfinished c => exact absurd rfl (crashes c)
  | stopped => rfl
  | astray => exact absurd rfl (crashes _)
  | exhausted => exact absurd rfl ends
  | @failed line f =>
    cases f with
    | access e => rfl
    | crash c => exact absurd rfl (crashes c)

theorem moves_stopAfter (outcome : Outcome) (v : Supervision) :
    v.Moves (Session.stopAfter outcome v) := by
  cases outcome with
  | failed => exact .of_subsides v.subsides_stopAll
  | finished | stopped | crashed | exhausted => exact .refl v

/-- **How a command program crashes**: it does not come to its end, a number cannot be written, progress
cannot be written, or the time of one of its commands cannot be counted. -/
theorem crash_of_run {ts : List (Statement Command)} (proper : Statement.ProperIn ts) {idle : Prop}
    {names : NameTable} {patience budget : Nat} {flag : Nat → Supervision → Bool} {keep : Bool}
    {s : Scopes} {c : Crash} (progress : idle → v.crew.progress = .none)
    (h : (run (executor names patience) flag budget (compile ts) keep s v).1 = .crashed c) :
    c = .endless ∨ c = .number .unwritable ∨ (¬ idle ∧ ProgressFault c) ∨
      ∃ line ∈ compile ts, ∃ command, line.instruction = .command command ∧ Untimely command c :=
  Machine.crash_of_run (guided_of_proper proper) (crashesOnly_executor names patience _ idle)
    ((leads_executor names patience).keeps fun moves kept asked => moves.progress (kept asked))
    progress h

end Supervision

/-! ### Sessions -/

namespace Session

open Supervision (Accounted Moves ProgressFault Untimely)

/-- The reasons for which a session can crash: it does not come to its end, a number is to be written that has
too many digits, a file of a template program has a NUL in its name or the engine of templates fails of
itself, the progress file cannot be written, or the time of a command cannot be counted. -/
inductive CrashCause (bed : Bed) (setup : Setup) : Crash → Prop where
  | endless : CrashCause bed setup .endless
  | unwritable : CrashCause bed setup (.number .unwritable)
  | file {c : Crash} (fault : Rendering.BuildCrash c) : CrashCause bed setup c
  | progress {c : Crash} (asked : setup.progress ≠ none) (fault : ProgressFault c) :
      CrashCause bed setup c
  | untimely {c : Crash} {e : Option String × List (Statement Command)} {line : Line Command}
      {command : Command} (program : e ∈ bed.commands) (line_mem : line ∈ compile e.2)
      (instruction : line.instruction = .command command) (fault : Untimely command c) :
      CrashCause bed setup c

/-- No child is left: each is over, or of an order with a NUL in the name of an output file. -/
structure Clear (setup : Setup) (t : Session) : Prop where
  progress : setup.progress = none → t.crew.progress = .none
  children : ∀ (i : Nat) (c : Child), t.world.children[i]? = some c →
    c.status.isFinal = true ∨ c.order.isUnroutable = true

/-- A part of a session ends without a child that is left, or it crashes for a known reason. -/
def EndsClear {α : Type} (bed : Bed) (setup : Setup) : Except Crash α × Session → Prop
  | (.ok _, t) => t.Clear setup
  | (.error c, _) => CrashCause bed setup c

variable {bed : Bed} {setup : Setup} {t u : Session}

/-- Time goes by. -/
theorem Clear.onward (h : t.Clear setup) (onward : t.world.Onward u.world)
    (progress : u.crew.progress = t.crew.progress) : u.Clear setup where
  progress asked := progress.trans (h.progress asked)
  children i c hc := by
    obtain ⟨b, hb, grown⟩ := onward.before hc
    exact (h.children i b hb).imp grown.isFinal (grown.order ▸ ·)

theorem Clear.record (h : t.Clear setup) (level : Level) (message : String)
    (labels : List (String × Document)) : (t.record level message labels).Clear setup :=
  h.onward (t.world.quiet_record _ _ _ _).toOnward rfl

theorem Clear.accounted (h : t.Clear setup) : Accounted ⟨t.crew, t.world⟩ :=
  fun i c hc => .inr (h.children i c hc)

/-- A crew of which no child is tracked leaves none behind. -/
theorem clear_of_moves (h : t.Clear setup) {v : Supervision}
    (moves : Moves ⟨t.crew, t.world⟩ v) (empty : v.crew.tracked = []) {scopes : Scopes} :
    Clear setup { t with scopes, crew := v.crew, world := v.world } where
  progress asked := moves.progress (h.progress asked)
  children i c hc := by
    have accounted := h.accounted.moves moves i c hc
    rw [empty] at accounted
    exact accounted.resolve_left List.not_mem_nil

theorem endsClear_conclude {names : NameTable} {name : String} {outcome : Outcome}
    (clear : (∀ c, outcome ≠ .crashed c) → outcome ≠ .exhausted → t.Clear setup)
    (crash : ∀ c, outcome = .crashed c → CrashCause bed setup c) :
    EndsClear bed setup (conclude names name outcome t) := by
  have completed (h : t.Clear setup) :
      EndsClear bed setup (conclude names name .finished t) := by
    rw [conclude.eq_def]
    dsimp only
    split
    · exact h
    · have noted : Clear setup { t with finished := t.finished ++ [name] } := ⟨h.progress, h.children⟩
      exact noted.record _ _ _
  cases outcome with
  | finished => exact completed (clear nofun nofun)
  | stopped => exact completed (clear nofun nofun)
  | failed position e origin =>
    have h := clear nofun nofun
    have noted (failure : ProgramFailure) :
        Clear setup { t with failures := t.failures ++ [failure] } := ⟨h.progress, h.children⟩
    exact (noted _).record _ _ _
  | crashed c => exact crash c rfl
  | exhausted => exact .endless

/-! ### Template programs -/

theorem endsClear_runRendering {names : NameTable} {name : String}
    {ts : List (Statement RenderCommand)} (proper : Statement.ProperIn ts) {keep : Bool}
    (h : t.Clear setup) :
    EndsClear bed setup (runRendering names setup name (compile ts) keep t) := by
  have announced : (t.announce name).Clear setup := h.record _ _ _
  obtain ⟨quiet, crash⟩ := Rendering.run_spec proper names (fun _ v => v.world.isCancelled) setup.budget
    keep (t.announce name).scopes ⟨(t.announce name).renderer, (t.announce name).world⟩
  rw [runRendering]
  dsimp only
  generalize Machine.run (Rendering.executor names) _ _ _ _ _ _ = r at quiet crash ⊢
  refine endsClear_conclude (fun _ _ => ?_) fun c hc => .file (crash c hc)
  exact announced.onward quiet.toOnward rfl

theorem endsClear_runTemplates {names : NameTable} {programs : List (String × Program RenderCommand)}
    (proper : ∀ e ∈ programs, ∃ ts, Statement.ProperIn ts ∧ e.2 = compile ts) (h : t.Clear setup) :
    EndsClear bed setup (runTemplates names setup programs t) := by
  induction programs generalizing t with
  | nil => exact h
  | cons e rest ih =>
    obtain ⟨name, p⟩ := e
    obtain ⟨ts, ts_proper, rfl⟩ := proper _ List.mem_cons_self
    have ended : EndsClear bed setup (runRendering names setup name (compile ts) false t) :=
      endsClear_runRendering ts_proper h
    rw [runTemplates]
    split
    · exact h
    · split
      · next heq =>
        rw [heq] at ended
        exact ended
      · next heq =>
        rw [heq] at ended
        split
        · exact ended
        · exact ih (fun e he => proper e (List.mem_cons_of_mem _ he)) ended

/-! ### Command programs -/

theorem endsClear_runCommanding {names : NameTable} {name : String}
    {e : Option String × List (Statement Command)} (program : e ∈ bed.commands)
    (proper : Statement.ProperIn e.2) (h : t.Clear setup) :
    EndsClear bed setup (runCommanding names setup name (compile e.2) t) := by
  have announced : (t.announce name).Clear setup := h.record _ _ _
  have moves := Machine.leads_of_run (Supervision.leads_executor names setup.patience)
    (fun _ v => v.world.isCancelled) setup.budget (compile e.2) false (t.announce name).scopes
    ⟨(t.announce name).crew, (t.announce name).world⟩
  rw [runCommanding]
  dsimp only
  generalize hr : Machine.run (Supervision.executor names setup.patience) _ _ _ _ _ _ = r at moves ⊢
  refine endsClear_conclude (fun crashes ends => ?_) fun c hc => ?_
  · have empty := Supervision.tracked_eq_nil_of_run (by rwa [hr]) (by rwa [hr])
    rw [hr] at empty
    exact clear_of_moves announced (moves.trans (Supervision.moves_stopAfter _ _)) empty
  · rw [← hr] at hc
    rcases Supervision.crash_of_run proper announced.progress hc with rfl | rfl | rest
    · exact .endless
    · exact .unwritable
    · rcases rest with ⟨asked, fault⟩ | ⟨line, line_mem, command, instruction, fault⟩
      · exact .progress asked fault
      · exact .untimely program line_mem instruction fault

theorem endsClear_prepare (first : Bool) (h : t.Clear setup) :
    EndsClear bed setup (prepare setup first t) := by
  rw [prepare]
  split
  · exact h
  · have moves := Supervision.moves_reset setup.patience ⟨t.crew, t.world⟩
    dsimp only
    cases hr : Supervision.reset setup.patience ⟨t.crew, t.world⟩ with
    | mk r v =>
      rw [hr] at moves
      cases r with
      | error c => exact Supervision.endless_of_reset hr ▸ .endless
      | ok => exact clear_of_moves h moves (Supervision.tracked_eq_nil_of_reset hr)

theorem endsClear_runCommands {names : NameTable} {first : Bool}
    {programs : List (String × Program Command)}
    (proper : ∀ q ∈ programs, ∃ e ∈ bed.commands, Statement.ProperIn e.2 ∧ q.2 = compile e.2)
    (h : t.Clear setup) : EndsClear bed setup (runCommands names setup first programs t) := by
  induction programs generalizing t first with
  | nil => exact h
  | cons q rest ih =>
    obtain ⟨name, p⟩ := q
    obtain ⟨e, program, e_proper, rfl⟩ := proper _ List.mem_cons_self
    have prepared : EndsClear bed setup (prepare setup first t) := endsClear_prepare first h
    rw [runCommands]
    split
    · exact h
    · split
      · next heq =>
        rw [heq] at prepared
        exact prepared
      · next u heq =>
        rw [heq] at prepared
        have ended : EndsClear bed setup (runCommanding names setup name (compile e.2) u) :=
          endsClear_runCommanding program e_proper prepared
        split
        · next heq =>
          rw [heq] at ended
          exact ended
        · next heq =>
          rw [heq] at ended
          split
          · exact ended
          · exact ih (fun q hq => proper q (List.mem_cons_of_mem _ hq)) ended

/-! ### All programs -/

theorem proper_templates (proper : bed.Proper) (wanted : Option (List String)) :
    ∀ e ∈ (templatesOf bed).filter fun p => isWanted wanted p.1,
      ∃ ts, Statement.ProperIn ts ∧ e.2 = compile ts := by
  intro e he
  obtain ⟨entry, entry_mem, rfl⟩ := List.mem_map.1 (List.mem_filter.1 he).1
  exact ⟨entry.2, proper.templates entry entry_mem, rfl⟩

theorem proper_commands (proper : bed.Proper) (wanted : Option (List String)) :
    ∀ q ∈ (commandsOf bed).filter fun p => isWanted wanted p.1,
      ∃ e ∈ bed.commands, Statement.ProperIn e.2 ∧ q.2 = compile e.2 := by
  intro q hq
  obtain ⟨entry, entry_mem, rfl⟩ := List.mem_map.1 (List.mem_filter.1 hq).1
  exact ⟨entry, entry_mem, proper.commands entry entry_mem, rfl⟩

theorem clear_new (bed : Bed) (setup : Setup) {w : World} (fresh : w.children = #[]) :
    (Session.new bed setup w).Clear setup where
  progress asked := by
    rw [Session.new, asked]
  children i c hc := by
    change w.children[i]? = some c at hc
    rw [fresh] at hc
    cases hc

theorem endsClear_runAll (proper : bed.Proper) (wanted : Option (List String)) (h : t.Clear setup) :
    EndsClear bed setup (runAll bed setup ((templatesOf bed).filter fun p => isWanted wanted p.1)
      ((commandsOf bed).filter fun p => isWanted wanted p.1) t) := by
  have globals : EndsClear bed setup
      (runRendering bed.names setup "globals" (compile bed.globals) true t) :=
    endsClear_runRendering proper.globals h
  rw [runAll]
  split
  · next heq =>
    rw [heq] at globals
    exact globals
  · next heq =>
    rw [heq] at globals
    exact globals
  · next u heq =>
    rw [heq] at globals
    have rendered : EndsClear bed setup (runTemplates bed.names setup
        ((templatesOf bed).filter fun p => isWanted wanted p.1) u) :=
      endsClear_runTemplates (proper_templates proper wanted) globals
    split
    · next heq =>
      rw [heq] at rendered
      exact rendered
    · next heq =>
      rw [heq] at rendered
      exact rendered
    · next heq =>
      rw [heq] at rendered
      exact endsClear_runCommands (proper_commands proper wanted) rendered

/-- **No child is left behind.**  Take any bed that is accepted, any of its programs, any setup, and any
world in which no child was started yet.  Either the session ends with a report, and then every child that
it started is over, unless a NUL stands in the name of an output file of the child.  Or it crashes: it
does not come to its end, a number has too many digits to be written, a file of a template program has a NUL in
its name, the engine of templates fails of itself, the progress file cannot be written, or the time of a command
cannot be counted.  Whatever engine there is and whatever estimator, nothing else ends a session. -/
theorem no_child_left {here : Whereabouts} {d : Document} {bed : Bed}
    (accepted : Bed.ofDocument here d = .ok bed) (setup : Setup) (wanted : Option (List String))
    (known : unknownNames bed (wanted.getD []) = []) {w : World} (fresh : w.children = #[]) :
    let r := Session.run bed setup wanted (Session.new bed setup w)
    (∃ report, r.1 = .ok report ∧ ∀ (i : Nat) (c : Child), r.2.world.children[i]? = some c →
      c.status.isFinal = true ∨ c.order.isUnroutable = true) ∨
    ∃ c, r.1 = .error (.crashed c) ∧ CrashCause bed setup c := by
  have proper : bed.Proper := by
    have yields := Bed.yields_ofDocument here d
    rwa [accepted] at yields
  have ended := endsClear_runAll proper wanted (clear_new bed setup fresh)
  intro r
  have run_eq : r = Session.run bed setup wanted (Session.new bed setup w) := rfl
  rw [Session.run, known] at run_eq
  dsimp only at run_eq
  split at run_eq
  · next c u heq =>
    rw [heq] at ended
    exact .inr ⟨c, by rw [run_eq], ended⟩
  · next u heq =>
    rw [heq] at ended
    have clear : Clear setup (u.recordEnd (u.report (Session.new bed setup w).world.now)) :=
      Clear.record ended _ _ _
    exact .inl ⟨_, by rw [run_eq], by rw [run_eq]; exact clear.children⟩

/-- A bed that starts a child and waits for it for some time. -/
def waitingBed (time : Document) : Document :=
  .mapping [("commands", .list [.mapping [("spawn", .text "a")],
    .mapping [("wait", .mapping [("timeout", time)])]])]

/-- A world whose only child never ends by itself. -/
def endlessChild : World := { scripts := [{ exit := none }] }

/-- A child that takes too long is killed. -/
theorem no_child_left_timedWait :
    ∃ bed, Bed.ofDocument default (waitingBed (.int 5)) = .ok bed ∧
      let setup : Setup := { budget := 9, patience := 9 }
      let r := Session.run bed setup none (Session.new bed setup endlessChild)
      r.2.world.children.map (·.status) = #[.killed] ∧
      ∀ (i : Nat) (c : Child), r.2.world.children[i]? = some c →
        c.status.isFinal = true ∨ c.order.isUnroutable = true := by
  have accepted : Bed.ofDocument default (waitingBed (.int 5)) = .ok _ := rfl
  refine ⟨_, accepted, by decide +kernel, ?_⟩
  rcases no_child_left accepted { budget := 9, patience := 9 } none rfl
    (show endlessChild.children = #[] from rfl) with ⟨report, -, gone⟩ | ⟨c, crashed, -⟩
  · exact gone
  · have crashes : _ = false := congrArg Except.isOk crashed
    exact absurd crashes (by decide +kernel)

/-- **A child is left behind by a wait whose time is written as a text.**  The bed is accepted, the wait
crashes, the session gives no report, and the child is still running. -/
theorem child_left_by_untimelyWait :
    ∃ bed, Bed.ofDocument default (waitingBed (.text "5")) = .ok bed ∧
      let setup : Setup := { budget := 9, patience := 9 }
      let r := Session.run bed setup none (Session.new bed setup endlessChild)
      r.1 = .error (.crashed (.notANumber "str" "int")) ∧
      r.2.world.children.map (·.status) = #[.running] := by
  refine ⟨_, rfl, ?_, ?_⟩
  · decide +kernel
  · decide +kernel

end Session

end Sweep
