import Sweep.Estimator.Recent
import Sweep.Proofs.Metering
import Sweep.Proofs.Saving
import Sweep.Proofs.Walking

/-!
# The progress file is written anew

The progress file has one line for each meter.  It is overwritten in place again and again, by texts that
grow and shrink, and older text is covered by blanks, which are covered in turn.

* `Supervision.Progressed` — what happens to a progress file that is open: it is written, or writing it is
  refused, loop variables take positions, and other things happen;
* `longest`, `fileAfter` — how long a file is after some texts and what it holds; `length_fileAfter`;
* `writeProgress_of_text`, `writeProgress_of_refusal` — one write, and one that is refused;
* `Stands` — the file and the meters after all this; `Stands.visit` and `Stands.write` are the steps, and
  `Stands.progress` puts them together;
* `openProgress_of_free` — the file is opened with what it held, or made.

The main statement is `progress_file_rewritten`.
-/

namespace Sweep

open Text (Bytes utf8)

/-! ### Lines of meters -/

/-- The text of a progress file has the line of each meter, in their order. -/
theorem Crew.lines_of_progressText {c : Crew} {now : Nat} {text : String}
    (h : c.progressText now = .ok text) :
    ∃ lines, text = String.join lines ∧
      List.Forall₂ (fun m line => ∃ summary, m.2.summary c.estimator now = .ok summary ∧
        line = summary ++ "\n") c.meters lines := by
  obtain ⟨lines, each, joined⟩ := exists_of_bind_ok h
  obtain rfl := Except.ok.inj joined
  refine ⟨lines, rfl, (forall₂_of_mapM each).imp ?_⟩
  rintro ⟨x, m⟩ line shown
  obtain ⟨summary, told, same⟩ := exists_of_bind_ok shown
  exact ⟨summary, told, (Except.ok.inj same).symm⟩

namespace Supervision

variable {v u u' : Supervision} {h : Disk.Handle} {used : List NameId} {texts : List String}
  {text : String} {initial : Bytes} {q : Pathname}

/-! ### One file after some texts -/

/-- The most bytes that there were so far. -/
def longest (initial : Bytes) (texts : List String) : Nat :=
  texts.foldl (fun n text => max n (utf8 text).length) initial.length

/-- What a file holds after some texts: the last one, and blanks. -/
def fileAfter (initial : Bytes) (texts : List String) : Bytes :=
  match texts.getLast? with
  | none => initial
  | some text => utf8 text ++ List.replicate (longest initial texts - (utf8 text).length) 32

theorem longest_snoc (initial : Bytes) (texts : List String) (text : String) :
    longest initial (texts ++ [text]) = max (longest initial texts) (utf8 text).length := by
  simp [longest]

theorem fileAfter_snoc (initial : Bytes) (texts : List String) (text : String) :
    fileAfter initial (texts ++ [text]) =
      utf8 text ++ List.replicate (longest initial texts - (utf8 text).length) 32 := by
  have blanks : max (longest initial texts) (utf8 text).length - (utf8 text).length
      = longest initial texts - (utf8 text).length := by omega
  simp only [fileAfter, List.getLast?_append, List.getLast?_singleton, Option.some_or, longest_snoc,
    blanks]

/-- **The file is as long as the longest text so far**, and never shorter than it was. -/
theorem length_fileAfter (initial : Bytes) (texts : List String) :
    (fileAfter initial texts).length = longest initial texts := by
  rcases List.eq_nil_or_concat texts with rfl | ⟨before, text, rfl⟩
  · rfl
  · rw [List.concat_eq_append, fileAfter_snoc, longest_snoc, List.length_append, List.length_replicate]
    omega

/-! ### What happens to a file that is open -/

/-- What happens to a progress file from when it is opened: which loop variables took positions since there
were no meters, and which texts were written. -/
inductive Progressed (h : Disk.Handle) (v : Supervision) :
    List NameId → List String → Supervision → Prop
  | opened : Progressed h v [] [] v
  /-- Something happens that concerns neither the file nor which meters there are. -/
  | elsewhere {used : List NameId} {texts : List String} {u u' : Supervision}
      (before : Progressed h v used texts u) (same : u'.crew.progress = u.crew.progress)
      (bytes : u'.world.disk.bytesAt h.name = u.world.disk.bytesAt h.name)
      (meters : u'.crew.meters.map Prod.fst = u.crew.meters.map Prod.fst) :
      Progressed h v used texts u'
  /-- The meters are dropped, as at the end of a program. -/
  | dropped {used : List NameId} {texts : List String} {u : Supervision}
      (before : Progressed h v used texts u) :
      Progressed h v [] texts { u with crew := { u.crew with meters := [] } }
  | visited {used : List NameId} {texts : List String} {u : Supervision}
      (before : Progressed h v used texts u) (names : NameTable) (x : NameId) (position : Int)
      (value : Value) (s : Scopes) :
      Progressed h v (used ++ [x]) texts (u.visit names x position value s).2
  | written {used : List NameId} {texts : List String} {u u' : Supervision} {text : String}
      (before : Progressed h v used texts u)
      (shown : u.crew.progressText u.world.now = .ok text) (write : u.writeProgress = (.ok (), u')) :
      Progressed h v used (texts ++ [text]) u'
  | refused {used : List NameId} {texts : List String} {u u' : Supervision} {c : Crash}
      (before : Progressed h v used texts u) (write : u.writeProgress = (.error c, u')) :
      Progressed h v used texts u'

/-- A loop variable that takes a position concerns its meter. -/
theorem visit_concerns (names : NameTable) (x : NameId) (position : Int) (value : Value) (s : Scopes)
    (v : Supervision) :
    let v' := (v.visit names x position value s).2
    v'.crew.progress = v.crew.progress ∧ v'.world.disk = v.world.disk ∧
      v'.crew.meters.map Prod.fst =
        if x ∈ v.crew.meters.map Prod.fst then v.crew.meters.map Prod.fst
        else v.crew.meters.map Prod.fst ++ [x] := by
  simp only [visit]
  split <;> exact ⟨rfl, rfl, Assoc.keys_set _ _ _⟩

theorem openProgress_of_opened (opened : v.crew.progress = .opened h) : v.openProgress = v := by
  rw [openProgress, opened]

/-- **One write.** -/
theorem writeProgress_of_text (opened : v.crew.progress = .opened ⟨q, .file []⟩)
    (shown : v.crew.progressText v.world.now = .ok text) :
    v.writeProgress = (.ok (), { v with world := { v.world with
      disk := Assoc.set q (.file (utf8 text ++
        List.replicate ((v.world.disk.bytesAt q).length - (utf8 text).length) 32)) v.world.disk } }) := by
  simp only [writeProgress, openProgress_of_opened opened, opened, shown, Disk.overwrite]

/-- A write that is refused, since a meter has no line. -/
theorem writeProgress_of_refusal {c : Crash} (opened : v.crew.progress = .opened h)
    (unshown : v.crew.progressText v.world.now = .error c) : v.writeProgress = (.error c, v) := by
  simp only [writeProgress, openProgress_of_opened opened, opened, unshown]

/-- A file that is open, after some loop variables took positions and some texts were written. -/
structure Stands (q : Pathname) (initial : Bytes) (used : List NameId) (texts : List String)
    (v : Supervision) : Prop where
  opened : v.crew.progress = .opened ⟨q, .file []⟩
  /-- There is a meter for each variable, in the order of first use. -/
  metered : v.crew.meters.map Prod.fst = used.eraseDups
  bytes : v.world.disk.bytesAt q = fileAfter initial texts

theorem Stands.visit (stands : Stands q initial used texts v) (names : NameTable) (x : NameId)
    (position : Int) (value : Value) (s : Scopes) :
    Stands q initial (used ++ [x]) texts (v.visit names x position value s).2 := by
  obtain ⟨progress, disk, meters⟩ := visit_concerns names x position value s v
  refine ⟨progress.trans stands.opened, ?_, ?_⟩
  · rw [meters, eraseDups_snoc, stands.metered]
  · rw [disk]
    exact stands.bytes

/-- **One write**, which covers what the earlier ones left. -/
theorem Stands.write (stands : Stands q initial used texts v)
    (shown : v.crew.progressText v.world.now = .ok text) :
    ∃ v', v.writeProgress = (.ok (), v') ∧ Stands q initial used (texts ++ [text]) v' := by
  refine ⟨_, writeProgress_of_text stands.opened shown, stands.opened, stands.metered, ?_⟩
  show Disk.bytesAt (Assoc.set q _ v.world.disk) q = _
  rw [Disk.bytesAt_set_file, stands.bytes, length_fileAfter, fileAfter_snoc]

/-- **Whatever happens, the file is the last text and blanks.** -/
theorem Stands.progress (stands : Stands q initial [] [] v)
    (progressed : Progressed ⟨q, .file []⟩ v used texts u) : Stands q initial used texts u := by
  induction progressed with
  | opened => exact stands
  | elsewhere before same bytes meters ih =>
    exact ⟨same.trans ih.opened, meters.trans ih.metered, bytes.trans ih.bytes⟩
  | dropped before ih => exact ⟨ih.opened, rfl, ih.bytes⟩
  | visited before names x position value s ih => exact ih.visit names x position value s
  | written before shown write ih =>
    obtain ⟨v', wrote, after⟩ := ih.write shown
    obtain rfl := (Prod.mk.inj (wrote.symm.trans write)).2
    exact after
  | @refused used texts u u' c before write ih =>
    cases shown : u.crew.progressText u.world.now with
    | ok text =>
      obtain ⟨v', wrote, -⟩ := ih.write shown
      cases (Prod.mk.inj (wrote.symm.trans write)).1
    | error e =>
      obtain rfl := (Prod.mk.inj ((writeProgress_of_refusal ih.opened shown).symm.trans write)).2
      exact ih

/-! ### Opening the file -/

/-- **The file is opened with what it held, or made.** -/
theorem openProgress_of_free {path : Pathname} {d : Disk} {initial : Option Bytes}
    (closed : v.crew.progress = .closed path)
    (made : v.world.disk.makeDirectories path.parent = (.ok (), d)) (located : d.locate path = .ok q)
    (free : d.entryAt? q = initial.map .file) (fresh : v.crew.meters = []) :
    Stands q (initial.getD []) [] [] v.openProgress ∧ v.openProgress.writeProgress = v.writeProgress := by
  have opens : d.openFile path false
      = .ok (⟨q, .file []⟩, Assoc.set q (.file (initial.getD [])) d) := by
    cases initial with
    | none => simp only [Disk.openFile, located, free, Option.map_none, Option.getD_none]
    | some bytes =>
      simp only [Disk.openFile, located, free, Option.map_some, Option.getD_some, Bool.false_eq_true,
        if_false]
  have opened : v.openProgress =
      { crew := { v.crew with progress := .opened ⟨q, .file []⟩ }
        world := { v.world with disk := Assoc.set q (.file (initial.getD [])) d } } := by
    simp only [openProgress, closed, made, Except.bind, opens]
  have stands : Stands q (initial.getD []) [] [] v.openProgress := by
    rw [opened]
    exact ⟨rfl, by rw [fresh]; rfl, Disk.bytesAt_set_file _ _ _⟩
  refine ⟨stands, ?_⟩
  rw [writeProgress, openProgress_of_opened stands.opened, writeProgress]

/-- **What a progress file holds.**  The file is where it can be made or is already, with whatever
content, no loop variable has taken a position yet, and estimates are made in whatever way.  The first write
opens the file, and from then on, at every moment of every history,

* the meters are those of the loop variables, in the order of first use;
* the file holds the last text that was written, and then blanks, and its length is the greatest of all
  lengths so far, that of the initial content included;
* one more write puts the lines of all meters there, in their order, and if a meter has no line, since the
  estimator fails or a number cannot be written, then the write is refused and changes nothing. -/
theorem progress_file_rewritten {path : Pathname} {d : Disk} {initial : Option Bytes}
    (closed : v.crew.progress = .closed path) (fresh : v.crew.meters = [])
    (made : v.world.disk.makeDirectories path.parent = (.ok (), d)) (located : d.locate path = .ok q)
    (free : d.entryAt? q = initial.map .file) :
    v.openProgress.writeProgress = v.writeProgress ∧
    ∀ used texts u, Progressed ⟨q, .file []⟩ v.openProgress used texts u →
      u.crew.meters.map Prod.fst = used.eraseDups ∧
      u.world.disk.bytesAt q = fileAfter (initial.getD []) texts ∧
      (u.world.disk.bytesAt q).length
        = texts.foldl (fun n text => max n (utf8 text).length) (initial.getD []).length ∧
      ((∃ lines u',
          List.Forall₂ (fun m line => ∃ summary, m.2.summary u.crew.estimator u.world.now = .ok summary ∧
            line = summary ++ "\n") u.crew.meters lines ∧
          u.writeProgress = (.ok (), u') ∧
          u'.world.disk.bytesAt q = utf8 (String.join lines) ++
            List.replicate ((u.world.disk.bytesAt q).length - (utf8 (String.join lines)).length) 32 ∧
          Progressed ⟨q, .file []⟩ v.openProgress used (texts ++ [String.join lines]) u') ∨
        ∃ c, (∃ m ∈ u.crew.meters, m.2.summary u.crew.estimator u.world.now = .error c ∧
            m.2.Mute u.crew.estimator u.world.now c) ∧
          u.writeProgress = (.error c, u)) := by
  obtain ⟨stands, first⟩ := openProgress_of_free closed made located free fresh
  refine ⟨first, fun used texts u progressed => ?_⟩
  have now := stands.progress progressed
  have length : (u.world.disk.bytesAt q).length = longest (initial.getD []) texts := by
    rw [now.bytes, length_fileAfter]
  refine ⟨now.metered, now.bytes, length, ?_⟩
  cases shown : u.crew.progressText u.world.now with
  | ok text =>
    obtain ⟨lines, rfl, each⟩ := Crew.lines_of_progressText shown
    obtain ⟨u', wrote, after⟩ := now.write shown
    refine .inl ⟨lines, u', each, wrote, ?_, .written progressed shown wrote⟩
    rw [after.bytes, fileAfter_snoc, length]
  | error c =>
    exact .inr ⟨c, Crew.mute_of_progressText shown, writeProgress_of_refusal now.opened shown⟩

/-- A line of 15 bytes covers a text of 16 bytes, and a blank covers the rest. -/
theorem progress_file_rewritten_longerContent :
    let file : Pathname := ⟨.workspace, ["p"]⟩
    let disk : Disk := [(file, .file (utf8 "older and longer"))]
    let v : Supervision :=
      { crew := { progress := .closed ⟨.relative, ["p"]⟩, estimator := .recent }, world := { disk } }
    let u := (v.openProgress.visit ⟨["x"]⟩ 0 0 (.counter 0 2 0) []).2
    v.crew.progress = .closed ⟨.relative, ["p"]⟩ ∧ v.crew.meters = [] ∧
      disk.makeDirectories ⟨.relative, []⟩ = (.ok (), disk) ∧
      disk.locate ⟨.relative, ["p"]⟩ = .ok file ∧
      disk.entryAt? file = (some (utf8 "older and longer")).map .file ∧
      u.crew.meters.map Prod.fst = [0] ∧
      ∃ u', u.writeProgress = (.ok (), u') ∧
        u'.world.disk.bytesAt file = utf8 "x 0/2 ? : 0s 0\n" ++ [32] ∧
        (u'.world.disk.bytesAt file).length = 16 := by
  intro file disk v u
  have made : disk.makeDirectories ⟨.relative, []⟩ = (.ok (), disk) := by decide +kernel
  have located : disk.locate ⟨.relative, ["p"]⟩ = .ok file := by decide +kernel
  have free : disk.entryAt? file = (some (utf8 "older and longer")).map .file := by decide +kernel
  obtain ⟨-, history⟩ := progress_file_rewritten (v := v) rfl rfl made located free
  have used : Progressed ⟨file, .file []⟩ v.openProgress [0] [] u :=
    .visited .opened ⟨["x"]⟩ 0 0 (.counter 0 2 0) []
  obtain ⟨metered, -, -, written⟩ := history _ _ _ used
  refine ⟨rfl, rfl, made, located, free, metered, ?_⟩
  rcases written with ⟨lines, u', -, wrote, -, more⟩ | ⟨e, -, refused⟩
  · obtain ⟨-, -, length, -⟩ := history _ _ _ more
    have after : u' = u.writeProgress.2 := by rw [wrote]
    have bytes : u'.world.disk.bytesAt file = utf8 "x 0/2 ? : 0s 0\n" ++ [32] := by
      rw [after]
      decide +kernel
    exact ⟨u', wrote, bytes, by rw [bytes]; decide +kernel⟩
  · have returns : u.writeProgress.1.toBool = true := by decide +kernel
    rw [refused] at returns
    cases returns

/-- **Some writes are refused**, and the older bytes stay.  A time that is left may be too long to be
calculated, and a total may have too many digits to be written, whatever the estimator. -/
theorem progress_file_kept_of_hugeTotal :
    let file : Pathname := ⟨.workspace, ["p"]⟩
    let m (total : Int) : Meter := ((Meter.new "x" total 0).set 1 1000000).set 2 2000000
    let v (e : Estimator) (total : Int) : Supervision :=
      { crew := { meters := [(0, m total)], progress := .opened ⟨file, .file []⟩, estimator := e }
        world := { now := 3000000, disk := [(file, .file (utf8 "old"))] } }
    ((v .recent (10 ^ 400)).writeProgress.1.toOption = none ∧
      (v .recent (10 ^ 400)).writeProgress.2.world.disk.bytesAt file = utf8 "old") ∧
    ∀ e, ∃ c, (v e (10 ^ 4300)).writeProgress = (.error c, v e (10 ^ 4300)) := by
  intro file m v
  refine ⟨by decide +kernel, fun e => ?_⟩
  have long : Text.isWritable (10 ^ 4300) = false := by decide +kernel
  generalize (10 ^ 4300 : Int) = total at long
  cases shown : (v e total).crew.progressText 3000000 with
  | error c => exact ⟨c, writeProgress_of_refusal rfl shown⟩
  | ok text =>
    obtain ⟨lines, -, each⟩ := Crew.lines_of_progressText shown
    obtain ⟨_, _, ⟨summary, told, -⟩, -, -⟩ := List.forall₂_cons_left_iff.1 each
    exact absurd told (Meter.summary_ne_ok long)

end Supervision

end Sweep
