import Sweep.Proofs.Deciphering
import Sweep.Proofs.Locating

/-!
# What the paths of a bed name

A path is a text before it is read, and every name in it is one that the grammar allows.  So is every path
of a bed that was read: the names in it, those of fields and of keys in brackets included, stand in the
table of the bed and can be written as names.

* `Reading.Lasting` — a reader only adds names, and what holds of its answer holds in all tables that come
  later; with one lemma for each way to put readers together;
* `Interpolation.paths`, `Expr.paths`, `Statement.pathsIn`, `Bed.paths` — every path that there is;
* `Path.lasting_read` — a path that was read is sound, and stays so;
* one lemma for each reader, from interpolations up to blocks (`Statement.lasting_readBlock`);
* `Dialect.Sound` — the commands of a kind of program are read like that.

The main statement is `Bed.sound_paths`, and `Path.knows_of_mem_names` says what it is good for.
-/

namespace Sweep

/-! ### Readers that add names -/

namespace Reading

variable {α β : Type} {r : Reading α} {Q S : NameTable → α → Prop}

/-- A reader adds names and forgets none, whether it gives an answer or not, and what holds of an answer
holds in every table that comes later. -/
structure Lasting (r : Reading α) (Q : NameTable → α → Prop) : Prop where
  grows : ∀ t : NameTable, t.Grows (r.run t).2
  lasts : ∀ {t a u}, r.Gives t a u → ∀ v : NameTable, v.Extends u → Q v a

theorem lasting_pure {a : α} (h : ∀ v, Q v a) : Lasting (pure a) Q where
  grows := .refl
  lasts given v _ := (gives_pure.1 given).1 ▸ h v

theorem lasting_throw (e : Refusal) : Lasting (throw e : Reading α) Q where
  grows := .refl
  lasts given := nomatch given

theorem lasting_stop (location : String) (f : Flaw) : Lasting (stop location f : Reading α) Q :=
  lasting_throw _

/-- **What is read first lasts while the rest is read.** -/
theorem Lasting.bind {next : α → Reading β} {T : NameTable → β → Prop} (first : Lasting r Q)
    (rest : ∀ a, Lasting (next a) fun v b => Q v a → T v b) : Lasting (r >>= next) T where
  grows t := by
    show t.Grows ((ExceptT.bindCont next (r.run t).1).run (r.run t).2).2
    have grown := first.grows t
    rcases hrun : r.run t with ⟨e | a, u⟩
    · rw [hrun] at grown
      exact grown
    · rw [hrun] at grown
      exact grown.trans ((rest a).grows u)
  lasts given v later := by
    obtain ⟨a, u, given₁, given₂⟩ := gives_bind.1 given
    have grown : u.Grows _ := (rest a).grows u
    rw [show (next a).run u = _ from given₂] at grown
    exact (rest a).lasts given₂ v later (first.lasts given₁ v (later.trans grown.keeps))

theorem Lasting.imp (h : Lasting r Q) (hQS : ∀ v a, Q v a → S v a) : Lasting r S :=
  ⟨h.grows, fun given v later => hQS v _ (h.lasts given v later)⟩

/-- What was read first says nothing about the rest. -/
theorem Lasting.andThen {next : α → Reading β} {T : NameTable → β → Prop} (first : Lasting r Q)
    (rest : ∀ a, Lasting (next a) T) : Lasting (r >>= next) T :=
  first.bind fun a => (rest a).imp fun _ _ holds _ => holds

/-- An answer that is put into a larger one. -/
theorem Lasting.pure_of {f : α → β} {T : NameTable → β → Prop} (h : Lasting r Q)
    (hT : ∀ v a, Q v a → T v (f a)) : Lasting (r >>= fun a => pure (f a)) T :=
  h.bind fun a => lasting_pure fun v => hT v a

/-- **The number of a name lasts.** -/
theorem lasting_intern (name : String) : Lasting (intern name) fun v x => v.nameOf? x = some name where
  grows t := t.grows_intern name
  lasts {t x u} given v later := by
    have known := t.nameOf?_intern name
    rw [gives_intern.1 given] at known
    exact later.nameOf? known

theorem lasting_written (text : Option String) : Lasting (written text) fun _ _ => True := by
  cases text with
  | none => exact lasting_throw _
  | some s => exact lasting_pure fun _ => trivial

theorem lasting_refuseKeys (location : String) (flaw : String → Flaw) (keys : List Key) :
    Lasting (refuseKeys location flaw keys) fun _ _ => True := by
  rw [refuseKeys]
  split
  · exact lasting_pure fun _ => trivial
  · exact (lasting_written _).andThen fun _ => lasting_stop _ _

/-- A reader that first checks something and stops when it holds. -/
theorem lasting_of_check {stops : Prop} [Decidable stops] {location : String} {f : Flaw}
    {next : PUnit → Reading α} (h : Lasting (next ⟨⟩) Q) :
    Lasting (if stops then stop location f >>= next else next ⟨⟩) Q := by
  split
  · exact (lasting_stop location f (Q := fun _ _ => True)).andThen fun _ => h
  · exact h

/-- A reader that first checks something and stops unless it holds. -/
theorem lasting_of_need {needs : Prop} [Decidable needs] {location : String} {f : Flaw}
    {next : PUnit → Reading α} (h : Lasting (next ⟨⟩) Q) :
    Lasting (if needs then next ⟨⟩ else stop location f >>= next) Q := by
  split
  · exact h
  · exact (lasting_stop location f (Q := fun _ _ => True)).andThen fun _ => h

theorem lasting_mapM {read : α → Reading β} {P : NameTable → β → Prop}
    (h : ∀ a, Lasting (read a) P) (xs : List α) :
    Lasting (xs.mapM read) fun v ys => ∀ y ∈ ys, P v y := by
  induction xs with
  | nil => exact lasting_pure fun v y hy => nomatch hy
  | cons a xs ih =>
    rw [List.mapM_cons]
    refine (h a).bind fun y => (ih.pure_of fun v ys hys hy => ?_)
    exact List.forall_mem_cons.2 ⟨hy, hys⟩

end Reading

open Reading

/-! ### All paths -/

/-- The paths of an interpolated text. -/
def Interpolation.paths (parts : Interpolation) : List Path :=
  parts.filterMap fun
    | .hole path => some path
    | .literal _ => none

/-- The paths of a bound. -/
def Bound.paths : Bound → List Path
  | fixed _ => []
  | computed text => text.paths

namespace Expr

mutual

/-- The paths of an expression. -/
def paths : Expr → List Path
  | struct base fields => base.paths ++ fieldPaths fields
  | list items => itemPaths items
  | range start stop => start.paths ++ stop.paths
  | copy path => [path]

def itemPaths : List Expr → List Path
  | [] => []
  | e :: rest => e.paths ++ itemPaths rest

def fieldPaths : List (NameId × Expr) → List Path
  | [] => []
  | (_, e) :: rest => e.paths ++ fieldPaths rest

end

end Expr

/-- The paths of what a loop walks over; a variable is no path any more. -/
def Target.paths : Target → List Path
  | elements _ => []
  | range start stop => start.paths ++ stop.paths

def Build.paths (b : Build) : List Path := b.template.paths ++ b.output.paths

def BuiltBase.paths : BuiltBase → List Path
  | text t => t.paths
  | file b => b.paths

def BuiltField.paths : BuiltField → List Path
  | value e => e.paths
  | file b => b.paths

def BuiltExpr.paths (b : BuiltExpr) : List Path := b.base.paths ++ b.fields.flatMap (·.2.paths)

def Product.paths : Product → List Path
  | built b => b.paths
  | plain e => e.paths

def RenderCommand.paths : RenderCommand → List Path
  | bind _ object => object.paths
  | yield _ object => object.paths

def Routing.paths : Routing Interpolation → List Path
  | print => []
  | create path | append path => path.paths

def Argument.paths : Argument → List Path
  | one text => text.paths
  | spread path => [path]

def Launch.paths (l : Launch) : List Path :=
  l.command.paths ++ l.arguments.flatMap Argument.paths ++ l.stdout.paths ++ l.stderr.paths ++
    (l.directory.map Interpolation.paths).getD []

def Command.paths : Command → List Path
  | spawn l => l.paths
  | limit _ | sleep _ | wait _ _ => []

/-- The paths of an instruction, given those of a command. -/
def Instruction.paths {κ : Type} (command : κ → List Path) : Instruction κ → List Path
  | create _ e _ | assign _ e _ | push _ e => e.paths
  | start t _ _ | advance t _ _ => t.paths
  | branch guard _ => [guard]
  | .command c => command c
  | pushScope | popScope | goto _ => []

namespace Statement

variable {κ : Type}

mutual

/-- The paths of a statement. -/
def paths (command : κ → List Path) : Statement κ → List Path
  | single i _ => i.paths command
  | loop _ vars body _ => vars.flatMap (·.2.paths) ++ pathsIn command body
  | guarded guards body _ => guards ++ pathsIn command body

def pathsIn (command : κ → List Path) : List (Statement κ) → List Path
  | [] => []
  | s :: rest => paths command s ++ pathsIn command rest

end

theorem pathsIn_append (command : κ → List Path) (ts us : List (Statement κ)) :
    pathsIn command (ts ++ us) = pathsIn command ts ++ pathsIn command us := by
  induction ts with
  | nil => rfl
  | cons t ts ih => simp only [List.cons_append, pathsIn, ih, List.append_assoc]

end Statement

/-- The paths of all programs of a bed. -/
def Bed.paths (bed : Bed) : List Path :=
  Statement.pathsIn RenderCommand.paths bed.globals ++
    bed.templates.flatMap (fun e => Statement.pathsIn RenderCommand.paths e.2) ++
    bed.commands.flatMap (fun e => Statement.pathsIn Command.paths e.2)

/-! ### Names of paths -/

mutual

/-- The names in a path: those of its steps, and those of the paths in brackets. -/
def Path.names : Path → List NameId
  | .last x pick => x :: pick.names
  | .dot x pick field => x :: pick.names ++ field.names

def Pick.names : Pick → List NameId
  | .whole | .at _ => []
  | .by key => key.names

end

mutual

/-- **The names in a sound path are known.** -/
theorem Path.knows_of_mem_names {t : NameTable} :
    (p : Path) → p.Sound t → ∀ x ∈ p.names, t.Knows x
  | .last y pick, ⟨known, picked⟩, x, hx => by
    rw [Path.names] at hx
    rcases List.mem_cons.1 hx with rfl | hx
    · exact known
    · exact Pick.knows_of_mem_names pick picked x hx
  | .dot y pick field, ⟨known, picked, gone⟩, x, hx => by
    rw [Path.names, List.mem_append] at hx
    rcases hx with hx | hx
    · rcases List.mem_cons.1 hx with rfl | hx
      · exact known
      · exact Pick.knows_of_mem_names pick picked x hx
    · exact Path.knows_of_mem_names field gone x hx

theorem Pick.knows_of_mem_names {t : NameTable} :
    (pick : Pick) → pick.Sound t → ∀ x ∈ pick.names, t.Knows x
  | .whole, _, _, hx | .at _, _, _, hx => by cases hx
  | .by key, known, x, hx => Path.knows_of_mem_names key known x hx

end

/-! ### Paths -/

/-- All of some paths are sound. -/
def AllSound (t : NameTable) (paths : List Path) : Prop := ∀ p ∈ paths, p.Sound t

namespace AllSound

variable {t : NameTable} {ps qs : List Path}

theorem nil (t : NameTable) : AllSound t [] := fun _ h => nomatch h

theorem single {p : Path} (h : p.Sound t) : AllSound t [p] := fun _ hq => List.mem_singleton.1 hq ▸ h

theorem append (hp : AllSound t ps) (hq : AllSound t qs) : AllSound t (ps ++ qs) := fun p h =>
  (List.mem_append.1 h).elim (hp p) (hq p)

theorem flatMap {ι : Type} {xs : List ι} {f : ι → List Path} (h : ∀ x ∈ xs, AllSound t (f x)) :
    AllSound t (xs.flatMap f) := by
  intro p hp
  obtain ⟨x, hx, hp⟩ := List.mem_flatMap.1 hp
  exact h x hx p hp

end AllSound

namespace Path

variable {location text : String}

/-- Reading a path only adds names, also when it stops on the way. -/
theorem lasting_readAt (budget : Nat) (c : Cursor) :
    Lasting (readAt location text budget c) fun _ _ => True := by
  induction budget generalizing c with
  | zero => exact lasting_stop _ _
  | succ budget ih =>
    have bracket (c : Cursor) : Lasting (readBracket location text c) fun _ _ => True := by
      rw [readBracket]
      split
      · exact lasting_pure fun _ => trivial
      · exact lasting_stop _ _
    have position (digits : List Char) : Lasting (readPosition digits) fun _ _ => True := by
      rw [readPosition]
      split
      · split
        · exact lasting_pure fun _ => trivial
        · exact lasting_throw _
      · exact lasting_throw _
    have pick (c : Cursor) : Lasting (readPick location text budget c) fun _ _ => True := by
      rw [readPick.eq_def]
      split
      · split
        · exact (ih _).bind fun found => (bracket _).pure_of fun _ _ _ _ => trivial
        · exact (position _).bind fun n => (bracket _).pure_of fun _ _ _ _ => trivial
      · exact lasting_pure fun _ => trivial
    have field (x : NameId) (pick : Pick) (c : Cursor) :
        Lasting (readField location text budget x pick c) fun _ _ => True := by
      rw [readField.eq_def]
      split
      · exact (ih _).pure_of fun _ _ _ => trivial
      · exact lasting_pure fun _ => trivial
    rw [readAt_succ]
    split
    · exact lasting_stop _ _
    · refine (lasting_intern _).bind fun x => ?_
      exact (pick _).bind fun found => (field _ _ _).imp fun _ _ _ _ _ => trivial

/-- **A path that was read is sound**, and stays so. -/
theorem lasting_read (location : String) (text : List Char) :
    Lasting (read location text) fun v p => p.Sound v where
  grows := by
    have path : Lasting (read location text) fun _ _ => True := by
      rw [read]
      refine (lasting_readAt _ _).bind fun found => ?_
      dsimp only
      split
      · exact lasting_pure fun _ _ => trivial
      · exact lasting_stop _ _
    exact path.grows
  lasts given v later := (gives_read_iff.1 given).grows_and_sound.2.mono later _

theorem lasting_ofString (location text : String) :
    Lasting (ofString location text) fun v p => p.Sound v := lasting_read location _

end Path

/-! ### Expressions -/

theorem Interpolation.lasting_read (location text : String) :
    Lasting (read location text) fun v parts => AllSound v parts.paths := by
  rw [read]
  induction pieces text.toList with
  | nil => exact lasting_pure fun v => .nil v
  | cons piece rest ih =>
    cases piece with
    | literal chars => exact ih.pure_of fun v parts sound => sound
    | hole chars =>
      refine (Path.lasting_read location chars).bind fun path => ih.pure_of fun v parts sound hpath => ?_
      exact (AllSound.single hpath).append sound
    | unclosed => exact lasting_stop _ _

namespace Bound

variable {location : String}

theorem lasting_read (d : Document) : Lasting (read location d) fun v b => AllSound v b.paths := by
  rw [read.eq_def]
  split
  · exact lasting_stop _ _
  · exact lasting_pure fun v => .nil v
  · exact (Interpolation.lasting_read _ _).pure_of fun v parts sound => sound
  · exact lasting_stop _ _

theorem lasting_readPair (d : Document) :
    Lasting (readPair location d) fun v b => AllSound v (b.1.paths ++ b.2.paths) := by
  rw [readPair.eq_def]
  split
  · refine (lasting_read _).bind fun a => (lasting_read _).pure_of fun v b hb ha => ?_
    exact ha.append hb
  · exact lasting_stop _ _

end Bound

namespace Expr

theorem lasting_readScalar (location : String) (d : Document) :
    Lasting (readScalar location d) fun v text => AllSound v text.paths :=
  (lasting_written _).andThen fun _ => Interpolation.lasting_read location _

theorem lasting_readPath (location : String) (d : Document) :
    Lasting (readPath location d) fun v path => path.Sound v :=
  (lasting_written _).andThen fun _ => Path.lasting_ofString location _

mutual

/-- **The paths of an expression are sound**, by induction over the document. -/
theorem lasting_read (location : String) (d : Document) :
    Lasting (read location d) fun v e => AllSound v e.paths := by
  match d with
  | .list items => exact (lasting_readItems location 0 items).pure_of fun v es sound => by rwa [paths]
  | .mapping entries =>
    rw [read]
    split
    · refine lasting_of_check ((Bound.lasting_readPair _).bind fun b => lasting_pure fun v sound => ?_)
      rwa [paths]
    · refine lasting_of_check ((lasting_readPath _ _).pure_of fun v path sound => ?_)
      rw [paths]
      exact .single sound
    · refine (lasting_readScalar _ _).bind fun text => ?_
      refine (lasting_readFields location entries).pure_of fun v fields hfields htext => ?_
      rw [paths]
      exact htext.append hfields
    · exact lasting_stop _ _
  | .null | .bool _ | .int _ | .float _ | .text _ =>
    refine (lasting_readScalar _ _).pure_of fun v text sound => ?_
    rw [paths]
    exact sound.append (.nil v)

theorem lasting_readItems (location : String) (i : Nat) (ds : List Document) :
    Lasting (readItems location i ds) fun v es => AllSound v (itemPaths es) := by
  match ds with
  | [] => exact lasting_pure fun v => .nil v
  | d :: rest =>
    rw [readItems]
    refine (lasting_read _ d).bind fun e => ?_
    refine (lasting_readItems location (i + 1) rest).pure_of fun v es hes he => ?_
    rw [itemPaths]
    exact he.append hes

theorem lasting_readFields (location : String) (entries : List (Key × Document)) :
    Lasting (readFields location entries) fun v fields => AllSound v (fieldPaths fields) := by
  match entries with
  | [] => exact lasting_pure fun v => .nil v
  | (key, d) :: rest =>
    have others := lasting_readFields location rest
    rw [readFields]
    split
    · exact others
    · refine (lasting_written _).andThen fun name => (lasting_intern _).andThen fun x => ?_
      refine Lasting.bind (lasting_read _ d) fun e => others.pure_of fun v fields hfields he => ?_
      rw [fieldPaths]
      exact he.append hfields

end

end Expr

/-! ### Commands -/

section Commands

variable {location : String}

theorem Build.lasting_read (d : Document) : Lasting (read location d) fun v b => AllSound v b.paths := by
  rw [read.eq_def]
  split
  · refine (Expr.lasting_readScalar _ _).bind fun template => ?_
    exact (Expr.lasting_readScalar _ _).pure_of fun v output houtput htemplate =>
      htemplate.append houtput
  · exact lasting_stop _ _

namespace BuiltExpr

theorem lasting_readField (d : Document) :
    Lasting (readField location d) fun v field => AllSound v field.paths := by
  rw [readField.eq_def]
  split
  · exact (Build.lasting_read _).pure_of fun v b sound => sound
  · exact (Expr.lasting_read _ _).pure_of fun v e sound => sound

theorem lasting_readFields (entries : List (Key × Document)) :
    Lasting (readFields location entries) fun v fields => AllSound v (fields.flatMap (·.2.paths)) := by
  induction entries with
  | nil => exact lasting_pure fun v => .nil v
  | cons entry rest ih =>
    rw [readFields]
    split
    · exact ih
    · refine (lasting_written _).andThen fun name => (lasting_readField _).bind fun field => ?_
      refine (lasting_intern _).bind fun x => ih.pure_of fun v fields hfields _ hfield => ?_
      exact hfield.append hfields

theorem lasting_read (d : Document) : Lasting (read location d) fun v b => AllSound v b.paths := by
  rw [read.eq_def]
  split
  · split
    · refine (Build.lasting_read _).bind fun b => ?_
      exact (lasting_readFields _).pure_of fun v fields hfields hb => hb.append hfields
    · refine (Expr.lasting_readScalar _ _).bind fun text => ?_
      exact (lasting_readFields _).pure_of fun v fields hfields htext => htext.append hfields
    · exact lasting_stop _ _
  · exact (Expr.lasting_readScalar _ _).pure_of fun v text sound => sound.append (.nil v)

end BuiltExpr

namespace RenderCommand

theorem lasting_readEach {read : String → Document → Reading (NameId → RenderCommand)}
    (h : ∀ place d, Lasting (read place d) fun v make => ∀ x, AllSound v (make x).paths)
    (entries : List (Key × Document)) :
    Lasting (readEach location read entries) fun v commands =>
      ∀ c ∈ commands, AllSound v c.1.paths := by
  induction entries with
  | nil => exact lasting_pure fun v c hc => nomatch hc
  | cons entry rest ih =>
    refine (lasting_written _).andThen fun name => (h _ _).bind fun make => ?_
    refine (lasting_intern _).bind fun x => ih.pure_of fun v commands hcommands _ hmake => ?_
    exact List.forall_mem_cons.2 ⟨hmake x, hcommands⟩

theorem lasting_readYield (place : String) (d : Document) :
    Lasting (readYield place d) fun v make => ∀ x, AllSound v (make x).paths := by
  have yields (object : Product) :
      Lasting (pure object >>= fun object => pure (RenderCommand.yield · object)) fun v make =>
        AllSound v object.paths → ∀ x, AllSound v (make x).paths := by
    rw [pure_bind]
    exact lasting_pure fun v sound x => sound
  have plain : Lasting (Expr.read place d) fun v e => AllSound v e.paths := Expr.lasting_read place d
  rw [readYield.eq_def]
  split
  · dsimp only
    split
    · exact (BuiltExpr.lasting_read _).bind fun b => yields (.built b)
    · exact plain.bind fun e => yields (.plain e)
  · exact plain.bind fun e => yields (.plain e)

theorem lasting_readBindings (d : Document) : Lasting (readBindings location d) fun _ _ => True := by
  rw [readBindings.eq_def]
  split
  · exact lasting_pure fun _ => trivial
  · exact lasting_stop _ _

theorem lasting_readCommands (keyword : String) (d : Document) :
    Lasting (readCommands keyword location d) fun v commands => ∀ c ∈ commands, AllSound v c.1.paths := by
  refine (lasting_readBindings d).bind fun bindings => ?_
  refine (lasting_readEach (fun place d => ?_) bindings).imp fun _ _ sound _ => sound
  split
  · exact (BuiltExpr.lasting_read d).pure_of fun v object sound x => sound
  · exact lasting_readYield place d

end RenderCommand

namespace Launch

theorem lasting_readRouting (d : Document) :
    Lasting (readRouting location d) fun v routing => AllSound v routing.paths := by
  rw [readRouting.eq_def]
  split
  · exact lasting_pure fun v => .nil v
  · exact lasting_pure fun v => .nil v
  · exact (Expr.lasting_readScalar _ _).pure_of fun v path sound => sound
  · exact (Expr.lasting_readScalar _ _).pure_of fun v path sound => sound
  · exact lasting_stop _ _

theorem lasting_readArgument (d : Document) :
    Lasting (readArgument location d) fun v argument => AllSound v argument.paths := by
  rw [readArgument.eq_def]
  split
  · exact (Expr.lasting_readPath _ _).pure_of fun v path sound => .single sound
  · exact lasting_stop _ _
  · exact (Expr.lasting_readScalar _ _).pure_of fun v text sound => sound

theorem lasting_readArguments (i : Nat) (ds : List Document) :
    Lasting (readArguments location i ds) fun v arguments =>
      AllSound v (arguments.flatMap Argument.paths) := by
  induction ds generalizing i with
  | nil => exact lasting_pure fun v => .nil v
  | cons d rest ih =>
    refine (lasting_readArgument d).bind fun argument => ?_
    exact (ih (i + 1)).pure_of fun v arguments harguments hargument => hargument.append harguments

theorem lasting_read (d : Document) : Lasting (read location d) fun v l => AllSound v l.paths := by
  rw [read.eq_def]
  split
  · refine (Interpolation.lasting_read _ _).pure_of fun v command sound => ?_
    exact (((sound.append (.nil v)).append (.nil v)).append (.nil v)).append (.nil v)
  · next entries =>
    split
    · exact lasting_stop _ _
    · next command _ =>
      refine (lasting_refuseKeys _ _ _).andThen fun _ => ?_
      refine (lasting_readArguments _ _).bind fun arguments => ?_
      -- what follows the directory
      have after (directory : Option Interpolation) :
          Lasting (do
            let command ← Expr.readScalar (location ++ ".command") command
            let stdout ← readRouting (location ++ ".stdout") (Document.entry entries "stdout")
            let stderr ← readRouting (location ++ ".stderr") (Document.entry entries "stderr")
            return { command, arguments, stdout, stderr, directory } : Reading Launch) fun v l =>
              AllSound v ((directory.map Interpolation.paths).getD []) →
                AllSound v (arguments.flatMap Argument.paths) → AllSound v l.paths := by
        refine (Expr.lasting_readScalar _ _).bind fun text => ?_
        refine (lasting_readRouting _).bind fun stdout => ?_
        refine (lasting_readRouting _).pure_of fun v stderr hstderr hstdout htext hdirectory hargs => ?_
        exact (((htext.append hargs).append hstdout).append hstderr).append hdirectory
      dsimp only
      split
      · refine (lasting_pure (Q := fun v d =>
          AllSound v ((d.map Interpolation.paths).getD [])) fun v => .nil v).bind after
      · refine (Expr.lasting_readScalar _ _).bind fun directory => ?_
        refine (after (some directory)).imp fun v l sound hdirectory hargs => ?_
        exact sound hdirectory hargs
  · exact lasting_stop _ _

end Launch

namespace Command

theorem lasting_readAmount (key : String) (d : Document) :
    Lasting (readAmount key location d) fun _ _ => True := by
  rw [readAmount.eq_def]
  split
  · exact lasting_pure fun _ => trivial
  · exact lasting_stop _ _

theorem lasting_readWait (d : Document) :
    Lasting (readWait location d) fun v c => AllSound v c.paths := by
  have waits (timeout polls : Option Document) :
      Lasting (pure (wait timeout polls) : Reading Command) fun v c => AllSound v c.paths :=
    lasting_pure fun v => .nil v
  rw [readWait.eq_def]
  split
  · exact waits _ _
  · exact waits _ _
  · refine lasting_of_need ?_
    dsimp only
    split
    · refine lasting_of_check ?_
      split
      · exact lasting_of_check (waits _ _)
      · exact (lasting_throw _ (Q := fun _ _ => True)).andThen fun _ => waits _ _
    · exact waits _ _
  · exact lasting_stop _ _

theorem lasting_readCommands (keyword : String) (d : Document) :
    Lasting (readCommands keyword location d) fun v commands => ∀ c ∈ commands, AllSound v c.1.paths := by
  have alone (c : Command) : Lasting (pure c >>= fun c => pure [(c, location)]) fun v commands =>
      AllSound v c.paths → ∀ c ∈ commands, AllSound v c.1.paths := by
    rw [pure_bind]
    exact lasting_pure fun v sound => by simpa using sound
  rw [readCommands.eq_def]
  dsimp only
  split
  · refine (lasting_readAmount _ _).bind fun n => (alone _).imp fun v commands sound _ => ?_
    exact sound (.nil v)
  · refine (lasting_readAmount _ _).bind fun n => (alone _).imp fun v commands sound _ => ?_
    exact sound (.nil v)
  · refine (lasting_readWait d).bind fun c => lasting_pure fun v sound => ?_
    simpa using sound
  · exact (Launch.lasting_read d).bind fun l => alone (spawn l)

end Command

end Commands

/-! ### Statements -/

/-- The commands of a kind of program only have sound paths. -/
def Dialect.Sound {κ : Type} (dialect : Dialect κ) (paths : κ → List Path) : Prop :=
  ∀ keyword location d, Lasting (dialect.commands keyword location d) fun v commands =>
    ∀ c ∈ commands, AllSound v (paths c.1)

theorem Target.lasting_read (location : String) (d : Document) :
    Lasting (read location d) fun v found => AllSound v (found.elim Target.paths Expr.paths) := by
  rw [read.eq_def]
  split
  · exact (Bound.lasting_readPair _).bind fun b => lasting_pure fun v sound => sound
  · exact (Expr.lasting_read _ _).pure_of fun v e sound => sound
  · refine (Path.lasting_ofString _ _).pure_of fun v path sound => ?_
    split
    · exact .nil v
    · show AllSound v (Expr.copy path).paths
      rw [Expr.paths]
      exact .single sound
  · exact lasting_stop _ _

namespace Statement

variable {κ : Type} {location : String} {command : κ → List Path} {entries : List (Key × Document)}

theorem lasting_readEach {make : NameId → Expr → Instruction κ}
    (paths_make : ∀ x e, (make x e).paths command = e.paths) (entries : List (Key × Document)) :
    Lasting (readEach location make entries) fun v ts => AllSound v (pathsIn command ts) := by
  induction entries with
  | nil => exact lasting_pure fun v => .nil v
  | cons entry rest ih =>
    refine (lasting_written _).andThen fun name => (lasting_intern _).andThen fun x => ?_
    refine (Expr.lasting_read _ _).bind fun e => ih.pure_of fun v ts hts he => ?_
    rw [pathsIn, paths, paths_make]
    exact he.append hts

theorem lasting_readBinding (keyword : String) {make : NameId → Expr → Instruction κ}
    (paths_make : ∀ x e, (make x e).paths command = e.paths) (d : Document) :
    Lasting (readBinding keyword location make d) fun v ts => AllSound v (pathsIn command ts) :=
  (RenderCommand.lasting_readBindings d).bind fun bindings =>
    (lasting_readEach paths_make bindings).imp fun _ _ sound _ => sound

theorem lasting_readTargets (count i : Nat) (ds : List Document) :
    Lasting (readTargets (κ := κ) location count i ds) fun v found =>
      AllSound v (pathsIn command found.1) ∧ AllSound v (found.2.flatMap Target.paths) := by
  induction ds generalizing i with
  | nil => exact lasting_pure fun v => ⟨.nil v, .nil v⟩
  | cons d rest ih =>
    rw [readTargets]
    refine (Target.lasting_read _ _).bind fun found => ?_
    split
    · refine (ih (i + 1)).bind fun others => lasting_pure fun v hothers ht => ?_
      exact ⟨hothers.1, ht.append hothers.2⟩
    · refine (lasting_intern _).bind fun x => ((ih (i + 1)).bind fun others => ?_)
      refine lasting_pure fun v hothers _ he => ⟨?_, hothers.2⟩
      rw [pathsIn, paths]
      exact AllSound.append he hothers.1

theorem lasting_loopParts (entries : List (Key × Document)) :
    Lasting (loopParts location entries) fun _ _ => True := by
  rw [loopParts]
  split
  · split
    · exact lasting_stop _ _
    · exact lasting_pure fun _ => trivial
  · exact lasting_stop _ _
  · exact lasting_pure fun _ => trivial

theorem lasting_readMode (entries : List (Key × Document)) :
    Lasting (readMode location entries) fun _ _ => True := by
  rw [readMode]
  split
  · exact lasting_pure fun _ => trivial
  · exact lasting_pure fun _ => trivial
  · exact (lasting_written _).andThen fun _ => lasting_stop _ _

theorem lasting_readVariable (d : Document) : Lasting (readVariable d) fun _ _ => True :=
  (lasting_written _).andThen fun _ => (lasting_intern _).imp fun _ _ _ => trivial

/-- The targets of a loop are those that it is put together of. -/
theorem lasting_loopOf (mode : LoopMode) (iters : List NameId) (targets : List Target)
    (body : List (Statement κ)) (origin : Option String) :
    Lasting (loopOf mode iters targets body origin) fun v t =>
      AllSound v (targets.flatMap Target.paths) → AllSound v (pathsIn command body) →
        AllSound v (t.paths command) := by
  rw [loopOf, pairTargets?]
  split
  · next vars paired =>
    refine lasting_pure fun v htargets hbody => ?_
    rw [paths]
    refine AllSound.append (AllSound.flatMap fun u hu => ?_) hbody
    split at paired
    · obtain rfl := Option.some.inj paired
      intro p hp
      exact htargets p (List.mem_flatMap.2 ⟨u.2, (List.of_mem_zip hu).2, hp⟩)
    · cases paired
  · exact lasting_throw _

theorem lasting_readLoop (entries : List (Key × Document)) {body : Reading (List (Statement κ))}
    (hbody : Lasting body fun v ts => AllSound v (pathsIn command ts)) :
    Lasting (readLoop location entries body) fun v ts => AllSound v (pathsIn command ts) := by
  refine (lasting_loopParts entries).bind fun parts => ?_
  refine (lasting_readMode entries).bind fun mode => ?_
  have targets : Lasting (readTargets location parts.2.length 0 parts.2) fun v found =>
      AllSound v (pathsIn command found.1) ∧ AllSound v (found.2.flatMap Target.paths) :=
    lasting_readTargets _ _ _
  refine targets.bind fun ⟨hidden, targets⟩ => ?_
  refine (lasting_mapM lasting_readVariable _).bind fun vars => ?_
  refine hbody.bind fun block => ?_
  have loop : Lasting (loopOf mode vars targets block (some location)) fun v t =>
      AllSound v (targets.flatMap Target.paths) → AllSound v (pathsIn command block) →
        AllSound v (t.paths command) := lasting_loopOf _ _ _ _ _
  refine loop.pure_of fun v t hloop hblock _ hfound _ _ => ?_
  rw [pathsIn_append]
  refine hfound.1.append ?_
  rw [pathsIn]
  exact (hloop hfound.2 hblock).append (.nil v)

theorem lasting_readGuarded (entries : List (Key × Document)) {body : Reading (List (Statement κ))}
    (hbody : Lasting body fun v ts => AllSound v (pathsIn command ts)) :
    Lasting (readGuarded location entries body) fun v ts => AllSound v (pathsIn command ts) := by
  refine (lasting_mapM (fun _ => Expr.lasting_readPath _ _) _).bind fun guards => ?_
  refine hbody.pure_of fun v block hblock hguards => ?_
  rw [pathsIn, paths]
  exact (AllSound.append hguards hblock).append (.nil v)

theorem lasting_readEntries {dialect : Dialect κ} (sound : dialect.Sound command)
    (entries : List (Key × Document)) {body : Reading (List (Statement κ))}
    (hbody : Lasting body fun v ts => AllSound v (pathsIn command ts)) :
    Lasting (readEntries dialect location entries body) fun v ts =>
      AllSound v (pathsIn command ts) := by
  rw [readEntries]
  split
  · exact (lasting_written _).andThen fun _ => lasting_stop _ _
  · refine (lasting_refuseKeys _ _ _).andThen fun _ => ?_
    dsimp only
    split
    · exact lasting_readBinding _ (fun _ _ => rfl) _
    · exact lasting_readBinding _ (fun _ _ => rfl) _
    · exact lasting_readBinding _ (fun _ _ => rfl) _
    · exact lasting_readLoop entries hbody
    · exact lasting_readGuarded entries hbody
    · refine (sound _ _ _).pure_of fun v commands hcommands => ?_
      induction commands with
      | nil => exact .nil v
      | cons c rest ih =>
        rw [List.map_cons, pathsIn, paths]
        exact AllSound.append (hcommands c List.mem_cons_self)
          (ih fun d hd => hcommands d (List.mem_cons_of_mem c hd))

section Blocks

variable {dialect : Dialect κ}

mutual

/-- **The paths of a block are sound**, by induction over the document. -/
theorem lasting_readBlock (sound : dialect.Sound command) (location : String) (d : Document) :
    Lasting (readBlock dialect location d) fun v ts => AllSound v (pathsIn command ts) := by
  match d with
  | .null => exact lasting_pure fun v => .nil v
  | .list items => exact lasting_readAll sound location 0 items
  | .bool _ | .int _ | .float _ | .text _ | .mapping _ => exact lasting_stop _ _

theorem lasting_readAll (sound : dialect.Sound command) (location : String) (i : Nat)
    (ds : List Document) :
    Lasting (readAll dialect location i ds) fun v ts => AllSound v (pathsIn command ts) := by
  match ds with
  | [] => exact lasting_pure fun v => .nil v
  | d :: rest =>
    rw [readAll]
    refine (lasting_readOne sound _ d).bind fun first => ?_
    refine (lasting_readAll sound location (i + 1) rest).pure_of fun v others hothers hfirst => ?_
    rw [pathsIn_append]
    exact hfirst.append hothers

theorem lasting_readOne (sound : dialect.Sound command) (location : String) (d : Document) :
    Lasting (readOne dialect location d) fun v ts => AllSound v (pathsIn command ts) := by
  match d with
  | .text s => exact lasting_readEntries sound _ (lasting_pure fun v => .nil v)
  | .mapping (e :: es) =>
    exact lasting_readEntries sound _ (lasting_readDo sound (location ++ ".do") (e :: es))
  | .mapping [] | .null | .bool _ | .int _ | .float _ | .list _ => exact lasting_stop _ _

theorem lasting_readDo (sound : dialect.Sound command) (location : String)
    (entries : List (Key × Document)) :
    Lasting (readDo dialect location entries) fun v ts => AllSound v (pathsIn command ts) := by
  match entries with
  | [] => exact lasting_pure fun v => .nil v
  | (key, d) :: rest =>
    rw [readDo]
    split
    · exact lasting_readBlock sound location d
    · exact lasting_readDo sound location rest

end

end Blocks

end Statement

/-! ### Beds -/

theorem Dialect.sound_commanding : Dialect.commanding.Sound Command.paths :=
  fun keyword _ d => Command.lasting_readCommands keyword d

theorem Dialect.sound_rendering : Dialect.rendering.Sound RenderCommand.paths :=
  fun keyword _ d => RenderCommand.lasting_readCommands keyword d

theorem Dialect.sound_seeding : Dialect.seeding.Sound RenderCommand.paths :=
  fun keyword _ d => RenderCommand.lasting_readCommands keyword d

namespace Bed

variable {names u : NameTable} {d : Document}

/-- What has been read in one go stays true for all that is read behind it. -/
theorem lasts_of_reading {α : Type} {r : Reading α} {Q : NameTable → α → Prop} (h : Lasting r Q)
    {found : α × NameTable} (read : reading names r = .ok found) :
    found.2.Extends names ∧ ∀ v : NameTable, v.Extends found.2 → Q v found.1 := by
  have given := gives_of_reading read
  have grown := h.grows names
  rw [show r.run names = _ from given] at grown
  exact ⟨grown.keeps, h.lasts given⟩

section Programs

variable {R : NameTable → List (Statement RenderCommand) → Prop}
  {C : NameTable → List (Statement Command) → Prop}

theorem lasting_readPrograms {κ : Type} {dialect : Dialect κ}
    {Q : NameTable → List (Statement κ) → Prop}
    (h : ∀ location d, Lasting (Statement.readBlock dialect location d) Q) (section_ : String)
    (entries : List (Key × Document)) :
    Lasting (readPrograms dialect section_ entries) fun v programs => ∀ e ∈ programs, Q v e.2 := by
  induction entries with
  | nil => exact lasting_pure fun v e he => nomatch he
  | cons entry rest ih =>
    refine (lasting_written _).andThen fun name => (h _ _).bind fun ts => ?_
    exact ih.pure_of fun v programs hprograms hts => List.forall_mem_cons.2 ⟨hts, hprograms⟩

/-- Of the programs that were read, those that count are among them. -/
theorem lasting_readNamed {κ : Type} {dialect : Dialect κ}
    {Q : NameTable → List (Statement κ) → Prop}
    (h : ∀ location d, Lasting (Statement.readBlock dialect location d) Q) (section_ : String)
    (entries : List (Key × Document)) :
    Lasting (readNamed dialect section_ entries) fun v programs => ∀ e ∈ programs, Q v e.2 := by
  rw [readNamed, map_eq_pure_bind]
  refine (lasting_readPrograms h section_ entries).pure_of fun v programs hprograms e he => ?_
  exact hprograms e (Assoc.mem_of_mem_ofList he)

theorem lasts_of_readTemplates (h : ∀ location d, Lasting (Statement.readBlock .rendering location d) R)
    {programs : List (String × List (Statement RenderCommand))}
    (read : readTemplates names d = .ok (programs, u)) :
    u.Extends names ∧ ∀ v : NameTable, v.Extends u → ∀ e ∈ programs, R v e.2 := by
  rw [readTemplates] at read
  split at read
  · next entries _ => exact lasts_of_reading (lasting_readNamed h "templates" entries) read
  · cases read

theorem lasts_of_readCommands (h : ∀ location d, Lasting (Statement.readBlock .commanding location d) C)
    {programs : List (Option String × List (Statement Command))}
    (read : readCommands names d = .ok (programs, u)) :
    u.Extends names ∧ ∀ v : NameTable, v.Extends u → ∀ e ∈ programs, C v e.2 := by
  rw [readCommands.eq_def] at read
  split at read
  · obtain ⟨rfl, rfl⟩ := Prod.mk.inj (Except.ok.inj read)
    exact ⟨.refl _, fun v _ e he => absurd he List.not_mem_nil⟩
  · next items =>
    obtain ⟨⟨ts, t⟩, block, read⟩ := exists_of_bind_ok read
    obtain ⟨rfl, rfl⟩ := Prod.mk.inj (Except.ok.inj read)
    obtain ⟨extends_, lasts⟩ := lasts_of_reading (h "commands" (.list items)) block
    exact ⟨extends_, fun v later => List.forall_mem_singleton.2 (lasts v later)⟩
  · next entries =>
    obtain ⟨⟨named, t⟩, block, read⟩ := exists_of_bind_ok read
    obtain ⟨rfl, rfl⟩ := Prod.mk.inj (Except.ok.inj read)
    obtain ⟨extends_, lasts⟩ := lasts_of_reading (lasting_readNamed h "commands" entries) block
    exact ⟨extends_, fun v later => List.forall_mem_map.2 (lasts v later)⟩
  · cases read

/-- A document that is a bed is read by its entries; null has none. -/
theorem ofEntries_of_ofDocument {here : Whereabouts} {bed : Bed} (read : ofDocument here d = .ok bed) :
    ofEntries here d.entries = .ok bed := by
  cases d with
  | null | mapping => exact read
  | bool | int | float | text | list => cases read

/-- **What holds of every block that was read holds of every program of a bed**, with the names that the
bed has in the end. -/
theorem programs_of_lasting {here : Whereabouts} {bed : Bed}
    (seeded : ∀ location d, Lasting (Statement.readBlock .seeding location d) R)
    (rendered : ∀ location d, Lasting (Statement.readBlock .rendering location d) R)
    (commanded : ∀ location d, Lasting (Statement.readBlock .commanding location d) C)
    (read : ofDocument here d = .ok bed) :
    R bed.names bed.globals ∧ (∀ e ∈ bed.templates, R bed.names e.2) ∧
      ∀ e ∈ bed.commands, C bed.names e.2 := by
  obtain ⟨t, u, globals, templates, commands⟩ := exists_of_ofEntries (ofEntries_of_ofDocument read)
  obtain ⟨-, globals⟩ := lasts_of_reading (seeded _ _) globals
  obtain ⟨behind_globals, templates⟩ := lasts_of_readTemplates rendered templates
  obtain ⟨behind_templates, commands⟩ := lasts_of_readCommands commanded commands
  exact ⟨globals _ (behind_templates.trans behind_globals), templates _ behind_templates,
    commands _ (.refl _)⟩

end Programs

/-- **Every path of a bed is sound.** -/
theorem sound_paths {here : Whereabouts} {bed : Bed} (read : ofDocument here d = .ok bed) :
    AllSound bed.names bed.paths := by
  obtain ⟨globals, templates, commands⟩ := programs_of_lasting
    (Statement.lasting_readBlock Dialect.sound_seeding)
    (Statement.lasting_readBlock Dialect.sound_rendering)
    (Statement.lasting_readBlock Dialect.sound_commanding) read
  exact (globals.append (.flatMap templates)).append (.flatMap commands)

end Bed

end Sweep
