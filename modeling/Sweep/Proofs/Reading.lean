import Sweep.Bed
import Sweep.Proofs.Balance
import Sweep.Proofs.Misreading
import Sweep.Proofs.References

/-!
# What a bed holds, and why a document is no bed

Reading a bed either gives statements of a certain shape or is refused for something that the document
holds.  One of the refusals never happens.

* `Document.Part` — what a document holds, at any depth;
* `Culprit` — what a refusal of statements comes of: nothing but a flaw has a place, an index that is no
  number and a poll count that is no quantity stand in the document, and no loop lacks a target;
* one lemma for each reader, from expressions up to blocks, for what it gives and what it is refused for;
* `meets_loopOf` — a loop has as many targets as variables when it is put together, so the refusal is
  never due;
* `Bed.Blamed`, `Bed.answers_ofDocument` — the same for beds.

The main statements are `refusal_has_culprit` and, with the balance of proper statements,
`programs_balanced`.
-/

namespace Sweep

open Reading

/-! ### Documents -/

/-- What a document holds, at any depth; null stands for what it does not hold. -/
inductive Document.Part (whole : Document) : Document → Prop where
  | whole : Part whole whole
  | item {items : List Document} {d : Document} (list : Part whole (.list items)) (h : d ∈ items) :
      Part whole d
  | key {entries : List (Key × Document)} {e : Key × Document}
      (mapping : Part whole (.mapping entries)) (h : e ∈ entries) : Part whole e.1.document
  | entry {entries : List (Key × Document)} {e : Key × Document}
      (mapping : Part whole (.mapping entries)) (h : e ∈ entries) : Part whole e.2
  | nothing : Part whole .null

/-- Key and value of an entry are parts of a document. -/
structure Document.PartEntry (whole : Document) (e : Key × Document) : Prop where
  key : whole.Part e.1.document
  value : whole.Part e.2

/-- What a refusal of statements comes of, if it is no flaw with a place: a text in the document has an index
that is no number, a poll count in it is no quantity, or an integer in it has too many digits to be written.
No loop lacks a target. -/
def Culprit (whole : Document) : Refusal → Prop
  | .indexDigits => ∃ d, whole.Part d ∧ Text.OddIndex d.display.toList
  | .pollCount => ∃ entries n, whole.Part (.mapping entries) ∧ Document.entryAt? entries "polls" = some n ∧
      n ≠ .null ∧ n.quantity? = none
  | .longNumber => ∃ n, whole.Part (.int n) ∧ Text.isWritable n = false
  | .flaw .. => True
  | .unpaired => False

section Readers

variable {whole d : Document} {location : String} {entries : List (Key × Document)}

theorem culprit_of_misread (part : whole.Part d) (e : Refusal) (h : Misread d.display.toList e) :
    Culprit whole e := by
  cases e with
  | flaw => trivial
  | indexDigits => exact ⟨d, part, h⟩
  | pollCount | longNumber | unpaired => cases h

/-- A list, or what stands for the list that holds it, holds parts of the document. -/
theorem Document.Part.asList (part : whole.Part d) : ∀ x ∈ d.asList, whole.Part x := by
  intro x hx
  cases d with
  | list items => exact .item part hx
  | null | bool | int | float | text | mapping =>
    obtain rfl := List.mem_singleton.1 hx
    exact part

theorem Document.Part.all (part : whole.Part (.mapping entries)) : ∀ e ∈ entries, whole.PartEntry e :=
  fun _ he => ⟨.key part he, .entry part he⟩

theorem part_of_entryAt? (parts : ∀ e ∈ entries, whole.PartEntry e) {key : String}
    (h : Document.entryAt? entries key = some d) : whole.Part d :=
  (parts (key, d) (Assoc.mem_of_get? h)).value

theorem part_entry (parts : ∀ e ∈ entries, whole.PartEntry e) (key : String) :
    whole.Part (Document.entry entries key) := by
  rw [Document.entry]
  cases h : Document.entryAt? entries key with
  | none => exact .nothing
  | some d => exact part_of_entryAt? parts h

theorem meets_flaw {α : Type} {Q : α → Prop} (f : Flaw) :
    Meets (Culprit whole) (stop location f : Reading α) Q := meets_throw trivial

/-! ### Texts of data -/

theorem Key.culprit_of_not_isWritable {k : Key} (part : whole.Part k.document) (h : k.isWritable = false) :
    Culprit whole .longNumber := by
  cases k with
  | int n => exact ⟨n, part, h⟩
  | null | bool | float | text => cases h

mutual

/-- Data that cannot be written has an integer that cannot be written. -/
theorem culprit_of_not_isWritable (d : Document) (part : whole.Part d) (h : d.isWritable = false) :
    Culprit whole .longNumber := by
  match d with
  | .int n => exact ⟨n, part, h⟩
  | .list items => exact culprit_of_not_areWritable items (fun _ => .item part) h
  | .mapping entries => exact culprit_of_not_entriesWritable entries part.all h
  | .null | .bool _ | .float _ | .text _ => cases h

theorem culprit_of_not_areWritable (ds : List Document) (parts : ∀ d ∈ ds, whole.Part d)
    (h : Document.areWritable ds = false) : Culprit whole .longNumber := by
  match ds with
  | [] => cases h
  | d :: rest =>
    rw [Document.areWritable, Bool.and_eq_false_iff] at h
    rcases h with h | h
    · exact culprit_of_not_isWritable d (parts d List.mem_cons_self) h
    · exact culprit_of_not_areWritable rest (fun x hx => parts x (List.mem_cons_of_mem d hx)) h

theorem culprit_of_not_entriesWritable (entries : List (Key × Document))
    (parts : ∀ e ∈ entries, whole.PartEntry e) (h : Document.entriesWritable entries = false) :
    Culprit whole .longNumber := by
  match entries with
  | [] => cases h
  | (key, d) :: rest =>
    obtain ⟨key_part, value_part⟩ := parts (key, d) List.mem_cons_self
    rw [Document.entriesWritable, Bool.and_eq_false_iff, Bool.and_eq_false_iff] at h
    rcases h with (h | h) | h
    · exact Key.culprit_of_not_isWritable key_part h
    · exact culprit_of_not_isWritable d value_part h
    · exact culprit_of_not_entriesWritable rest (fun e he => parts e (List.mem_cons_of_mem _ he)) h

end

theorem Document.meets_written (part : whole.Part d) :
    Meets (Culprit whole) (written d.written?) fun text => text = d.display := by
  rw [Document.written?]
  split
  · exact meets_pure rfl
  · next h => exact meets_throw (culprit_of_not_isWritable d part (Bool.eq_false_iff.2 h))

theorem Key.meets_written {k : Key} (part : whole.Part k.document) :
    Meets (Culprit whole) (written k.written?) fun _ => True := by
  rw [Key.written?]
  split
  · exact meets_pure trivial
  · next h => exact meets_throw (Key.culprit_of_not_isWritable part (Bool.eq_false_iff.2 h))

/-- A list of keys is not written only for an integer in one of them. -/
theorem meets_sortedKeys {keys : List Key} (parts : ∀ k ∈ keys, whole.Part k.document) :
    Meets (Culprit whole) (written (sortedKeys? keys)) fun _ => True := by
  rw [sortedKeys?]
  split
  · exact meets_pure trivial
  · next h =>
    obtain ⟨k, mem, long⟩ := List.all_eq_false.1 (Bool.eq_false_iff.2 h)
    exact meets_throw (Key.culprit_of_not_isWritable (parts k mem) (Bool.eq_false_iff.2 long))

/-- Keys that are not expected are named in a flaw. -/
theorem meets_refuseKeys (flaw : String → Flaw) {keys : List Key}
    (parts : ∀ k ∈ keys, whole.Part k.document) :
    Meets (Culprit whole) (refuseKeys location flaw keys) fun _ => True := by
  rw [refuseKeys]
  split
  · exact meets_pure trivial
  · exact (meets_sortedKeys parts).bind fun _ _ => meets_flaw _

theorem parts_of_otherKeys (parts : ∀ e ∈ entries, whole.PartEntry e) (expected : List String) :
    ∀ k ∈ otherKeys entries expected, whole.Part k.document := by
  intro k hk
  obtain ⟨e, he, rfl⟩ := List.mem_map.1 (List.mem_filter.1 hk).1
  exact (parts e he).key

theorem Path.meets_ofString (part : whole.Part d) :
    Meets (Culprit whole) (ofString location d.display) fun _ => True :=
  (meets_read location d.display.toList).imp (culprit_of_misread part) fun _ _ => trivial

theorem Expr.meets_readPath (part : whole.Part d) :
    Meets (Culprit whole) (readPath location d) fun _ => True :=
  (Document.meets_written part).bind fun _ same => same ▸ Path.meets_ofString part

/-- A truth value and null are written otherwise as scalars, without a bracket. -/
theorem Expr.meets_readScalar (part : whole.Part d) :
    Meets (Culprit whole) (readScalar location d) fun _ => True := by
  have read (s : String) := Interpolation.meets_read location s
  have plain {s : String} (h : '[' ∉ s.toList) (e : Refusal) (misread : Misread s.toList e) :
      Culprit whole e := by
    cases e with
    | flaw => trivial
    | indexDigits => exact absurd misread (Text.not_oddIndex h)
    | pollCount | longNumber | unpaired => cases misread
  cases d with
  | null => exact (read "").imp (plain (by decide)) fun _ _ => trivial
  | bool b =>
    cases b with
    | true => exact (read "true").imp (plain (by decide)) fun _ _ => trivial
    | false => exact (read "false").imp (plain (by decide)) fun _ _ => trivial
  | int | float | text | list | mapping =>
    refine (Document.meets_written part).bind fun text same => ?_
    rw [same]
    exact (read _).imp (culprit_of_misread part) fun _ _ => trivial

theorem Interpolation.meets_read_text {s : String} (part : whole.Part (.text s)) :
    Meets (Culprit whole) (read location s) fun _ => True :=
  (meets_read location s).imp (culprit_of_misread part) fun _ _ => trivial

namespace Bound

theorem meets_read (part : whole.Part d) :
    Meets (Culprit whole) (read location d) fun _ => True := by
  rw [read.eq_def]
  split
  · exact meets_flaw _
  · exact meets_pure trivial
  · exact (Interpolation.meets_read_text part).pure_of
  · exact meets_flaw _

theorem meets_readPair (part : whole.Part d) :
    Meets (Culprit whole) (readPair location d) fun _ => True := by
  rw [readPair.eq_def]
  split
  · next a b =>
    have first : whole.Part a := .item part (by simp)
    have second : whole.Part b := .item part (by simp)
    exact (meets_read first).bind fun _ _ => (meets_read second).pure_of
  · exact meets_flaw _

end Bound

namespace Expr

mutual

theorem meets_read (location : String) (d : Document) (part : whole.Part d) :
    Meets (Culprit whole) (read location d) fun _ => True := by
  match d with
  | .list items => exact (meets_readItems location 0 items fun _ => .item part).pure_of
  | .mapping entries =>
    rw [read]
    split
    · next found =>
      have bounds := part_of_entryAt? part.all found
      exact meets_of_check trivial ((Bound.meets_readPair bounds).bind fun _ _ => meets_pure trivial)
    · next found =>
      exact meets_of_check trivial (meets_readPath (part_of_entryAt? part.all found)).pure_of
    · next found =>
      refine (meets_readScalar (part_of_entryAt? part.all found)).bind fun _ _ => ?_
      exact (meets_readFields location entries part.all).pure_of
    · exact meets_flaw _
  | .null | .bool _ | .int _ | .float _ | .text _ => exact (meets_readScalar part).pure_of

theorem meets_readItems (location : String) (i : Nat) (ds : List Document)
    (parts : ∀ d ∈ ds, whole.Part d) :
    Meets (Culprit whole) (readItems location i ds) fun _ => True := by
  match ds with
  | [] => exact meets_pure trivial
  | d :: rest =>
    refine (meets_read _ d (parts d List.mem_cons_self)).bind fun _ _ => ?_
    exact (meets_readItems location (i + 1) rest fun x hx => parts x (List.mem_cons_of_mem d hx)).pure_of

theorem meets_readFields (location : String) (entries : List (Key × Document))
    (parts : ∀ e ∈ entries, whole.PartEntry e) :
    Meets (Culprit whole) (readFields location entries) fun _ => True := by
  match entries with
  | [] => exact meets_pure trivial
  | (key, d) :: rest =>
    have others := meets_readFields location rest fun e he => parts e (List.mem_cons_of_mem _ he)
    obtain ⟨key_part, value_part⟩ := parts (key, d) List.mem_cons_self
    rw [readFields]
    split
    · exact others
    · refine (Key.meets_written key_part).bind fun _ _ => ?_
      refine (meets_intern _).bind fun _ _ => ?_
      exact (meets_read _ d value_part).bind fun _ _ => others.pure_of

end

end Expr

/-! ### Commands -/

theorem Build.meets_read (part : whole.Part d) :
    Meets (Culprit whole) (read location d) fun _ => True := by
  rw [read.eq_def]
  split
  · next template output =>
    have first : whole.Part template := .item part (by simp)
    have second : whole.Part output := .item part (by simp)
    exact (Expr.meets_readScalar first).bind fun _ _ => (Expr.meets_readScalar second).pure_of
  · exact meets_flaw _

namespace BuiltExpr

theorem meets_readField (part : whole.Part d) :
    Meets (Culprit whole) (readField location d) fun _ => True := by
  rw [readField.eq_def]
  split
  · next data =>
    have data_part : whole.Part data := (part.all (.text "build", data) (by simp)).value
    exact (Build.meets_read data_part).pure_of
  · exact (Expr.meets_read _ _ part).pure_of

theorem meets_readFields (parts : ∀ e ∈ entries, whole.PartEntry e) :
    Meets (Culprit whole) (readFields location entries) fun _ => True := by
  induction entries with
  | nil => exact meets_pure trivial
  | cons entry rest ih =>
    have others := ih fun e he => parts e (List.mem_cons_of_mem entry he)
    rw [readFields]
    split
    · exact others
    · obtain ⟨key_part, value_part⟩ := parts entry List.mem_cons_self
      refine (Key.meets_written key_part).bind fun _ _ => ?_
      refine (meets_readField value_part).bind fun _ _ => ?_
      exact (meets_intern _).bind fun _ _ => others.pure_of

theorem meets_read (part : whole.Part d) :
    Meets (Culprit whole) (read location d) fun _ => True := by
  rw [read.eq_def]
  split
  · split
    · next found _ =>
      refine (Build.meets_read (part_of_entryAt? part.all found)).bind fun _ _ => ?_
      exact (meets_readFields part.all).pure_of
    · next found =>
      refine (Expr.meets_readScalar (part_of_entryAt? part.all found)).bind fun _ _ => ?_
      exact (meets_readFields part.all).pure_of
    · exact meets_flaw _
  · exact (Expr.meets_readScalar part).pure_of

end BuiltExpr

/-- The bindings of a statement are entries of its data. -/
theorem meets_readBindings (part : whole.Part d) :
    Meets (Culprit whole) (readBindings location d)
      fun bindings => ∀ e ∈ bindings, whole.PartEntry e := by
  rw [readBindings.eq_def]
  split
  · exact meets_pure part.all
  · exact meets_flaw _

namespace RenderCommand

theorem meets_readEach {read : String → Document → Reading (NameId → RenderCommand)}
    (h : ∀ place d, whole.Part d → Meets (Culprit whole) (read place d) fun _ => True)
    (parts : ∀ e ∈ entries, whole.PartEntry e) :
    Meets (Culprit whole) (readEach location read entries) fun _ => True := by
  induction entries with
  | nil => exact meets_pure trivial
  | cons entry rest ih =>
    have others := ih fun e he => parts e (List.mem_cons_of_mem entry he)
    obtain ⟨key_part, value_part⟩ := parts entry List.mem_cons_self
    refine (Key.meets_written key_part).bind fun _ _ => ?_
    refine (h _ _ value_part).bind fun _ _ => ?_
    exact (meets_intern _).bind fun _ _ => others.pure_of

theorem meets_readYield (part : whole.Part d) :
    Meets (Culprit whole) (readYield location d) fun _ => True := by
  have plain := Expr.meets_read location d part
  rw [readYield.eq_def]
  split
  · dsimp only
    split
    · exact (BuiltExpr.meets_read part).bind fun _ _ => (meets_done _).pure_of
    · exact plain.bind fun _ _ => (meets_done _).pure_of
  · exact plain.bind fun _ _ => (meets_done _).pure_of

theorem meets_readCommands (keyword : String) (part : whole.Part d) :
    Meets (Culprit whole) (readCommands keyword location d) fun _ => True := by
  refine (meets_readBindings part).bind fun bindings parts => meets_readEach (fun place d part => ?_) parts
  split
  · exact (BuiltExpr.meets_read part).pure_of
  · exact meets_readYield part

end RenderCommand

namespace Launch

theorem meets_readRouting (part : whole.Part d) :
    Meets (Culprit whole) (readRouting location d) fun _ => True := by
  rw [readRouting.eq_def]
  split
  · exact meets_pure trivial
  · exact meets_pure trivial
  · next path =>
    have path_part : whole.Part path := (part.all (.text "create", path) (by simp)).value
    exact (Expr.meets_readScalar path_part).pure_of
  · next path =>
    have path_part : whole.Part path := (part.all (.text "append", path) (by simp)).value
    exact (Expr.meets_readScalar path_part).pure_of
  · exact meets_flaw _

theorem meets_readArgument (part : whole.Part d) :
    Meets (Culprit whole) (readArgument location d) fun _ => True := by
  rw [readArgument.eq_def]
  split
  · next path =>
    have path_part : whole.Part path := (part.all (.text "splat", path) (by simp)).value
    exact (Expr.meets_readPath path_part).pure_of
  · exact meets_flaw _
  · exact (Expr.meets_readScalar part).pure_of

theorem meets_readArguments (i : Nat) {ds : List Document} (parts : ∀ d ∈ ds, whole.Part d) :
    Meets (Culprit whole) (readArguments location i ds) fun _ => True := by
  induction ds generalizing i with
  | nil => exact meets_pure trivial
  | cons d rest ih =>
    refine (meets_readArgument (parts d List.mem_cons_self)).bind fun _ _ => ?_
    exact (ih (i + 1) fun x hx => parts x (List.mem_cons_of_mem d hx)).pure_of

theorem meets_read (part : whole.Part d) :
    Meets (Culprit whole) (read location d) fun _ => True := by
  rw [read.eq_def]
  split
  · exact (Interpolation.meets_read_text part).pure_of
  · next entries =>
    split
    · exact meets_flaw _
    · next command found =>
      have command_part := part_of_entryAt? part.all found
      have args_parts : ∀ d ∈ ((Document.entryAt? entries "args").getD (.list [])).asList, whole.Part d := by
        cases hargs : Document.entryAt? entries "args" with
        | none => exact fun _ h => nomatch h
        | some args => exact (part_of_entryAt? part.all hargs).asList
      refine (meets_refuseKeys _ (parts_of_otherKeys part.all _)).bind fun _ _ => ?_
      refine (meets_readArguments _ args_parts).bind fun _ _ => ?_
      have after (make : Interpolation → Routing Interpolation → Routing Interpolation → Launch) :
          Meets (Culprit whole) (do
            let command ← Expr.readScalar (location ++ ".command") command
            let stdout ← readRouting (location ++ ".stdout") (Document.entry entries "stdout")
            let stderr ← readRouting (location ++ ".stderr") (Document.entry entries "stderr")
            return make command stdout stderr : Reading Launch) fun _ => True := by
        refine (Expr.meets_readScalar command_part).bind fun _ _ => ?_
        refine (meets_readRouting (part_entry part.all "stdout")).bind fun _ _ => ?_
        exact (meets_readRouting (part_entry part.all "stderr")).pure_of
      have directory := part_entry part.all "cwd"
      dsimp only
      split
      · exact (meets_done _).bind fun _ _ => after _
      · exact (Expr.meets_readScalar directory).bind fun _ _ =>
          (meets_done _).bind fun _ _ => after _
  · exact meets_flaw _

end Launch

namespace Command

theorem meets_readAmount (key : String) :
    Meets (Culprit whole) (readAmount key location d) fun _ => True := by
  rw [readAmount.eq_def]
  split
  · exact meets_pure trivial
  · exact meets_flaw _

theorem entryAt?_of_optional {key : String} (h : optional (Document.entry entries key) = some d) :
    Document.entryAt? entries key = some d ∧ d ≠ .null := by
  rw [Document.entry] at h
  cases hget : Document.entryAt? entries key with
  | none =>
    rw [hget] at h
    cases h
  | some u =>
    rw [hget] at h
    cases u with
    | null => cases h
    | bool | int | float | text | list | mapping =>
      obtain rfl := Option.some.inj h
      exact ⟨rfl, nofun⟩

/-- **A wait is refused without a place only for a poll count that is no quantity.** -/
theorem meets_readWait (part : whole.Part d) :
    Meets (Culprit whole) (readWait location d) fun _ => True := by
  rw [readWait.eq_def]
  split
  · exact meets_pure trivial
  · exact meets_pure trivial
  · next entries =>
    refine meets_of_need trivial ?_
    dsimp only
    split
    · next n hn =>
      refine meets_of_check trivial ?_
      split
      · exact meets_of_check trivial (meets_pure trivial)
      · next uncounted =>
        obtain ⟨stored, given⟩ := entryAt?_of_optional hn
        have thrown : Meets (Culprit whole) (throw .pollCount : Reading Unit) fun _ => True :=
          meets_throw ⟨entries, n, part, stored, given, uncounted⟩
        exact thrown.pure_of
    · exact meets_pure trivial
  · exact meets_flaw _

theorem meets_readCommands (keyword : String) (part : whole.Part d) :
    Meets (Culprit whole) (readCommands keyword location d) fun _ => True := by
  rw [readCommands.eq_def]
  dsimp only
  split
  · exact (meets_readAmount _).bind fun _ _ => (meets_done _).pure_of
  · exact (meets_readAmount _).bind fun _ _ => (meets_done _).pure_of
  · exact (meets_readWait part).pure_of
  · exact (Launch.meets_read part).bind fun _ _ => (meets_done _).pure_of

end Command

/-! ### Statements -/

theorem Target.meets_read (part : whole.Part d) :
    Meets (Culprit whole) (read location d) fun _ => True := by
  rw [read.eq_def]
  split
  · next bounds =>
    have bounds_part : whole.Part bounds := (part.all (.text "range", bounds) (by simp)).value
    exact (Bound.meets_readPair bounds_part).bind fun _ _ => meets_done _
  · exact (Expr.meets_read _ _ part).pure_of
  · exact (Path.meets_ofString part).pure_of
  · exact meets_flaw _

end Readers

/-- The commands of a kind of program are refused for what their data hold. -/
def Dialect.Traced {κ : Type} (dialect : Dialect κ) (whole : Document) : Prop :=
  ∀ keyword location d, whole.Part d →
    Meets (Culprit whole) (dialect.commands keyword location d) fun _ => True

namespace Statement

variable {κ : Type} {whole d : Document} {location : String} {entries : List (Key × Document)}

theorem properIn_append {ts us : List (Statement κ)} (ht : ProperIn ts) (hu : ProperIn us) :
    ProperIn (ts ++ us) := by
  induction ts with
  | nil => exact hu
  | cons t ts ih => exact ⟨ht.1, ih ht.2⟩

theorem meets_readEach {make : NameId → Expr → Instruction κ}
    (leaf : ∀ x e, (make x e).isLeaf = true) (parts : ∀ e ∈ entries, whole.PartEntry e) :
    Meets (Culprit whole) (readEach location make entries) ProperIn := by
  induction entries with
  | nil => exact meets_pure trivial
  | cons entry rest ih =>
    obtain ⟨key_part, value_part⟩ := parts entry List.mem_cons_self
    refine (Key.meets_written key_part).bind fun _ _ => ?_
    refine (meets_intern _).bind fun x _ => ?_
    refine (Expr.meets_read _ _ value_part).bind fun e _ => ?_
    refine (ih fun e he => parts e (List.mem_cons_of_mem entry he)).bind fun ts hts => ?_
    exact meets_pure ⟨leaf x e, hts⟩

theorem meets_readBinding (keyword : String) {make : NameId → Expr → Instruction κ}
    (leaf : ∀ x e, (make x e).isLeaf = true) (part : whole.Part d) :
    Meets (Culprit whole) (readBinding keyword location make d) ProperIn :=
  (meets_readBindings part).bind fun _ parts => meets_readEach leaf parts

/-- There is one target for each document, and the hidden variables are bound by statements that can
stand alone. -/
theorem meets_readTargets (count i : Nat) {ds : List Document} (parts : ∀ d ∈ ds, whole.Part d) :
    Meets (Culprit whole) (readTargets (κ := κ) location count i ds)
      fun found => ProperIn found.1 ∧ found.2.length = ds.length := by
  induction ds generalizing i with
  | nil => exact meets_pure ⟨trivial, rfl⟩
  | cons d rest ih =>
    have others := ih (i + 1) fun x hx => parts x (List.mem_cons_of_mem d hx)
    rw [readTargets]
    refine (Target.meets_read (parts d List.mem_cons_self)).bind fun target _ => ?_
    split
    · exact others.bind fun found h => meets_pure ⟨h.1, congrArg Nat.succ h.2⟩
    · refine (meets_intern _).bind fun x _ => ?_
      exact others.bind fun found h => meets_pure ⟨⟨rfl, h.1⟩, congrArg Nat.succ h.2⟩

/-- A loop has variables, and as many targets, and all are parts of its entries. -/
theorem meets_loopParts (parts : ∀ e ∈ entries, whole.PartEntry e) :
    Meets (Culprit whole) (loopParts location entries) fun found =>
      found.1 ≠ [] ∧ found.1.length = found.2.length ∧
        (∀ d ∈ found.1, whole.Part d) ∧ ∀ d ∈ found.2, whole.Part d := by
  have iter := part_entry parts "for"
  have target := part_entry parts "in"
  rw [loopParts]
  split
  · next iters targets hiters htargets =>
    rw [hiters] at iter
    rw [htargets] at target
    split
    · exact meets_flaw _
    · next h =>
      rw [Bool.or_eq_true, not_or, List.isEmpty_iff, decide_eq_true_eq, Decidable.not_not] at h
      exact meets_pure ⟨h.1, h.2, iter.asList, target.asList⟩
  · exact meets_flaw _
  · have alone {x : Document} (part : whole.Part x) : ∀ d ∈ [x], whole.Part d := fun d hd =>
      List.mem_singleton.1 hd ▸ part
    exact meets_pure ⟨by simp, rfl, alone iter, alone target⟩

theorem meets_readMode (parts : ∀ e ∈ entries, whole.PartEntry e) :
    Meets (Culprit whole) (readMode location entries) fun _ => True := by
  rw [readMode]
  cases found : Document.entryAt? entries "mode" with
  | none => exact meets_pure trivial
  | some d =>
    rw [Option.getD_some]
    split
    · exact meets_pure trivial
    · exact meets_pure trivial
    · exact (Document.meets_written (part_of_entryAt? parts found)).bind fun _ _ => meets_flaw _

theorem meets_readVariable (part : whole.Part d) :
    Meets (Culprit whole) (readVariable d) fun _ => True :=
  (Document.meets_written part).bind fun _ _ => meets_intern _

/-- **A loop with as many targets as variables becomes a statement.** -/
theorem meets_loopOf {mode : LoopMode} {iters : List NameId} {targets : List Target}
    {body : List (Statement κ)} {origin : Option String} (nonempty : iters ≠ [])
    (paired : iters.length = targets.length) (proper : ProperIn body) :
    Meets (Culprit whole) (loopOf mode iters targets body origin) Proper := by
  rw [loopOf, pairTargets?, if_pos paired]
  refine meets_pure ⟨?_, proper⟩
  rw [← List.length_pos_iff, List.length_zip, ← paired, Nat.min_self]
  exact List.length_pos_iff.2 nonempty

theorem meets_readLoop (parts : ∀ e ∈ entries, whole.PartEntry e) {body : Reading (List (Statement κ))}
    (hbody : Meets (Culprit whole) body ProperIn) :
    Meets (Culprit whole) (readLoop location entries body) ProperIn := by
  refine (meets_loopParts parts).bind
    fun ⟨iters, targets⟩ ⟨nonempty, paired, iter_parts, target_parts⟩ => ?_
  refine (meets_readMode parts).bind fun mode _ => ?_
  refine (meets_readTargets _ _ target_parts).bind fun ⟨hidden, found⟩ ⟨hproper, hfound⟩ => ?_
  refine (meets_mapM fun d hd => meets_readVariable (iter_parts d hd)).bind fun vars hvars => ?_
  refine hbody.bind fun block hblock => ?_
  have some_ : vars ≠ [] := by
    rw [← List.length_pos_iff, hvars]
    exact List.length_pos_iff.2 nonempty
  refine (meets_loopOf some_ (hvars.trans (paired.trans hfound.symm)) hblock).bind fun loop hloop => ?_
  exact meets_pure (properIn_append hproper ⟨hloop, trivial⟩)

theorem meets_readGuarded (parts : ∀ e ∈ entries, whole.PartEntry e)
    {body : Reading (List (Statement κ))} (hbody : Meets (Culprit whole) body ProperIn) :
    Meets (Culprit whole) (readGuarded location entries body) ProperIn := by
  have guards := (part_entry parts "if").asList
  refine (meets_mapM fun d hd => Expr.meets_readPath (guards d hd)).bind fun _ _ => ?_
  exact hbody.bind fun block hblock => meets_pure ⟨hblock, trivial⟩

theorem meets_readEntries {dialect : Dialect κ} (traced : dialect.Traced whole)
    (parts : ∀ e ∈ entries, whole.PartEntry e) {body : Reading (List (Statement κ))}
    (hbody : Meets (Culprit whole) body ProperIn) :
    Meets (Culprit whole) (readEntries dialect location entries body) ProperIn := by
  rw [readEntries]
  split
  · have first : whole.Part ((entries.map Prod.fst).headD default).document := by
      cases entries with
      | nil => exact .nothing
      | cons e es => exact (parts e List.mem_cons_self).key
    exact (Key.meets_written first).bind fun _ _ => meets_flaw _
  · next keyword _ =>
    have data := part_entry parts keyword
    refine (meets_refuseKeys _ (parts_of_otherKeys parts _)).bind fun _ _ => ?_
    dsimp only
    split
    · exact meets_readBinding _ (fun _ _ => rfl) data
    · exact meets_readBinding _ (fun _ _ => rfl) data
    · exact meets_readBinding _ (fun _ _ => rfl) data
    · exact meets_readLoop parts hbody
    · exact meets_readGuarded parts hbody
    · refine (traced _ _ _ data).bind fun commands _ => meets_pure ?_
      induction commands with
      | nil => trivial
      | cons c rest ih => exact ⟨rfl, ih⟩

mutual

/-- **Blocks are proper, and refused for what they hold**, by induction over the document. -/
theorem meets_readBlock {dialect : Dialect κ} (traced : dialect.Traced whole) (location : String)
    (d : Document) (part : whole.Part d) :
    Meets (Culprit whole) (readBlock dialect location d) ProperIn := by
  match d with
  | .null => exact meets_pure trivial
  | .list items => exact meets_readAll traced location 0 items fun _ => .item part
  | .bool _ | .int _ | .float _ | .text _ | .mapping _ => exact meets_flaw _

theorem meets_readAll {dialect : Dialect κ} (traced : dialect.Traced whole) (location : String) (i : Nat)
    (ds : List Document) (parts : ∀ d ∈ ds, whole.Part d) :
    Meets (Culprit whole) (readAll dialect location i ds) ProperIn := by
  match ds with
  | [] => exact meets_pure trivial
  | d :: rest =>
    refine (meets_readOne traced _ d (parts d List.mem_cons_self)).bind fun first hfirst => ?_
    refine (meets_readAll traced location (i + 1) rest
      fun x hx => parts x (List.mem_cons_of_mem d hx)).bind fun others hothers => ?_
    exact meets_pure (properIn_append hfirst hothers)

theorem meets_readOne {dialect : Dialect κ} (traced : dialect.Traced whole) (location : String)
    (d : Document) (part : whole.Part d) :
    Meets (Culprit whole) (readOne dialect location d) ProperIn := by
  match d with
  | .text s =>
    have parts : ∀ e ∈ [(Key.text s, Document.null)], whole.PartEntry e := fun e he =>
      List.mem_singleton.1 he ▸ ⟨part, .nothing⟩
    exact meets_readEntries traced parts (meets_pure trivial)
  | .mapping (e :: es) =>
    exact meets_readEntries traced part.all
      (meets_readDo traced (location ++ ".do") (e :: es) part.all)
  | .mapping [] | .null | .bool _ | .int _ | .float _ | .list _ => exact meets_flaw _

theorem meets_readDo {dialect : Dialect κ} (traced : dialect.Traced whole) (location : String)
    (entries : List (Key × Document)) (parts : ∀ e ∈ entries, whole.PartEntry e) :
    Meets (Culprit whole) (readDo dialect location entries) ProperIn := by
  match entries with
  | [] => exact meets_pure trivial
  | (key, d) :: rest =>
    rw [readDo]
    split
    · exact meets_readBlock traced location d (parts (key, d) List.mem_cons_self).value
    · exact meets_readDo traced location rest fun e he => parts e (List.mem_cons_of_mem _ he)

end

end Statement

/-! ### Beds -/

namespace Dialect

theorem traced_commanding (whole : Document) : commanding.Traced whole :=
  fun keyword _ _ part => Command.meets_readCommands keyword part

theorem traced_rendering (whole : Document) : rendering.Traced whole :=
  fun keyword _ _ part => RenderCommand.meets_readCommands keyword part

theorem traced_seeding (whole : Document) : seeding.Traced whole :=
  fun keyword _ _ part => RenderCommand.meets_readCommands keyword part

end Dialect

/-- The entries of a mapping; other data has none. -/
def Document.entries : Document → List (Key × Document)
  | mapping entries => entries
  | _ => []

theorem Document.part_of_mem_entries (whole : Document) : ∀ e ∈ whole.entries, whole.PartEntry e := by
  intro e he
  cases whole with
  | mapping entries => exact Part.whole.all e he
  | null | bool | int | float | text | list => cases he

namespace Bed

variable {α β κ : Type} {here : Whereabouts} {whole d : Document} {entries : List (Key × Document)}
  {Q : α → Prop}

/-- The directories that the entries of a bed name. -/
def directories (entries : List (Key × Document)) : List Document :=
  orElse (Document.entry entries "output") (.text "output") ::
    (orElse (Document.entry entries "includes") (.list [])).asList

/-- What a refusal of a bed comes of. -/
inductive Blamed (here : Whereabouts) (whole : Document) : BedError → Prop where
  | flaw (place : String) (f : Flaw) : Blamed here whole (.refused (.flaw place f))
  /-- A text of the document has an index that is no number. -/
  | index {d : Document} (part : whole.Part d) (odd : Text.OddIndex d.display.toList) :
      Blamed here whole (.refused .indexDigits)
  /-- A poll count of the document is no quantity. -/
  | polls {entries : List (Key × Document)} {n : Document} (part : whole.Part (.mapping entries))
      (stored : Document.entryAt? entries "polls" = some n) (given : n ≠ .null)
      (uncounted : n.quantity? = none) : Blamed here whole (.refused .pollCount)
  /-- An integer of the document has too many digits to be written. -/
  | long {n : Int} (part : whole.Part (.int n)) (long : Text.isWritable n = false) :
      Blamed here whole (.refused .longNumber)
  /-- A directory lies in the home of somebody who is not known. -/
  | unknownHome {d : Document} {owner : String} (mem : d ∈ directories whole.entries)
      (named : (Pathname.ofString d.display).owner? = some owner) (unknown : here.home owner = none) :
      Blamed here whole (.home .unknown)
  /-- A directory lies in the home of somebody whose name has a NUL character. -/
  | nulInOwner {d : Document} {owner : String} (mem : d ∈ directories whole.entries)
      (named : (Pathname.ofString d.display).owner? = some owner) (nul : hasNul owner = true) :
      Blamed here whole (.home .nulInOwner)

theorem blamed_of_culprit {r : Refusal} (h : Culprit whole r) : Blamed here whole (.refused r) := by
  cases r with
  | flaw place f => exact .flaw place f
  | indexDigits =>
    obtain ⟨d, part, odd⟩ := h
    exact .index part odd
  | pollCount =>
    obtain ⟨entries, n, part, stored, given, uncounted⟩ := h
    exact .polls part stored given uncounted
  | longNumber =>
    obtain ⟨n, part, long⟩ := h
    exact .long part long
  | unpaired => cases h

/-- An answer with a property, or a refusal for which the document is to blame. -/
def Answers (here : Whereabouts) (whole : Document) (r : Except BedError α) (Q : α → Prop) : Prop :=
  match r with
  | .ok a => Q a
  | .error e => Blamed here whole e

/-- An answer with a property, or a refusal for another reason than a loop that lacks a target. -/
def Yields (r : Except BedError α) (Q : α → Prop) : Prop :=
  match r with
  | .ok a => Q a
  | .error e => e ≠ .refused .unpaired

theorem Answers.yields {r : Except BedError α} (h : Answers here whole r Q) : Yields r Q := by
  cases r with
  | error e =>
    rintro rfl
    cases h
  | ok a => exact h

theorem Answers.bind {r : Except BedError α} {next : α → Except BedError β} {S : β → Prop}
    (hr : Answers here whole r Q) (hnext : ∀ a, Q a → Answers here whole (next a) S) :
    Answers here whole (r >>= next) S := by
  cases r with
  | error e => exact hr
  | ok a => exact hnext a hr

theorem answers_stop (place : String) (f : Flaw) : Answers here whole (stop place f : Except BedError α) Q :=
  .flaw place f

theorem answers_reading {r : Reading α} (h : Meets (Culprit whole) r Q) (names : NameTable) :
    Answers here whole (reading names r) fun found => Q found.1 := by
  have given := h names
  rw [reading]
  rcases hrun : r.run names with ⟨e | a, names'⟩
  · rw [hrun] at given
    exact blamed_of_culprit given
  · rw [hrun] at given
    exact given

theorem culprit_of_directory (mem : d ∈ directories whole.entries) (long : d.isWritable = false) :
    Culprit whole .longNumber := by
  have part (key : String) := part_entry (Document.part_of_mem_entries whole) key
  rcases List.mem_cons.1 mem with rfl | mem
  · rw [orElse] at long
    split at long
    · exact culprit_of_not_isWritable _ (part "output") long
    · cases long
  · rw [orElse] at mem
    split at mem
    · exact culprit_of_not_isWritable d ((part "includes").asList d mem) long
    · cases mem

theorem answers_expandHome {p : Pathname} {e : HomeError} (mem : d ∈ directories whole.entries)
    (same : p = Pathname.ofString d.display) (h : p.expandHome here.home = .error e) :
    Blamed here whole (.home e) := by
  rw [Pathname.expandHome] at h
  split at h
  · cases h
  · next owner named =>
    split at h
    · next nul =>
      obtain rfl := Except.error.inj h
      exact .nulInOwner mem (same ▸ named) nul
    · split at h
      · cases h
      · next unknown =>
        obtain rfl := Except.error.inj h
        exact .unknownHome mem (same ▸ named) unknown

theorem answers_directory (mem : d ∈ directories whole.entries) :
    Answers here whole (directory here d) fun _ => True := by
  rw [directory, Document.written?]
  split
  · next text written =>
    split at written
    · have same := Option.some.inj written
      split
      · trivial
      · next h => exact answers_expandHome mem (congrArg _ same.symm) h
    · cases written
  · next unwritten =>
    split at unwritten
    · cases unwritten
    · next long => exact blamed_of_culprit (culprit_of_directory mem (Bool.eq_false_iff.2 long))

theorem answers_directories {ds : List Document} (mem : ∀ d ∈ ds, d ∈ directories whole.entries) :
    Answers here whole (ds.mapM (directory here)) fun _ => True := by
  induction ds with
  | nil => trivial
  | cons d ds ih =>
    rw [List.mapM_cons]
    refine (answers_directory (mem d List.mem_cons_self)).bind fun _ _ => ?_
    exact (ih fun x hx => mem x (List.mem_cons_of_mem d hx)).bind fun _ _ => trivial

theorem meets_readPrograms {dialect : Dialect κ} (traced : dialect.Traced whole) (section_ : String)
    (parts : ∀ e ∈ entries, whole.PartEntry e) :
    Meets (Culprit whole) (readPrograms dialect section_ entries)
      fun programs => ∀ e ∈ programs, Statement.ProperIn e.2 := by
  induction entries with
  | nil => exact meets_pure (by simp)
  | cons entry rest ih =>
    obtain ⟨key_part, value_part⟩ := parts entry List.mem_cons_self
    refine (Key.meets_written key_part).bind fun name _ => ?_
    refine (Statement.meets_readBlock traced (section_ ++ "." ++ name) entry.2 value_part).bind
      fun ts hts => ?_
    refine (ih fun e he => parts e (List.mem_cons_of_mem entry he)).bind fun programs h => ?_
    exact meets_pure (List.forall_mem_cons.2 ⟨hts, h⟩)

theorem meets_readNamed {dialect : Dialect κ} (traced : dialect.Traced whole) (section_ : String)
    (parts : ∀ e ∈ entries, whole.PartEntry e) :
    Meets (Culprit whole) (readNamed dialect section_ entries)
      fun programs => ∀ e ∈ programs, Statement.ProperIn e.2 := by
  rw [readNamed, map_eq_pure_bind]
  refine (meets_readPrograms traced section_ parts).bind fun programs proper => ?_
  exact meets_pure fun e he => proper e (Assoc.mem_of_mem_ofList he)

/-- All statements of a bed are proper. -/
structure Proper (bed : Bed) : Prop where
  globals : Statement.ProperIn bed.globals
  templates : ∀ e ∈ bed.templates, Statement.ProperIn e.2
  commands : ∀ e ∈ bed.commands, Statement.ProperIn e.2

theorem answers_readTemplates (names : NameTable) (part : whole.Part d) :
    Answers here whole (readTemplates names d) fun found => ∀ e ∈ found.1, Statement.ProperIn e.2 := by
  have parts : ∀ entries, orElse d (.mapping []) = .mapping entries →
      ∀ e ∈ entries, whole.PartEntry e := by
    intro entries hentries
    rw [orElse] at hentries
    split at hentries
    · exact (hentries ▸ part).all
    · obtain rfl := Document.mapping.inj hentries
      exact nofun
  rw [readTemplates]
  split
  · next entries hentries =>
    have programs := meets_readNamed (Dialect.traced_rendering whole) "templates" (parts _ hentries)
    exact answers_reading programs names
  · exact answers_stop _ _

theorem answers_readCommands (names : NameTable) (part : whole.Part d) :
    Answers here whole (readCommands names d) fun found => ∀ e ∈ found.1, Statement.ProperIn e.2 := by
  rw [readCommands.eq_def]
  split
  · exact fun e he => nomatch he
  · have block := Statement.meets_readBlock (Dialect.traced_commanding whole) "commands" _ part
    refine (answers_reading block names).bind fun ⟨ts, names⟩ hts => ?_
    exact fun e he => List.mem_singleton.1 he ▸ hts
  · have programs := meets_readNamed (Dialect.traced_commanding whole) "commands" part.all
    refine (answers_reading programs names).bind fun ⟨programs, names⟩ h => ?_
    exact List.forall_mem_map.2 h
  · exact answers_stop _ _

theorem answers_ofEntries (here : Whereabouts) (whole : Document) :
    Answers here whole (ofEntries here whole.entries) Proper := by
  have part (key : String) : whole.Part (Document.entry whole.entries key) :=
    part_entry (Document.part_of_mem_entries whole) key
  have globals := Statement.meets_readBlock (Dialect.traced_seeding whole) "globals" _ (part "globals")
  have unknown := parts_of_otherKeys (Document.part_of_mem_entries whole) keys
  refine (answers_reading (meets_refuseKeys _ unknown) _).bind fun _ _ => ?_
  refine (answers_directories fun d hd => List.mem_cons_of_mem _ hd).bind fun includes _ => ?_
  refine (answers_directory List.mem_cons_self).bind fun output _ => ?_
  refine (answers_reading globals _).bind fun ⟨globals, names⟩ hglobals => ?_
  refine (answers_readTemplates _ (part "templates")).bind fun ⟨templates, names⟩ htemplates => ?_
  exact (answers_readCommands _ (part "commands")).bind fun ⟨commands, names⟩ hcommands =>
    ⟨hglobals, htemplates, hcommands⟩

/-- **Documents are beds with proper statements, or refused for what they hold.** -/
theorem answers_ofDocument (here : Whereabouts) (d : Document) :
    Answers here d (ofDocument here d) Proper := by
  cases d with
  | null => exact answers_ofEntries here .null
  | mapping entries => exact answers_ofEntries here (.mapping entries)
  | bool | int | float | text | list => exact answers_stop _ _

theorem yields_ofDocument (here : Whereabouts) (d : Document) : Yields (ofDocument here d) Proper :=
  (answers_ofDocument here d).yields

/-- **Static scope balance.**  No document is refused for a loop that lacks a target, which is the
only reason why a statement would have no code; and all programs of a bed that is read are
balanced. -/
theorem programs_balanced (here : Whereabouts) (d : Document) :
    ofDocument here d ≠ .error (.refused .unpaired) ∧
    ∀ bed, ofDocument here d = .ok bed →
      Machine.Balanced (compile bed.globals) ∧
      (∀ e ∈ bed.templates, Machine.Balanced (compile e.2)) ∧
      ∀ e ∈ bed.commands, Machine.Balanced (compile e.2) := by
  have yields := yields_ofDocument here d
  refine ⟨fun h => ?_, fun bed h => ?_⟩
  · rw [h] at yields
    exact yields rfl
  · rw [h] at yields
    exact ⟨Machine.balanced_of_proper yields.globals,
      fun e he => Machine.balanced_of_proper (yields.templates e he),
      fun e he => Machine.balanced_of_proper (yields.commands e he)⟩

/-- A bed with a loop in its only program. -/
def sleepingBed : Document :=
  .mapping [("commands", .list [.mapping [("for", .text "x"),
    ("in", .mapping [("range", .list [.int 0, .int 2])]), ("do", .list [.mapping [("sleep", .int 1)]])]])]

theorem programs_balanced_sleepingBed :
    ∃ bed, ofDocument default sleepingBed = .ok bed ∧ bed.commands.length = 1 ∧
      ∀ e ∈ bed.commands, Machine.Balanced (compile e.2) := by
  obtain ⟨bed, h, one⟩ : ∃ bed, ofDocument default sleepingBed = .ok bed ∧ bed.commands.length = 1 :=
    ⟨_, rfl, rfl⟩
  exact ⟨bed, h, one, ((programs_balanced default sleepingBed).2 bed h).2.2⟩

/-- **A document is refused for a flaw at a place, or for one of five things that it holds.**  For every
document, with data nested in any way and keys of any kind, and whatever home directories are known: if it
is refused without a place, then one of its texts has an index that is no number, or it has a poll count
that is no quantity, or an integer with too many digits to be written, or it names a directory in the home
of somebody who is not known or whose name has a NUL character.  A document without these is a bed or it
has a flaw. -/
theorem refusal_has_culprit {here : Whereabouts} {d : Document} {e : BedError}
    (refused : ofDocument here d = .error e) : Blamed here d e := by
  have answers := answers_ofDocument here d
  rw [refused] at answers
  exact answers

/-- A bed that waits with a poll count that is a text. -/
def textualPolls : Document :=
  .mapping [("commands", .list [.mapping [("wait",
    .mapping [("timeout", .int 10), ("polls", .text "x")])]])]

theorem refusal_has_culprit_textualPolls :
    ofDocument default textualPolls = .error (.refused .pollCount) ∧
      Blamed default textualPolls (.refused .pollCount) := by
  have refused : ofDocument default textualPolls = .error (.refused .pollCount) := rfl
  exact ⟨refused, refusal_has_culprit refused⟩

/-- A bed with an index that is a superscript. -/
def superscriptIndex : Document :=
  .mapping [("globals", .list [.mapping [("set", .mapping [("x", .mapping [("ref", .text "a[\u00b2]")])])]])]

/-- A bed with an output directory in the home of somebody unknown. -/
def unknownHome : Document := .mapping [("output", .text "~unknown/out")]

/-- A bed with an output directory in the home of somebody whose name has a NUL character. -/
def nulHome : Document := .mapping [("output", .text "~\x00/out")]

/-- A bed that searches for templates in a directory with a number for its name. -/
def numberedDirectory (n : Int) : Document := .mapping [("includes", .list [.int n])]

theorem refused_of_numberedDirectory {n : Int} (long : Text.isWritable n = false) :
    ofDocument here (numberedDirectory n) = .error (.refused .longNumber) := by
  have expected : reading .empty
      (refuseKeys place .bedKeys (otherKeys [("includes", .list [.int n])] keys)) = .ok ((), .empty) := rfl
  have named : (orElse (Document.entry [("includes", .list [.int n])] "includes") (.list [])).asList
      = [.int n] := rfl
  have unwritten : (Document.int n).written? = none := by
    rw [Document.written?, Document.isWritable, long]
    rfl
  have refused : directory here (.int n) = .error (.refused .longNumber) := by rw [directory, unwritten]
  rw [numberedDirectory, ofDocument, ofEntries, expected]
  show (do let includes ← (orElse _ _).asList.mapM (directory here); _) = _
  rw [named, List.mapM_cons, refused]
  rfl

/-- Not every refusal is a flaw with a place: all five others happen. -/
theorem refusals_without_place :
    ofDocument default textualPolls = .error (.refused .pollCount) ∧
    ofDocument default superscriptIndex = .error (.refused .indexDigits) ∧
    ofDocument default (numberedDirectory (10 ^ 4300)) = .error (.refused .longNumber) ∧
    ofDocument default unknownHome = .error (.home .unknown) ∧
    ofDocument default nulHome = .error (.home .nulInOwner) :=
  ⟨rfl, rfl, refused_of_numberedDirectory (by decide +kernel), rfl, rfl⟩

end Bed

end Sweep
