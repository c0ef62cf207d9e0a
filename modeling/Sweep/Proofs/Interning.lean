import Mathlib.Data.List.Induction
import Sweep.NameTable.Index
import Sweep.Proofs.Naming

/-!
# Numbers of names

Names and numbers belong to each other one to one, in the order in which the names were met, and whatever
is done with a table, a number that was given out keeps its name.  All programs of a bed are read with one
table, and a program may be run long after it was read, so this has to hold for any mixture of calls and of
readers, with those that stop halfway.

* `NameTable.internAll` — calls in a row; `names_internAll`, the names stand in the order of first use, and
  `Grows.eq_internAll`, a table that grew did so by calls;
* `NameIndex.InStep` — the map of an index has the names of its list with their positions; one call is
  `InStep.intern`, all calls are `InStep.internAll`;
* `NameTable.Use` — what is done with a table; `grows_after` is one use, `afterAll_eq_internAll` are all;
* `NameTable.Numbering` — a map and a list are inverse to each other, on the names that were asked for;
* `Bed.names_eq_afterAll` — the table of a bed is what is left by reading its programs one after the other.

The main statement is `NameTable.numbering_stable`.
-/

namespace Sweep

namespace NameTable

variable {t u : NameTable} {name other : String} {x : NameId} {new : List String}

/-! ### Calls in a row -/

theorem nodup_empty : empty.names.Nodup := List.nodup_nil

theorem names_intern (t : NameTable) (name : String) :
    (t.intern name).2.names = if name ∈ t.names then t.names else t.names ++ [name] := by
  rw [intern]
  split
  · next id found =>
    have known : t.names[id]? = some name := nameOf?_of_idOf? found
    rw [if_pos (List.mem_of_getElem? known)]
  · next absent => rw [if_neg (List.idxOf?_eq_none_iff.1 absent)]

/-- Two names get one number just if they are one name. -/
theorem intern_eq_iff (nodup : t.names.Nodup) (known : t.nameOf? x = some name) :
    (t.intern other).1 = x ↔ other = name := by
  constructor
  · rintro rfl
    have kept := (t.intern_extends other).nameOf? known
    exact Option.some.inj ((t.nameOf?_intern other).symm.trans kept)
  · rintro rfl
    rw [intern_of_nameOf? nodup known]

/-- Intern names one after the other. -/
def internAll (t : NameTable) (calls : List String) : NameTable :=
  calls.foldl (fun u name => (u.intern name).2) t

theorem internAll_append (t : NameTable) (first rest : List String) :
    t.internAll (first ++ rest) = (t.internAll first).internAll rest := List.foldl_append

theorem grows_internAll (calls : List String) (t : NameTable) : t.Grows (t.internAll calls) := by
  induction calls generalizing t with
  | nil => exact .refl t
  | cons name rest ih => exact (t.grows_intern name).trans (ih _)

theorem nodup_internAll (calls : List String) : (empty.internAll calls).names.Nodup :=
  (grows_internAll calls empty).nodup nodup_empty

/-- **Names stand in the order of their first use.** -/
theorem names_internAll (calls : List String) : (empty.internAll calls).names = calls.eraseDups := by
  induction calls using List.reverseRecOn with
  | nil => rfl
  | append_singleton calls name ih =>
    rw [internAll_append, eraseDups_snoc, ← ih]
    exact names_intern _ name

/-- New names that differ from each other are added as they are. -/
theorem internAll_of_nodup (nodup : (t.names ++ new).Nodup) : t.internAll new = ⟨t.names ++ new⟩ := by
  induction new generalizing t with
  | nil =>
    rw [List.append_nil]
    rfl
  | cons name rest ih =>
    have fresh : name ∉ t.names := fun mem =>
      (List.nodup_append.1 nodup).2.2 name mem name List.mem_cons_self rfl
    have added : (t.intern name).2.names ++ rest = t.names ++ name :: rest := by
      rw [names_intern, if_neg fresh, List.append_assoc]
      rfl
    show (t.intern name).2.internAll rest = _
    rw [ih (added ▸ nodup), added]

/-- **A table that grew did so by calls**: those for the names that it has got. -/
theorem Grows.eq_internAll (h : t.Grows u) (nodup : t.names.Nodup) :
    u = t.internAll (u.names.drop t.size) := by
  have whole : t.names ++ u.names.drop t.size = u.names := List.prefix_iff_eq_append.1 h.keeps
  have distinct : (t.names ++ u.names.drop t.size).Nodup := by
    rw [whole]
    exact h.nodup nodup
  rw [internAll_of_nodup distinct, whole]

end NameTable

/-! ### A map beside the list -/

theorem Assoc.get?_zipIdx (name : String) (names : List String) (start : Nat) :
    get? name (names.zipIdx start) = (names.idxOf? name).map (· + start) := by
  induction names generalizing start with
  | nil => rfl
  | cons first rest ih =>
    rw [List.zipIdx_cons, get?, List.idxOf?_cons, ih]
    by_cases h : first = name
    · simp [h]
    · have apart : (first == name) = false := beq_false_of_ne h
      rw [if_neg h, apart, if_neg Bool.false_ne_true, Option.map_map]
      simp only [Function.comp_def, Nat.add_assoc, Nat.add_comm 1]

namespace NameIndex

variable {x : NameIndex} {t : NameTable}

/-- An index is in step with a table: its list is that of the table, and its map has each name of the list
with its position, and nothing else. -/
structure InStep (x : NameIndex) (t : NameTable) : Prop where
  names : x.names = t.names
  ids : x.ids = t.names.zipIdx

theorem InStep.get? (h : x.InStep t) (name : String) : Assoc.get? name x.ids = t.idOf? name := by
  rw [h.ids, Assoc.get?_zipIdx]
  exact Option.map_id'

/-- **A call gives the same number on both sides, and leaves them in step.** -/
theorem InStep.intern (h : x.InStep t) (name : String) :
    (x.intern name).1 = (t.intern name).1 ∧ (x.intern name).2.InStep (t.intern name).2 := by
  rw [NameIndex.intern, NameTable.intern, h.get? name]
  cases found : t.idOf? name with
  | some id => exact ⟨rfl, h⟩
  | none =>
    -- a name without a number is no key of the map, so it is written behind all others
    have absent : ∀ e ∈ x.ids, e.1 ≠ name := by
      rintro e he rfl
      rw [h.ids] at he
      exact List.idxOf?_eq_none_iff.1 found (List.fst_mem_of_mem_zipIdx he)
    have written : Assoc.set name x.names.length x.ids = x.ids ++ [(name, x.names.length)] := by
      simpa [Assoc.set] using Assoc.set_append absent x.names.length []
    refine ⟨congrArg List.length h.names, congrArg (· ++ [name]) h.names, ?_⟩
    show Assoc.set name x.names.length x.ids = (t.names ++ [name]).zipIdx
    rw [written, List.zipIdx_append, h.ids, h.names]
    simp

theorem InStep.internAll (h : x.InStep t) (calls : List String) :
    (x.internAll calls).InStep (t.internAll calls) := by
  induction calls generalizing x t with
  | nil => exact h
  | cons name rest ih => exact ih (h.intern name).2

end NameIndex

/-! ### Calls and readers -/

namespace NameTable

variable {t : NameTable} {calls : List String}

/-- What is done with a table: a name is interned, or a text or a document is read, whether or not it turns
out to be well formed. -/
inductive Use where
  | intern (name : String)
  | path (location text : String)
  /-- A text with paths in it. -/
  | text (location text : String)
  /-- The value of a binding. -/
  | value (location : String) (d : Document)
  /-- A value whose texts may be rendered files. -/
  | built (location : String) (d : Document)
  /-- The statements of a program, one kind of program each. -/
  | seeding (location : String) (d : Document)
  | rendering (location : String) (d : Document)
  | commanding (location : String) (d : Document)

/-- The table behind a use.  A reader that stops leaves the names that it has met by then. -/
def after (t : NameTable) : Use → NameTable
  | .intern name => (t.intern name).2
  | .path location text => ((Path.ofString location text).run t).2
  | .text location text => ((Interpolation.read location text).run t).2
  | .value location d => ((Expr.read location d).run t).2
  | .built location d => ((BuiltExpr.read location d).run t).2
  | .seeding location d => ((Statement.readBlock .seeding location d).run t).2
  | .rendering location d => ((Statement.readBlock .rendering location d).run t).2
  | .commanding location d => ((Statement.readBlock .commanding location d).run t).2

/-- The table behind some uses. -/
def afterAll (t : NameTable) (uses : List Use) : NameTable := uses.foldl after t

/-- The names that a use asks for: a call asks for its own, and a reader for those that it adds, the others
having their numbers already. -/
def asked (t : NameTable) : Use → List String
  | .intern name => [name]
  | reader => (t.after reader).names.drop t.size

/-- The names that are asked for by some uses. -/
def askedAll (t : NameTable) : List Use → List String
  | [] => []
  | first :: rest => t.asked first ++ (t.after first).askedAll rest

theorem grows_after (t : NameTable) (use : Use) : t.Grows (t.after use) := by
  cases use with
  | intern name => exact t.grows_intern name
  | path location text => exact (Path.lasting_ofString location text).grows t
  | text location text => exact (Interpolation.lasting_read location text).grows t
  | value location d => exact (Expr.lasting_read location d).grows t
  | built location d => exact (BuiltExpr.lasting_read d).grows t
  | seeding location d => exact (Statement.lasting_readBlock Dialect.sound_seeding location d).grows t
  | rendering location d => exact (Statement.lasting_readBlock Dialect.sound_rendering location d).grows t
  | commanding location d => exact (Statement.lasting_readBlock Dialect.sound_commanding location d).grows t

theorem grows_afterAll (uses : List Use) (t : NameTable) : t.Grows (t.afterAll uses) := by
  induction uses generalizing t with
  | nil => exact .refl t
  | cons use rest ih => exact (t.grows_after use).trans (ih _)

theorem after_eq_internAll (nodup : t.names.Nodup) (use : Use) :
    t.after use = t.internAll (t.asked use) := by
  cases use with
  | intern name => rfl
  -- what a reader asked for is defined by how much the table grew
  | _ => exact (t.grows_after _).eq_internAll nodup

/-- **Whatever is done with a table comes to calls in a row.** -/
theorem afterAll_eq_internAll (nodup : t.names.Nodup) (uses : List Use) :
    t.afterAll uses = t.internAll (t.askedAll uses) := by
  induction uses generalizing t with
  | nil => rfl
  | cons use rest ih =>
    show (t.after use).afterAll rest = _
    rw [askedAll, internAll_append, ← after_eq_internAll nodup, ih ((t.grows_after use).nodup nodup)]

/-! ### Numbers and names -/

/-- A map and a list number the names that were called for. -/
structure Numbering (calls : List String) (idOf? : String → Option NameId) (names : List String) :
    Prop where
  /-- The list has every name once, in the order of first use. -/
  ordered : names = calls.eraseDups
  /-- The map leads to a number from that name alone to which the list leads back. -/
  inverse : ∀ name id, idOf? name = some id ↔ names[id]? = some name
  /-- The map is defined on the names that were called for. -/
  named : ∀ name, (∃ id, idOf? name = some id) ↔ name ∈ calls
  /-- The map reaches all numbers below the count. -/
  numbered : ∀ id, (∃ name, idOf? name = some id) ↔ id < names.length

theorem numbering_internAll (calls : List String) :
    Numbering calls (empty.internAll calls).idOf? (empty.internAll calls).names := by
  have inverse (name : String) (id : NameId) : (empty.internAll calls).idOf? name = some id ↔
      (empty.internAll calls).names[id]? = some name :=
    ⟨nameOf?_of_idOf?, idOf?_of_nameOf? (nodup_internAll calls)⟩
  refine ⟨names_internAll calls, inverse, fun name => ?_, fun id => ?_⟩
  · simp only [inverse]
    rw [← List.mem_iff_getElem?, names_internAll, List.mem_eraseDups]
  · simp only [inverse]
    constructor
    · rintro ⟨name, at_id⟩
      exact (List.getElem?_eq_some_iff.1 at_id).1
    · exact fun lt => ⟨_, List.getElem?_eq_getElem lt⟩

theorem numbering_afterAll (uses : List Use) :
    Numbering (empty.askedAll uses) (empty.afterAll uses).idOf? (empty.afterAll uses).names := by
  rw [afterAll_eq_internAll nodup_empty]
  exact numbering_internAll _

/-- **Names and numbers belong to each other for good.**  After any calls and readers, mixed in any way and
with readers that stop among them, the map of an index, its list and the lookups of the table number the
names that were asked for, one to one and in the order of first use, and all give the next name the same
number.  The number that a name gets stays with it, whatever is done then: it still stands for that name,
and no other name gets it.  And whatever is done only adds to the names that there are. -/
theorem numbering_stable (uses : List Use) :
    let calls := empty.askedAll uses
    let t := empty.afterAll uses
    let x := ({} : NameIndex).internAll calls
    (Numbering calls t.idOf? t.names ∧ Numbering calls (Assoc.get? · x.ids) x.names ∧
      ∀ name, (x.intern name).1 = (t.intern name).1) ∧
    (∀ name later, let (id, u) := t.intern name
      (u.afterAll later).nameOf? id = some name ∧
        ∀ other, ((u.afterAll later).intern other).1 = id ↔ other = name) ∧
    ∀ later, (t.afterAll later).Extends t := by
  intro calls t x
  have numbering : Numbering calls t.idOf? t.names := numbering_afterAll uses
  have step : x.InStep t := by
    rw [show t = empty.internAll calls from afterAll_eq_internAll nodup_empty uses]
    exact NameIndex.InStep.internAll ⟨rfl, rfl⟩ calls
  have mapped : Numbering calls (Assoc.get? · x.ids) x.names := by
    rw [show (Assoc.get? · x.ids) = t.idOf? from funext step.get?, step.names]
    exact numbering
  refine ⟨⟨numbering, mapped, fun name => (step.intern name).1⟩, fun name later => ?_, fun later =>
    (grows_afterAll later t).keeps⟩
  -- the number was known when it was given out, and everything since then only added names
  have grown := grows_afterAll later (t.intern name).2
  have nodup : t.names.Nodup := (grows_afterAll uses empty).nodup nodup_empty
  have known := grown.keeps.nameOf? (t.nameOf?_intern name)
  exact ⟨known, fun other => intern_eq_iff (grown.nodup ((t.grows_intern name).nodup nodup)) known⟩

/-- A path whose bracket is not closed leaves the names in front of its end, and the next reader finds one of
them. -/
example : (empty.afterAll [.path "p" "host[pick", .text "s" "on $\x7bpick.port\x7d", .intern "host"]).names =
    ["host", "pick", "port"] := by decide +kernel

end NameTable

/-! ### Beds -/

namespace Bed

open NameTable

variable {κ : Type} {dialect : Dialect κ} {t u : NameTable} {entries : List (Key × Document)}

/-- The uses by which the template programs are read. -/
def templateUses (entries : List (Key × Document)) : List Use :=
  (writtenSources "templates" (orElse (Document.entry entries "templates") (.mapping [])).entries).map
    fun source => .rendering source.2.1 source.2.2

/-- The uses by which the command programs are read. -/
def commandUses (entries : List (Key × Document)) : List Use :=
  match Document.entry entries "commands" with
  | .list items => [.commanding "commands" (.list items)]
  | .mapping programs =>
    (writtenSources "commands" programs).map fun source => .commanding source.2.1 source.2.2
  | _ => []

/-- The uses of one table by which a bed is read: its programs one after the other, those included that
count no more when a later one has their name. -/
def uses (entries : List (Key × Document)) : List Use :=
  .seeding "globals" (Document.entry entries "globals") :: (templateUses entries ++ commandUses entries)

theorem eq_afterAll_of_readPrograms {use : String → Document → Use}
    (reads : ∀ t location d, t.after (use location d) = ((Statement.readBlock dialect location d).run t).2)
    {section_ : String} {programs : List (String × List (Statement κ))}
    (given : (readPrograms dialect section_ entries).Gives t programs u) :
    u = t.afterAll ((writtenSources section_ entries).map fun source => use source.2.1 source.2.2) := by
  induction entries generalizing t programs with
  | nil => exact (Reading.gives_pure.1 given).2.symm
  | cons entry rest ih =>
    obtain ⟨name, _, written, given⟩ := Reading.gives_bind.1 given
    obtain ⟨rfl, rfl⟩ := Reading.gives_written_key written
    obtain ⟨ts, v, block, given⟩ := Reading.gives_bind.1 given
    obtain ⟨others, w, remaining, last⟩ := Reading.gives_bind.1 given
    obtain ⟨-, rfl⟩ := Reading.gives_pure.1 last
    have first : t.after (use (section_ ++ "." ++ entry.1.display) entry.2) = v := by
      rw [reads, show (Statement.readBlock dialect _ entry.2).run t = _ from block]
    rw [ih remaining, ← first]
    rfl

theorem eq_afterAll_of_readNamed {use : String → Document → Use}
    (reads : ∀ t location d, t.after (use location d) = ((Statement.readBlock dialect location d).run t).2)
    {section_ : String} {programs : List (String × List (Statement κ))}
    (given : (readNamed dialect section_ entries).Gives t programs u) :
    u = t.afterAll ((writtenSources section_ entries).map fun source => use source.2.1 source.2.2) := by
  rw [readNamed, map_eq_pure_bind] at given
  obtain ⟨all, v, read, last⟩ := Reading.gives_bind.1 given
  obtain ⟨-, rfl⟩ := Reading.gives_pure.1 last
  exact eq_afterAll_of_readPrograms reads read

theorem eq_afterAll_of_readTemplates {programs : List (String × List (Statement RenderCommand))}
    (read : readTemplates t (Document.entry entries "templates") = .ok (programs, u)) :
    u = t.afterAll (templateUses entries) := by
  rw [readTemplates] at read
  rw [templateUses]
  split at read
  · next found given =>
    rw [given]
    exact eq_afterAll_of_readNamed (fun _ _ _ => rfl) (gives_of_reading read)
  · cases read

theorem eq_afterAll_of_readCommands {programs : List (Option String × List (Statement Command))}
    (read : readCommands t (Document.entry entries "commands") = .ok (programs, u)) :
    u = t.afterAll (commandUses entries) := by
  rw [readCommands.eq_def] at read
  rw [commandUses]
  split at read
  · next given =>
    rw [given]
    exact (Prod.mk.inj (Except.ok.inj read)).2.symm
  · next items given =>
    obtain ⟨⟨ts, v⟩, block, last⟩ := exists_of_bind_ok read
    have whole := gives_of_reading block
    rw [given, ← (Prod.mk.inj (Except.ok.inj last)).2]
    exact (congrArg Prod.snd whole).symm
  · next found given =>
    obtain ⟨⟨named, v⟩, block, last⟩ := exists_of_bind_ok read
    rw [given, ← (Prod.mk.inj (Except.ok.inj last)).2]
    exact eq_afterAll_of_readNamed (fun _ _ _ => rfl) (gives_of_reading block)
  · cases read

section Documents

variable {here : Whereabouts} {bed : Bed} {d : Document}

theorem names_eq_afterAll (read : ofDocument here d = .ok bed) :
    bed.names = empty.afterAll (uses d.entries) := by
  obtain ⟨t, u, globals, templates, commands⟩ := exists_of_ofEntries (ofEntries_of_ofDocument read)
  have seeded : empty.after (.seeding "globals" (Document.entry d.entries "globals")) = t :=
    congrArg Prod.snd (gives_of_reading globals)
  rw [eq_afterAll_of_readCommands commands, eq_afterAll_of_readTemplates templates, ← seeded]
  exact List.foldl_append.symm

/-- **The names of a bed are numbered across its programs**, in the order of first use. -/
theorem numbering_names (read : ofDocument here d = .ok bed) :
    Numbering (empty.askedAll (uses d.entries)) bed.names.idOf? bed.names.names := by
  rw [names_eq_afterAll read]
  exact numbering_afterAll _

end Documents

end Bed

end Sweep
