import Mathlib.Data.List.Forall2
import Sweep.Proofs.Deciphering
import Sweep.Proofs.Reading

/-!
# Where every instruction comes from

A document alone says which instructions its program has and which place each of them tells: no name has
to be known for that, and no value has to be read.  A loop tells its own place in all that it adds around
its body, and goes on to do so behind the body, however deep the body is; a guarded block does the same;
and a binding tells the place where it is written.

* `Role`, `Site` — what an instruction does for its statement, and the place that it tells;
* `Site.group`, `Site.nest`, `Site.guarded` — the sites of the layouts, for the sites of a body;
* `Site.ofBlock` — the sites of a document, by recursion over it;
* `Sits` — a line of a program is what a site asks for: a binding is what its keyword with this binding
  alone would be read as, and a command what its data are read as;
* `Sited` — the code of statements has just the lines of some sites, in order, wherever it stands; with
  `sits_group`, `sits_combinations` and `sits_guarded` for the layouts;
* `Target.isHidden_of_gives` — which targets are bound first can be told from the text;
* `Dialect.Tells` — what a kind of program has to say about its commands, and all three kinds do.

The main statement is `sited_readBlock`, by induction over the document.
-/

namespace Sweep

open Reading

/-! ### Sites -/

/-- What an instruction does for the statement that it comes from. -/
inductive Role where
  /-- It is all that one binding, or the data of a command, stands for behind a keyword. -/
  | single (location keyword : String) (data : Document)
  /-- It binds the hidden variable for a loop target. -/
  | hidden (target : Document)
  -- the rest is what loops and guarded blocks add around their bodies
  | enter
  | leave
  | start
  | advance
  | branch
  | goto

/-- The instruction stands alone: it is no part of a loop or of a guarded block. -/
def Role.isLeaf : Role → Bool
  | single .. | hidden _ => true
  | _ => false

/-- An instruction that a document asks for: what it does, and the place that it tells. -/
structure Site where
  role : Role
  place : String

namespace Site

/-- A loop in lock step over `n` variables. -/
def group (place : String) (n : Nat) (body : List Site) : List Site :=
  [⟨.enter, place⟩] ++ List.replicate n ⟨.start, place⟩ ++ [⟨.enter, place⟩] ++ body ++
    [⟨.leave, place⟩] ++ List.replicate n ⟨.advance, place⟩ ++ [⟨.goto, place⟩, ⟨.leave, place⟩]

/-- A loop over the combinations of `n` variables. -/
def nest (place : String) (body : List Site) : Nat → List Site
  | 0 => [⟨.enter, place⟩] ++ body ++ [⟨.leave, place⟩]
  | n + 1 => [⟨.enter, place⟩, ⟨.start, place⟩] ++ nest place body n ++
      [⟨.advance, place⟩, ⟨.goto, place⟩, ⟨.leave, place⟩]

/-- A block behind `n` guards. -/
def guarded (place : String) (n : Nat) (body : List Site) : List Site :=
  List.replicate n ⟨.branch, place⟩ ++ [⟨.enter, place⟩] ++ body ++ [⟨.leave, place⟩]

/-- The keywords whose data are bindings, each with an instruction of its own. -/
def binders : List String := ["set", "assign", "push", "build", "yield"]

/-- The instructions behind a keyword that opens no block. -/
def leaves (location keyword : String) (data : Document) : List Site :=
  if keyword ∈ binders then
    data.entries.map fun e =>
      ⟨.single location keyword (.mapping [e]), location ++ "." ++ keyword ++ "." ++ e.1.display⟩
  else [⟨.single location keyword data, location⟩]

/-- A target is bound to a hidden variable unless it is a range or a bare name. -/
def isHidden : Document → Bool
  | .list _ => true
  | .text s => s.toList.any fun c => c = '[' || c = '.'
  | _ => false

/-- The bindings of hidden variables for the targets of a loop. -/
def hiddens (location : String) (count i : Nat) : List Document → List Site
  | [] => []
  | d :: rest =>
    if isHidden d then
      ⟨.hidden d, Statement.targetPlace location count i⟩ :: hiddens location count (i + 1) rest
    else hiddens location count (i + 1) rest

/-- The targets of a loop, as documents. -/
def targets (entries : List (Key × Document)) : List Document :=
  match Document.entry entries "for", Document.entry entries "in" with
  | .list _, .list targets => targets
  | .list _, _ => []
  | _, target => [target]

/-- A loop, for the sites of its body. -/
def loop (location : String) (entries : List (Key × Document)) (body : List Site) : List Site :=
  let targets := targets entries
  hiddens location targets.length 0 targets ++
    match (Document.entryAt? entries "mode").getD (.text "combinations") with
    | .text "group" => group location targets.length body
    | _ => nest location body targets.length

/-- A statement, for the sites of its body. -/
def ofEntries (keywords : List String) (location : String) (entries : List (Key × Document))
    (body : List Site) : List Site :=
  match (Document.textKeys entries).find? keywords.contains with
  | none => []
  | some "for" => loop location entries body
  | some "if" => guarded location (Document.entry entries "if").asList.length body
  | some keyword => leaves location keyword (Document.entry entries keyword)

mutual

/-- The instructions that a block asks for. -/
def ofBlock (keywords : List String) (location : String) : Document → List Site
  | .list items => ofAll keywords location 0 items
  | _ => []

def ofAll (keywords : List String) (location : String) (i : Nat) : List Document → List Site
  | [] => []
  | d :: rest =>
    ofOne keywords (location ++ "[" ++ toString i ++ "]") d ++ ofAll keywords location (i + 1) rest

def ofOne (keywords : List String) (location : String) : Document → List Site
  | .text s => ofEntries keywords location [(.text s, .null)] []
  | .mapping entries => ofEntries keywords location entries (ofDo keywords (location ++ ".do") entries)
  | _ => []

def ofDo (keywords : List String) (location : String) : List (Key × Document) → List Site
  | [] => []
  | (key, d) :: rest =>
    if key = .text "do" then ofBlock keywords location d else ofDo keywords location rest

end

end Site

variable {κ : Type} {dialect : Dialect κ}

/-- A line of a program is what a site asks for, and tells its place. -/
inductive Sits (dialect : Dialect κ) : Line κ → Site → Prop where
  | single {location keyword place : String} {data : Document} {i : Instruction κ} {t u : NameTable}
      (leaf : i.isLeaf = true)
      (read : (Statement.readEntries dialect location [(.text keyword, data)] (pure [])).Gives t
        [.single i (some place)] u) :
      Sits dialect ⟨i, some place⟩ ⟨.single location keyword data, place⟩
  | hidden {place : String} {target : Document} {e : Expr} {x : NameId} {t u v : NameTable}
      (read : (Target.read place target).Gives t (.inr e) u) (named : u.intern place = (x, v)) :
      Sits dialect ⟨.create x e none, some place⟩ ⟨.hidden target, place⟩
  | enter (place : String) : Sits dialect ⟨.pushScope, some place⟩ ⟨.enter, place⟩
  | leave (place : String) : Sits dialect ⟨.popScope, some place⟩ ⟨.leave, place⟩
  | start (place : String) (t : Target) (x : NameId) (jump : Int) :
      Sits dialect ⟨.start t x jump, some place⟩ ⟨.start, place⟩
  | advance (place : String) (t : Target) (x : NameId) (jump : Int) :
      Sits dialect ⟨.advance t x jump, some place⟩ ⟨.advance, place⟩
  | branch (place : String) (guard : Path) (jump : Int) :
      Sits dialect ⟨.branch guard jump, some place⟩ ⟨.branch, place⟩
  | goto (place : String) (jump : Int) : Sits dialect ⟨.goto jump, some place⟩ ⟨.goto, place⟩

namespace Sits

variable {line : Line κ} {site : Site}

theorem origin (h : Sits dialect line site) : line.origin = some site.place := by
  cases h <;> rfl

theorem isLeaf (h : Sits dialect line site) : line.instruction.isLeaf = site.role.isLeaf := by
  cases h with
  | single leaf _ => exact leaf
  | hidden | enter | leave | start | advance | branch | goto => rfl

end Sits

/-! ### Code -/

theorem Statement.codeAll_append (ts us : List (Statement κ)) (n : Nat) :
    codeAll (ts ++ us) n = codeAll ts n ++ codeAll us (n + (codeAll ts n).length) := by
  induction ts generalizing n with
  | nil => rfl
  | cons t ts ih =>
    simp only [List.cons_append, codeAll, ih, List.append_assoc, List.length_append, Nat.add_assoc]

/-- The code of statements has just the lines of some sites, wherever it stands. -/
def Sited (dialect : Dialect κ) (ts : List (Statement κ)) (sites : List Site) : Prop :=
  ∀ n, List.Forall₂ (Sits dialect) (Statement.codeAll ts n) sites

namespace Sited

variable {ts us body : List (Statement κ)} {sites others : List Site} {place : String}

theorem nil : Sited dialect [] [] := fun _ => .nil

theorem single {i : Instruction κ} {site : Site} (h : Sits dialect ⟨i, some place⟩ site) :
    Sited dialect [.single i (some place)] [site] := fun _ => .cons h .nil

theorem append (first : Sited dialect ts sites) (second : Sited dialect us others) :
    Sited dialect (ts ++ us) (sites ++ others) := by
  intro n
  rw [Statement.codeAll_append]
  exact List.rel_append (first n) (second _)

theorem compiled (h : Sited dialect ts sites) : List.Forall₂ (Sits dialect) (compile ts) sites := by
  rw [compile_eq_codeAll]
  exact h 0

end Sited

section Layouts

variable {block : Code.Block κ} {sites : List Site} {place : String}

theorem sits_map {α : Type} {f : α → Instruction κ} {role : Role}
    (h : ∀ a, Sits dialect ⟨f a, some place⟩ ⟨role, place⟩) (xs : List α) :
    List.Forall₂ (Sits dialect) (xs.map fun a => ⟨f a, some place⟩)
      (List.replicate xs.length ⟨role, place⟩) := by
  induction xs with
  | nil => exact .nil
  | cons a xs ih => exact .cons (h a) ih

variable (inner : ∀ n, List.Forall₂ (Sits dialect) (block n) sites)

include inner

/-- A block in a scope of its own. -/
theorem sits_scope (n : Nat) :
    List.Forall₂ (Sits dialect) ([⟨.pushScope, some place⟩] ++ block n ++ [⟨.popScope, some place⟩])
      ([⟨.enter, place⟩] ++ sites ++ [⟨.leave, place⟩]) :=
  List.rel_append (List.rel_append (.cons (.enter place) .nil) (inner n)) (.cons (.leave place) .nil)

theorem sits_group (vars : List (NameId × Target)) (n : Nat) :
    List.Forall₂ (Sits dialect) (Code.group (some place) vars block n)
      (Site.group place vars.length sites) := by
  have enter : List.Forall₂ (Sits dialect) [⟨.pushScope, some place⟩] [⟨.enter, place⟩] :=
    .cons (.enter place) .nil
  have leave : List.Forall₂ (Sits dialect) [⟨.popScope, some place⟩] [⟨.leave, place⟩] :=
    .cons (.leave place) .nil
  refine List.rel_append (List.rel_append (List.rel_append (List.rel_append
    (List.rel_append (List.rel_append enter ?starts) enter) (inner _)) leave) ?advances)
    (.cons (.goto place _) leave)
  case starts => exact sits_map (fun v => .start place v.2 v.1 _) vars
  case advances => exact sits_map (fun v => .advance place v.2 v.1 _) vars

theorem sits_combinations (vars : List (NameId × Target)) (n : Nat) :
    List.Forall₂ (Sits dialect) (Code.combinations (some place) block vars n)
      (Site.nest place sites vars.length) := by
  induction vars generalizing n with
  | nil => exact sits_scope inner (n + 1)
  | cons v vars ih =>
    obtain ⟨x, t⟩ := v
    exact List.rel_append
      (List.rel_append (.cons (.enter place) (.cons (.start place t x _) .nil)) (ih (n + 2)))
      (.cons (.advance place t x _) (.cons (.goto place _) (.cons (.leave place) .nil)))

theorem sits_guarded (guards : List Path) (n : Nat) :
    List.Forall₂ (Sits dialect) (Code.guarded (some place) guards block n)
      (Site.guarded place guards.length sites) := by
  refine List.rel_append (List.rel_append (List.rel_append ?branches (.cons (.enter place) .nil))
    (inner _)) (.cons (.leave place) .nil)
  exact sits_map (fun g => .branch place g _) guards

end Layouts

/-! ### Readers -/

namespace Reading

variable {α β : Type} {r : Reading α} {a : α} {t u : NameTable} {location : String} {f : Flaw}

theorem gives_written {text : Option String} {s : String} :
    (written text).Gives t s u ↔ text = some s ∧ t = u := by
  cases text with
  | none =>
    refine iff_of_false (fun h => ?_) (fun h => nomatch h.1)
    cases h
  | some s' => exact gives_pure.trans (and_congr_left' (Option.some_inj.symm))

theorem gives_written_key {k : Key} {s : String} (h : (written k.written?).Gives t s u) :
    s = k.display ∧ t = u := by
  obtain ⟨text, same⟩ := gives_written.1 h
  exact ⟨(Key.written?_eq_some.1 text).2.symm, same⟩

/-- A reader that refuses keys goes on only if there are none. -/
theorem of_gives_refuseKeys {flaw : String → Flaw} {keys : List Key} {done : Unit}
    (h : (refuseKeys location flaw keys).Gives t done u) : keys = [] ∧ t = u := by
  rw [refuseKeys] at h
  split at h
  · next none_ => exact ⟨List.isEmpty_iff.1 none_, (gives_pure.1 h).2⟩
  · obtain ⟨names, t₁, -, h⟩ := gives_bind.1 h
    exact absurd h not_gives_stop

theorem length_of_gives_mapM {read : α → Reading β} {xs : List α} {ys : List β}
    (h : (xs.mapM read).Gives t ys u) : ys.length = xs.length := by
  induction xs generalizing t u ys with
  | nil =>
    rw [List.mapM_nil] at h
    obtain ⟨rfl, -⟩ := gives_pure.1 h
    rfl
  | cons x xs ih =>
    rw [List.mapM_cons, gives_bind] at h
    obtain ⟨y, t₁, -, h⟩ := h
    obtain ⟨ys, t₂, rest, h⟩ := gives_bind.1 h
    rw [← (gives_pure.1 h).1, List.length_cons, List.length_cons, ih rest]

end Reading

/-! ### Targets -/

/-- What is cut from the ends of a text is white space. -/
theorem Text.mem_strip {c : Char} {cs : List Char} (h : c ∈ cs) (visible : isBlank c = false) :
    c ∈ strip cs := by
  have kept {ds : List Char} (h : c ∈ ds) : c ∈ ds.dropWhile isBlank := by
    rw [← List.takeWhile_append_dropWhile (p := isBlank) (l := ds), List.mem_append] at h
    refine h.resolve_left fun front => ?_
    rw [List.all_eq_true.1 List.all_takeWhile c front] at visible
    cases visible
  rw [strip, trim, List.mem_reverse]
  exact kept (List.mem_reverse.2 (kept h))

/-- A path is more than a bare name just if its text has a bracket or a point. -/
theorem Spells.isBare_eq_false_iff {t u : NameTable} {cs : List Char} {p : Path} (h : Spells t cs p u) :
    p.isBare = false ↔ ∃ c ∈ cs, c = '[' ∨ c = '.' := by
  cases h with
  | last hn hp =>
    cases hp with
    | whole =>
      refine iff_of_false (fun bare => nomatch bare) ?_
      rw [List.append_nil]
      rintro ⟨c, hc, rfl | rfl⟩
      · exact absurd (hn.continues _ hc) (by decide)
      · exact absurd (hn.continues _ hc) (by decide)
    | _ => exact iff_of_true rfl ⟨'[', by simp, .inl rfl⟩
  | dot => exact iff_of_true rfl ⟨'.', by simp, .inr rfl⟩

theorem Site.isHidden_text {s : String} {t u : NameTable} {p : Path}
    (h : Spells t (Text.strip s.toList) p u) : isHidden (.text s) = !p.isBare := by
  rw [Bool.eq_iff_iff, isHidden, List.any_eq_true, Bool.not_eq_true', h.isBare_eq_false_iff]
  constructor
  · rintro ⟨c, hc, found⟩
    have found : c = '[' ∨ c = '.' := by simpa using found
    refine ⟨c, Text.mem_strip hc ?_, found⟩
    rcases found with rfl | rfl <;> decide
  · rintro ⟨c, hc, found⟩
    exact ⟨c, (Text.strip_isInfix _).subset hc, by simpa using found⟩

/-- Whether a target is bound first can be told from the document. -/
theorem Target.isHidden_of_gives {location : String} {d : Document} {t u : NameTable}
    {found : Target ⊕ Expr} (h : (read location d).Gives t found u) :
    Site.isHidden d = found.isRight := by
  rw [read.eq_def] at h
  split at h
  · obtain ⟨bounds, _, -, h⟩ := gives_bind.1 h
    rw [← (gives_pure.1 h).1]
    rfl
  · obtain ⟨e, _, -, h⟩ := gives_bind.1 h
    rw [← (gives_pure.1 h).1]
    rfl
  · obtain ⟨path, _, given, h⟩ := gives_bind.1 h
    rw [← (gives_pure.1 h).1, Site.isHidden_text (Path.gives_read_iff.1 given)]
    cases path.isBare <;> rfl
  · exact absurd h not_gives_stop

/-! ### Statements -/

theorem entries_of_gives_readBindings {location : String} {d : Document} {t u : NameTable}
    {bindings : List (Key × Document)} (h : (readBindings location d).Gives t bindings u) :
    bindings = d.entries := by
  rw [readBindings.eq_def] at h
  split at h
  · exact (gives_pure.1 h).1.symm
  · exact absurd h not_gives_stop

/-- Each command of a kind of program tells the place that its keyword asks for, and is what its own data
would be read as. -/
def Dialect.Tells (dialect : Dialect κ) : Prop :=
  ∀ keyword ∈ dialect.keywords, keyword ∉ ["set", "assign", "push", "for", "if"] →
    ∀ location data t commands u, (dialect.commands keyword location data).Gives t commands u →
      List.Forall₂ (fun c site => ∃ own t u, site = ⟨.single location keyword own, c.2⟩ ∧
        (dialect.commands keyword location own).Gives t [c] u)
        commands (Site.leaves location keyword data)

namespace Statement

variable {location keyword : String} {entries : List (Key × Document)} {d : Document}
  {t u : NameTable} {ts : List (Statement κ)} {body : Reading (List (Statement κ))} {sites : List Site}

/-- Read what stands behind a keyword. -/
def readBehind (dialect : Dialect κ) (location keyword : String) (entries : List (Key × Document))
    (body : Reading (List (Statement κ))) : Reading (List (Statement κ)) := do
  let data := Document.entry entries keyword
  match keyword with
  | "set" => readBinding keyword location (fun x e => .create x e none) data
  | "assign" => readBinding keyword location (fun x e => .assign x e none) data
  | "push" => readBinding keyword location .push data
  | "for" => readLoop location entries body
  | "if" => readGuarded location entries body
  | _ =>
    let commands ← dialect.commands keyword location data
    return commands.map fun (c, place) => .single (.command c) (some place)

/-- A statement with one keyword that counts is what stands behind it. -/
theorem gives_readEntries (h : (readEntries dialect location entries body).Gives t ts u) :
    ∃ keyword, (Document.textKeys entries).find? dialect.keywords.contains = some keyword ∧
      (readBehind dialect location keyword entries body).Gives t ts u := by
  rw [readEntries] at h
  split at h
  · obtain ⟨first, t₁, -, h⟩ := gives_bind.1 h
    exact absurd h not_gives_stop
  · next keyword found =>
    obtain ⟨_, t₁, refused, h⟩ := gives_bind.1 h
    obtain ⟨-, rfl⟩ := of_gives_refuseKeys refused
    exact ⟨keyword, found, h⟩

/-- A keyword may stand beside itself. -/
theorem mem_allowedBeside (keyword : String) : keyword ∈ allowedBeside keyword := by
  rw [allowedBeside.eq_def]
  split <;> simp

theorem readEntries_alone (mem : keyword ∈ dialect.keywords) (d : Document) :
    readEntries dialect location [(.text keyword, d)] body
      = readBehind dialect location keyword [(.text keyword, d)] body := by
  have found : (Document.textKeys [(.text keyword, d)]).find? dialect.keywords.contains = some keyword := by
    simp [Document.textKeys, Key.text?, mem]
  have none_other : otherKeys [(.text keyword, d)] (allowedBeside keyword) = [] := by
    simp [otherKeys, Key.isAmong, Key.text?, mem_allowedBeside]
  rw [readEntries, found]
  dsimp only
  rw [none_other]
  rfl

theorem entry_alone (keyword : String) (d : Document) :
    Document.entry [(.text keyword, d)] keyword = d := by
  simp [Document.entry, Document.entryAt?, Assoc.get?]

/-- Bindings become instructions in their order, each of which tells the place of its binding. -/
theorem sited_readEach {make : NameId → Expr → Instruction κ} (leaf : ∀ x e, (make x e).isLeaf = true)
    (alone : ∀ e : Key × Document, readEntries dialect location [(.text keyword, .mapping [e])] (pure [])
      = readEach (location ++ "." ++ keyword) make [e])
    (h : (readEach (location ++ "." ++ keyword) make entries).Gives t ts u) :
    Sited dialect ts (entries.map fun e =>
      ⟨.single location keyword (.mapping [e]), location ++ "." ++ keyword ++ "." ++ e.1.display⟩) := by
  induction entries generalizing t u ts with
  | nil =>
    obtain ⟨rfl, -⟩ := gives_pure.1 h
    exact .nil
  | cons e entries ih =>
    obtain ⟨name, t', written, h⟩ := gives_bind.1 h
    obtain ⟨rfl, rfl⟩ := gives_written_key written
    obtain ⟨x, t₁, named, h⟩ := gives_bind.1 h
    obtain ⟨value, t₂, read, h⟩ := gives_bind.1 h
    obtain ⟨others, t₃, rest, h⟩ := gives_bind.1 h
    obtain ⟨rfl, -⟩ := gives_pure.1 h
    have own : (readEach (location ++ "." ++ keyword) make [e]).Gives t
        [.single (make x value) (some (location ++ "." ++ keyword ++ "." ++ e.1.display))] t₂ :=
      gives_bind.2 ⟨_, t, written, gives_bind.2 ⟨x, t₁, named, gives_bind.2 ⟨value, t₂, read, rfl⟩⟩⟩
    exact (Sited.single (.single (leaf x value) (alone e ▸ own))).append (ih rest)

theorem sited_readBinding {make : NameId → Expr → Instruction κ} (mem : keyword ∈ dialect.keywords)
    (binder : keyword ∈ Site.binders) (leaf : ∀ x e, (make x e).isLeaf = true)
    (behind : ∀ entries, readBehind dialect location keyword entries (pure [])
      = readBinding keyword location make (Document.entry entries keyword))
    (h : (readBinding keyword location make d).Gives t ts u) :
    Sited dialect ts (Site.leaves location keyword d) := by
  obtain ⟨bindings, t₁, given, bound⟩ := gives_bind.1 h
  obtain rfl := entries_of_gives_readBindings given
  rw [Site.leaves, if_pos binder]
  refine sited_readEach leaf (fun e => ?_) bound
  rw [readEntries_alone mem, behind, entry_alone]
  rfl

/-- Commands tell the places that they are asked for. -/
theorem sited_commands (tells : dialect.Tells) (mem : keyword ∈ dialect.keywords)
    (other : keyword ∉ ["set", "assign", "push", "for", "if"]) (data : Document)
    {commands : List (κ × String)} (h : (dialect.commands keyword location data).Gives t commands u) :
    Sited dialect (commands.map fun (c, place) => .single (.command c) (some place))
      (Site.leaves location keyword data) := by
  have alone (own : Document) : readEntries dialect location [(.text keyword, own)] (pure []) = (do
      let commands ← dialect.commands keyword location own
      return commands.map fun (c, place) => .single (.command c) (some place)) := by
    simp only [List.mem_cons, List.not_mem_nil, or_false, not_or] at other
    obtain ⟨no_set, no_assign, no_push, no_for, no_if⟩ := other
    rw [readEntries_alone mem, readBehind.eq_def, entry_alone]
    dsimp only
    split
    · exact absurd rfl no_set
    · exact absurd rfl no_assign
    · exact absurd rfl no_push
    · exact absurd rfl no_for
    · exact absurd rfl no_if
    · rfl
  have told := tells keyword mem other location data t commands u h
  clear h
  generalize Site.leaves location keyword data = sites at told
  induction told with
  | nil => exact .nil
  | @cons c site commands sites first _ ih =>
    obtain ⟨own, t', u', rfl, read⟩ := first
    have given : (readEntries dialect location [(.text keyword, own)] (pure [])).Gives t'
        [.single (.command c.1) (some c.2)] u' := by
      rw [alone]
      exact gives_bind.2 ⟨[c], u', read, rfl⟩
    exact (Sited.single (.single rfl given)).append ih

/-- Targets that are bound first tell their own places; and there is a target for each document. -/
theorem sited_readTargets {count i : Nat} {ds : List Document} {found : List Target}
    (h : (readTargets location count i ds).Gives t (ts, found) u) :
    Sited dialect ts (Site.hiddens location count i ds) ∧ found.length = ds.length := by
  induction ds generalizing i t u ts found with
  | nil =>
    obtain ⟨same, -⟩ := gives_pure.1 h
    obtain ⟨rfl, rfl⟩ := Prod.mk.inj same
    exact ⟨.nil, rfl⟩
  | cons d ds ih =>
    rw [readTargets, gives_bind] at h
    obtain ⟨target, t₁, read, h⟩ := h
    cases target with
    | inl target =>
      have walked : Site.isHidden d = false := Target.isHidden_of_gives read
      obtain ⟨⟨others, left⟩, t₂, rest, h⟩ := gives_bind.1 h
      obtain ⟨same, -⟩ := gives_pure.1 h
      obtain ⟨rfl, rfl⟩ := Prod.mk.inj same
      obtain ⟨sited, length_eq⟩ := ih rest
      rw [Site.hiddens, walked]
      exact ⟨sited, congrArg Nat.succ length_eq⟩
    | inr e =>
      have hidden : Site.isHidden d = true := Target.isHidden_of_gives read
      obtain ⟨x, t₂, named, h⟩ := gives_bind.1 h
      obtain ⟨⟨others, left⟩, t₃, rest, h⟩ := gives_bind.1 h
      obtain ⟨same, -⟩ := gives_pure.1 h
      obtain ⟨rfl, rfl⟩ := Prod.mk.inj same
      obtain ⟨sited, length_eq⟩ := ih rest
      rw [Site.hiddens, hidden]
      exact ⟨(Sited.single (.hidden read (gives_intern.1 named))).append sited,
        congrArg Nat.succ length_eq⟩

theorem of_gives_loopParts {iters targets : List Document}
    (h : (loopParts location entries).Gives t (iters, targets) u) : targets = Site.targets entries := by
  rw [loopParts.eq_def] at h
  rw [Site.targets]
  generalize Document.entry entries "for" = iter, Document.entry entries "in" = target at h ⊢
  cases iter with
  | list iters' =>
    cases target with
    | list targets' =>
      dsimp only at h
      split at h
      · exact absurd h not_gives_stop
      · exact (Prod.mk.inj (gives_pure.1 h).1).2.symm
    | null | bool | int | float | text | mapping => exact absurd h not_gives_stop
  | null | bool | int | float | text | mapping => exact (Prod.mk.inj (gives_pure.1 h).1).2.symm

theorem sited_loopOf {mode : LoopMode} {iters : List NameId} {targets : List Target}
    {block : List (Statement κ)} {loop : Statement κ} (hblock : Sited dialect block sites)
    (h : (loopOf mode iters targets block (some location)).Gives t loop u) :
    Sited dialect [loop]
      (match mode with
        | .group => Site.group location targets.length sites
        | .combinations => Site.nest location sites targets.length) := by
  rw [loopOf, pairTargets?] at h
  split at h
  · next vars paired =>
    obtain ⟨rfl, -⟩ := gives_pure.1 h
    split at paired
    · next same_length =>
      have vars_length : vars.length = targets.length := by
        rw [← Option.some.inj paired, List.length_zip, same_length, Nat.min_self]
      intro n
      rw [← vars_length]
      cases mode with
      | group =>
        simp only [codeAll, code, List.append_nil]
        exact sits_group hblock vars n
      | combinations =>
        simp only [codeAll, code, List.append_nil]
        exact sits_combinations hblock vars n
    · cases paired
  · cases h

/-- Reading the mode of a loop knows no new names, and the mode is what is written. -/
theorem of_gives_readMode {mode : LoopMode} (h : (readMode location entries).Gives t mode u) :
    t = u ∧
      match mode with
      | .group => (Document.entryAt? entries "mode").getD (.text "combinations") = .text "group"
      | .combinations =>
        (Document.entryAt? entries "mode").getD (.text "combinations") = .text "combinations" := by
  rw [readMode.eq_def] at h
  split at h
  · next given =>
    obtain ⟨rfl, same⟩ := gives_pure.1 h
    exact ⟨same, given⟩
  · next given =>
    obtain ⟨rfl, same⟩ := gives_pure.1 h
    exact ⟨same, given⟩
  · obtain ⟨text, t₁, -, h⟩ := gives_bind.1 h
    exact absurd h not_gives_stop

/-- A loop behind the bindings of its hidden variables. -/
theorem sited_readLoop (hbody : ∀ {t ts u}, body.Gives t ts u → Sited dialect ts sites)
    (h : (readLoop location entries body).Gives t ts u) :
    Sited dialect ts (Site.loop location entries sites) := by
  obtain ⟨⟨iters, targets⟩, t₁, parts, h⟩ := gives_bind.1 h
  obtain ⟨mode, t₂, mode_read, h⟩ := gives_bind.1 h
  obtain ⟨⟨hidden, found⟩, t₃, targets_read, h⟩ := gives_bind.1 h
  obtain ⟨vars, t₄, -, h⟩ := gives_bind.1 h
  obtain ⟨block, t₅, block_read, h⟩ := gives_bind.1 h
  obtain ⟨loop, t₆, made, h⟩ := gives_bind.1 h
  obtain ⟨rfl, -⟩ := gives_pure.1 h
  obtain rfl := of_gives_loopParts parts
  obtain ⟨bound, found_length⟩ := sited_readTargets targets_read
  have looped := sited_loopOf (hbody block_read) made
  rw [found_length] at looped
  rw [Site.loop]
  refine bound.append ?_
  have given := (of_gives_readMode mode_read).2
  cases mode with
  | group =>
    rw [given]
    exact looped
  | combinations =>
    rw [given]
    exact looped

theorem sited_readGuarded (hbody : ∀ {t ts u}, body.Gives t ts u → Sited dialect ts sites)
    (h : (readGuarded location entries body).Gives t ts u) :
    Sited dialect ts (Site.guarded location (Document.entry entries "if").asList.length sites) := by
  obtain ⟨guards, t₁, guards_read, h⟩ := gives_bind.1 h
  obtain ⟨block, t₂, block_read, h⟩ := gives_bind.1 h
  obtain ⟨rfl, -⟩ := gives_pure.1 h
  intro n
  rw [← length_of_gives_mapM guards_read]
  simp only [codeAll, code, List.append_nil]
  exact sits_guarded (hbody block_read) guards n

theorem sited_readEntries (tells : dialect.Tells)
    (hbody : ∀ {t ts u}, body.Gives t ts u → Sited dialect ts sites)
    (h : (readEntries dialect location entries body).Gives t ts u) :
    Sited dialect ts (Site.ofEntries dialect.keywords location entries sites) := by
  obtain ⟨keyword, found, h⟩ := gives_readEntries h
  have mem : keyword ∈ dialect.keywords := by simpa using List.find?_some found
  rw [Site.ofEntries, found]
  rw [readBehind.eq_def] at h
  dsimp only at h
  split at h
  · exact sited_readBinding mem (by decide) (fun _ _ => rfl) (fun _ => rfl) h
  · exact sited_readBinding mem (by decide) (fun _ _ => rfl) (fun _ => rfl) h
  · exact sited_readBinding mem (by decide) (fun _ _ => rfl) (fun _ => rfl) h
  · exact sited_readLoop hbody h
  · exact sited_readGuarded hbody h
  · next no_set no_assign no_push no_for no_if =>
    obtain ⟨commands, t₁, given, h⟩ := gives_bind.1 h
    obtain ⟨rfl, -⟩ := gives_pure.1 h
    have other : keyword ∉ ["set", "assign", "push", "for", "if"] := by
      simp only [List.mem_cons, List.not_mem_nil, or_false, not_or]
      exact ⟨no_set, no_assign, no_push, no_for, no_if⟩
    split
    · next missing => cases missing
    · next same => exact absurd (Option.some.inj same) no_for
    · next same => exact absurd (Option.some.inj same) no_if
    · next same =>
      obtain rfl := Option.some.inj same
      exact sited_commands tells mem other _ given

mutual

/-- **The code of a block has the lines that the block asks for**, by induction over the document. -/
theorem sited_readBlock (tells : dialect.Tells) (location : String) (d : Document) {t u : NameTable}
    {ts : List (Statement κ)} (h : (readBlock dialect location d).Gives t ts u) :
    Sited dialect ts (Site.ofBlock dialect.keywords location d) := by
  match d with
  | .null =>
    obtain ⟨rfl, -⟩ := gives_pure.1 h
    exact .nil
  | .list items => exact sited_readAll tells location 0 items h
  | .bool _ | .int _ | .float _ | .text _ | .mapping _ => exact absurd h not_gives_stop

theorem sited_readAll (tells : dialect.Tells) (location : String) (i : Nat) (ds : List Document)
    {t u : NameTable} {ts : List (Statement κ)} (h : (readAll dialect location i ds).Gives t ts u) :
    Sited dialect ts (Site.ofAll dialect.keywords location i ds) := by
  match ds with
  | [] =>
    obtain ⟨rfl, -⟩ := gives_pure.1 h
    exact .nil
  | d :: rest =>
    rw [readAll] at h
    obtain ⟨first, t₁, first_read, h⟩ := gives_bind.1 h
    obtain ⟨others, t₂, rest_read, h⟩ := gives_bind.1 h
    obtain ⟨rfl, -⟩ := gives_pure.1 h
    rw [Site.ofAll]
    exact (sited_readOne tells _ d first_read).append (sited_readAll tells location (i + 1) rest rest_read)

theorem sited_readOne (tells : dialect.Tells) (location : String) (d : Document) {t u : NameTable}
    {ts : List (Statement κ)} (h : (readOne dialect location d).Gives t ts u) :
    Sited dialect ts (Site.ofOne dialect.keywords location d) := by
  match d with
  | .text s =>
    rw [readOne] at h
    rw [Site.ofOne]
    refine sited_readEntries tells (fun given => ?_) h
    obtain ⟨rfl, -⟩ := gives_pure.1 given
    exact .nil
  | .mapping (e :: es) =>
    rw [readOne] at h
    rw [Site.ofOne]
    exact sited_readEntries tells (sited_readDo tells (location ++ ".do") (e :: es)) h
  | .mapping [] | .null | .bool _ | .int _ | .float _ | .list _ => exact absurd h not_gives_stop

theorem sited_readDo (tells : dialect.Tells) (location : String) (entries : List (Key × Document))
    {t u : NameTable} {ts : List (Statement κ)} (h : (readDo dialect location entries).Gives t ts u) :
    Sited dialect ts (Site.ofDo dialect.keywords location entries) := by
  match entries with
  | [] =>
    obtain ⟨rfl, -⟩ := gives_pure.1 h
    exact .nil
  | (key, d) :: rest =>
    rw [readDo] at h
    rw [Site.ofDo]
    split at h
    · next same =>
      rw [if_pos same]
      exact sited_readBlock tells location d h
    · next other =>
      rw [if_neg other]
      exact sited_readDo tells location rest h

end

end Statement

/-! ### Kinds of programs -/

namespace RenderCommand

variable {location : String} {read : String → Document → Reading (NameId → RenderCommand)}
  {entries : List (Key × Document)} {t u : NameTable} {commands : List (RenderCommand × String)}

/-- Each command comes of one binding. -/
theorem each_of_gives_readEach (h : (readEach location read entries).Gives t commands u) :
    List.Forall₂ (fun c e => c.2 = location ++ "." ++ e.1.display ∧
      ∃ t u, (readEach location read [e]).Gives t [c] u) commands entries := by
  induction entries generalizing t u commands with
  | nil =>
    obtain ⟨rfl, -⟩ := gives_pure.1 h
    exact .nil
  | cons e entries ih =>
    obtain ⟨name, t', written, h⟩ := gives_bind.1 h
    obtain ⟨rfl, rfl⟩ := gives_written_key written
    obtain ⟨make, t₁, made, h⟩ := gives_bind.1 h
    obtain ⟨x, t₂, named, h⟩ := gives_bind.1 h
    obtain ⟨others, t₃, rest, h⟩ := gives_bind.1 h
    obtain ⟨rfl, -⟩ := gives_pure.1 h
    have own : (readEach location read [e]).Gives t _ t₂ :=
      gives_bind.2 ⟨_, t, written, gives_bind.2 ⟨make, t₁, made, gives_bind.2 ⟨x, t₂, named, rfl⟩⟩⟩
    exact .cons ⟨rfl, t, t₂, own⟩ (ih rest)

end RenderCommand

/-- A command for child processes tells the place of its statement. -/
theorem Command.of_gives_readCommands {keyword location : String} {d : Document} {t u : NameTable}
    {commands : List (Command × String)} (h : (readCommands keyword location d).Gives t commands u) :
    ∃ c, commands = [(c, location)] := by
  have last {c : Command} {t : NameTable}
      (h : (pure [(c, location)] : Reading (List (Command × String))).Gives t commands u) :
      ∃ c, commands = [(c, location)] := ⟨c, (gives_pure.1 h).1.symm⟩
  rw [readCommands.eq_def] at h
  dsimp only at h
  split at h
  case h_3 =>
    obtain ⟨c, _, -, h⟩ := gives_bind.1 h
    exact last h
  all_goals
    obtain ⟨data, _, -, h⟩ := gives_bind.1 h
    obtain ⟨c, _, -, h⟩ := gives_bind.1 h
    exact last h

namespace Dialect

/-- There are no commands in a program that fills the outermost scope. -/
theorem tells_seeding : seeding.Tells := by
  intro keyword mem other
  have common : keyword ∈ ["set", "assign", "push", "for", "if"] := by
    simp only [seeding, List.mem_cons, List.not_mem_nil, or_false] at mem ⊢
    tauto
  exact absurd common other

theorem tells_rendering : rendering.Tells := by
  intro keyword mem other location data t commands u h
  have binder : keyword ∈ Site.binders := by
    simp only [rendering, List.mem_cons, List.not_mem_nil, or_false] at mem other
    simp only [Site.binders, List.mem_cons, List.not_mem_nil, or_false]
    tauto
  obtain ⟨bindings, t₁, given, h⟩ := gives_bind.1 h
  obtain rfl := entries_of_gives_readBindings given
  rw [Site.leaves, if_pos binder, List.forall₂_map_right_iff]
  refine (RenderCommand.each_of_gives_readEach h).imp fun c e ⟨place_eq, t', u', own⟩ => ?_
  exact ⟨.mapping [e], t', u', by rw [place_eq], own⟩

theorem tells_commanding : commanding.Tells := by
  intro keyword mem other location data t commands u h
  have no_binder : keyword ∉ Site.binders := by
    simp only [commanding, List.mem_cons, List.not_mem_nil, or_false] at mem other
    rintro binder
    simp only [Site.binders, List.mem_cons, List.not_mem_nil, or_false] at binder
    rcases binder with rfl | rfl | rfl | rfl | rfl <;> simp at mem other
  rw [Site.leaves, if_neg no_binder]
  obtain ⟨c, rfl⟩ := Command.of_gives_readCommands h
  exact .cons ⟨data, t, u, rfl, h⟩ .nil

end Dialect

end Sweep
