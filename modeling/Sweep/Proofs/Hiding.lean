import Sweep.Proofs.Naming

/-!
# Hidden variables

A loop walks over a variable.  Where the target of a loop is anything else, its value is bound first, to a
hidden variable that has the place of the target for its name.  A place has a dot in it, so no path can name
a hidden variable; and places of targets tell targets apart, so no two targets have the same one.

* `Line.hidden?`, `hiddenIn`, `walkedIn` — the hidden variables of a program, and the variables that its
  loops walk over;
* `Weaves` — of the variables that loops walk over, those that no path can name are the hidden ones, in the
  order in which these are bound;
* `Hides` — the hidden variables of a part of a program, and how parts are put together;
* `lasting_hides` — the hidden variables of a block, by induction over the document.

The main statement is `Bed.programs_hide`.
-/

namespace Sweep

open Reading

variable {κ : Type}

/-! ### Variables of loops -/

/-- The variable that is walked over, unless it is a range. -/
def Target.walked? : Target → Option NameId
  | elements x => some x
  | range .. => none

/-- The hidden variable that a line binds: the line comes from the place that the variable has for its
name. -/
def Line.hidden? (names : NameTable) : Line κ → Option NameId
  | ⟨.create x _ none, some place⟩ => if names.nameOf? x = some place then some x else none
  | _ => none

namespace Statement

mutual

/-- The instructions of a statement that stand alone. -/
def singles : Statement κ → List (Line κ)
  | single i origin => [⟨i, origin⟩]
  | loop _ _ body _ => singlesIn body
  | guarded _ body _ => singlesIn body

def singlesIn : List (Statement κ) → List (Line κ)
  | [] => []
  | s :: rest => singles s ++ singlesIn rest

end

mutual

/-- The variables that the loops of a statement walk over. -/
def walked : Statement κ → List NameId
  | single .. => []
  | loop _ vars body _ => vars.filterMap (·.2.walked?) ++ walkedIn body
  | guarded _ body _ => walkedIn body

def walkedIn : List (Statement κ) → List NameId
  | [] => []
  | s :: rest => walked s ++ walkedIn rest

end

/-- The hidden variables that a program binds. -/
def hiddenIn (names : NameTable) (ts : List (Statement κ)) : List NameId :=
  (singlesIn ts).filterMap (Line.hidden? names)

variable {names t : NameTable} {ts us : List (Statement κ)}

theorem singlesIn_append (ts us : List (Statement κ)) :
    singlesIn (ts ++ us) = singlesIn ts ++ singlesIn us := by
  induction ts with
  | nil => rfl
  | cons t ts ih => simp only [List.cons_append, singlesIn, ih, List.append_assoc]

theorem walkedIn_append (ts us : List (Statement κ)) :
    walkedIn (ts ++ us) = walkedIn ts ++ walkedIn us := by
  induction ts with
  | nil => rfl
  | cons t ts ih => simp only [List.cons_append, walkedIn, ih, List.append_assoc]

theorem hiddenIn_append (names : NameTable) (ts us : List (Statement κ)) :
    hiddenIn names (ts ++ us) = hiddenIn names ts ++ hiddenIn names us := by
  simp only [hiddenIn, singlesIn_append, List.filterMap_append]

/-- A single instruction binds a hidden variable, or none. -/
theorem hiddenIn_single (names : NameTable) (i : Instruction κ) (origin : Option String)
    (ts : List (Statement κ)) :
    hiddenIn names (single i origin :: ts)
      = (Line.hidden? names ⟨i, origin⟩).toList ++ hiddenIn names ts := by
  rw [hiddenIn, singlesIn, singles, List.singleton_append, List.filterMap_cons]
  split
  · next none_ => simp [none_, hiddenIn]
  · next x some_ => simp [some_, hiddenIn]

end Statement

/-! ### Names that no path has -/

/-- **A name with a dot in it is never read from a path.** -/
theorem NameTable.not_knows_of_dot {t : NameTable} {x : NameId} {name : String}
    (named : t.nameOf? x = some name) (dot : '.' ∈ name.toList) : ¬ t.Knows x := by
  rintro ⟨name', named', isName⟩
  obtain rfl := Option.some.inj (named.symm.trans named')
  have continues := isName.continues '.' dot
  exact absurd continues (by decide +kernel)

theorem dot_mem_targetPlace (location : String) (count i : Nat) :
    '.' ∈ (Statement.targetPlace location count i).toList := by
  rw [Statement.targetPlace]
  split
  · simp [String.toList_append]
  · simp [String.toList_append]

/-- Of the variables that loops walk over, those that no path can name are some hidden variables, in
order. -/
inductive Weaves (t : NameTable) : (hidden walked : List NameId) → Prop where
  | nil : Weaves t [] []
  | known {x : NameId} {hidden walked : List NameId} (known : t.Knows x) (rest : Weaves t hidden walked) :
      Weaves t hidden (x :: walked)
  | hidden {x : NameId} {hidden walked : List NameId} (unknown : ¬ t.Knows x)
      (rest : Weaves t hidden walked) : Weaves t (x :: hidden) (x :: walked)

namespace Weaves

variable {t : NameTable} {hidden walked hs ws : List NameId} {x : NameId}

theorem append (h : Weaves t hidden walked) (h' : Weaves t hs ws) :
    Weaves t (hidden ++ hs) (walked ++ ws) := by
  induction h with
  | nil => exact h'
  | known known _ ih => exact .known known ih
  | hidden unknown _ ih => exact .hidden unknown ih

theorem not_knows (h : Weaves t hidden walked) (hx : x ∈ hidden) : ¬ t.Knows x := by
  induction h with
  | nil => cases hx
  | known _ _ ih => exact ih hx
  | hidden unknown _ ih =>
    rcases List.mem_cons.1 hx with rfl | hx
    · exact unknown
    · exact ih hx

theorem knows_or_mem (h : Weaves t hidden walked) (hx : x ∈ walked) : t.Knows x ∨ x ∈ hidden := by
  induction h with
  | nil => cases hx
  | known known _ ih =>
    rcases List.mem_cons.1 hx with rfl | hx
    · exact .inl known
    · exact ih hx
  | hidden _ _ ih =>
    rcases List.mem_cons.1 hx with rfl | hx
    · exact .inr List.mem_cons_self
    · exact (ih hx).imp id (List.mem_cons_of_mem _)

/-- A variable that no path can name is walked over as often as it is bound. -/
theorem count_eq (h : Weaves t hidden walked) (unknown : ¬ t.Knows x) :
    walked.count x = hidden.count x := by
  induction h with
  | nil => rfl
  | @known y _ _ known _ ih =>
    have other : y ≠ x := fun same => unknown (same ▸ known)
    rw [List.count_cons_of_ne other, ih]
  | @hidden y _ _ _ _ ih => rw [List.count_cons, List.count_cons, ih]

end Weaves

/-! ### Parts of programs -/

/-- Some hidden variables are all different and have places in one part of a document for their names, and
loops walk over just these and over variables that paths can name. -/
structure Hides (t : NameTable) (scope : String → Prop) (hidden walked : List NameId) : Prop where
  nodup : hidden.Nodup
  inside : ∀ x ∈ hidden, ∃ place, t.nameOf? x = some place ∧ scope place
  weaves : Weaves t hidden walked

namespace Hides

variable {t : NameTable} {scope left right : String → Prop} {hidden walked hs ws : List NameId}

theorem nil (t : NameTable) (scope : String → Prop) : Hides t scope [] [] where
  nodup := List.nodup_nil
  inside _ h := nomatch h
  weaves := .nil

theorem mono (h : Hides t left hidden walked) (wider : ∀ p, left p → right p) :
    Hides t right hidden walked where
  nodup := h.nodup
  inside x hx := by
    obtain ⟨place, named, here⟩ := h.inside x hx
    exact ⟨place, named, wider place here⟩
  weaves := h.weaves

/-- Variables with names from different parts of a document are different. -/
theorem append (h : Hides t left hidden walked) (h' : Hides t right hs ws)
    (apart : ∀ p, left p → right p → False) (hl : ∀ p, left p → scope p) (hr : ∀ p, right p → scope p) :
    Hides t scope (hidden ++ hs) (walked ++ ws) where
  nodup := by
    refine List.nodup_append.2 ⟨h.nodup, h'.nodup, ?_⟩
    rintro x hx _ hy rfl
    obtain ⟨place, named, here⟩ := h.inside x hx
    obtain ⟨place', named', there⟩ := h'.inside x hy
    obtain rfl := Option.some.inj (named.symm.trans named')
    exact apart place here there
  inside x hx := by
    rcases List.mem_append.1 hx with hx | hx
    · exact (h.mono hl).inside x hx
    · exact (h'.mono hr).inside x hx
  weaves := h.weaves.append h'.weaves

/-- A variable with a dot in its name, and the loop over it. -/
theorem single {x : NameId} {place : String} (named : t.nameOf? x = some place) (here : scope place)
    (dot : '.' ∈ place.toList) : Hides t scope [x] [x] where
  nodup := List.nodup_singleton x
  inside _ hy := List.mem_singleton.1 hy ▸ ⟨place, named, here⟩
  weaves := .hidden (NameTable.not_knows_of_dot named dot) .nil

theorem known {x : NameId} (known : t.Knows x) (h : Hides t scope hidden walked) :
    Hides t scope hidden (x :: walked) :=
  ⟨h.nodup, h.inside, .known known h.weaves⟩

end Hides

/-! ### Statements -/

/-- A variable that a path names can be named by a path. -/
theorem Target.lasting_walked (location : String) (d : Document) :
    Lasting (read location d) fun v found => ∀ x, found = .inl (.elements x) → v.Knows x := by
  rw [read.eq_def]
  split
  · refine (Bound.lasting_readPair _).bind fun b => lasting_pure fun v _ x h => ?_
    cases Sum.inl.inj h
  · refine (Expr.lasting_read _ _).pure_of fun v e _ x h => ?_
    cases h
  · refine (Path.lasting_ofString _ _).pure_of fun v path sound x h => ?_
    cases path with
    | last y pick =>
      split at h
      · obtain rfl := Target.elements.inj (Sum.inl.inj h)
        exact sound.1
      · cases h
    | dot => cases h
  · exact lasting_stop _ _

namespace Statement

variable {location : String} {entries : List (Key × Document)} {dialect : Dialect κ}

/-- What a block hides, in some part of a document. -/
def Hiding (scope : String → Prop) (v : NameTable) (ts : List (Statement κ)) : Prop :=
  Hides v scope (hiddenIn v ts) (walkedIn ts)

theorem hiding_nil (scope : String → Prop) (v : NameTable) : Hiding scope v ([] : List (Statement κ)) :=
  .nil v scope

/-- A binding of the bed has the name of its key, which is shorter than its place. -/
theorem hidden?_of_key {v : NameTable} {x : NameId} {key : String} (named : v.nameOf? x = some key)
    (place : String) (e : Expr) :
    Line.hidden? (κ := κ) v ⟨.create x e none, some (place ++ "." ++ key)⟩ = none := by
  refine if_neg fun same => ?_
  have lengths := congrArg String.length (Option.some.inj (named.symm.trans same))
  rw [String.length_append, String.length_append] at lengths
  have dot : ".".length = 1 := rfl
  omega

theorem lasting_hides_readEach {make : NameId → Expr → Instruction κ} {place : String}
    (unhidden : ∀ (v : NameTable) x key e, v.nameOf? x = some key →
      Line.hidden? v ⟨make x e, some (place ++ "." ++ key)⟩ = none)
    (scope : String → Prop) (entries : List (Key × Document)) :
    Lasting (readEach place make entries) (Hiding scope) := by
  induction entries with
  | nil => exact lasting_pure (hiding_nil scope)
  | cons entry rest ih =>
    obtain ⟨key, d⟩ := entry
    refine (lasting_written _).andThen fun name => (lasting_intern name).bind fun x => ?_
    refine (Expr.lasting_read _ d).bind fun e => ih.pure_of fun v ts hts _ named => ?_
    rw [Hiding, hiddenIn_single, unhidden v x name e named, walkedIn, walked]
    exact hts

theorem lasting_hides_readBinding (keyword : String) {make : NameId → Expr → Instruction κ}
    (unhidden : ∀ (v : NameTable) x key e, v.nameOf? x = some key →
      Line.hidden? v ⟨make x e, some (location ++ "." ++ keyword ++ "." ++ key)⟩ = none)
    (scope : String → Prop) (d : Document) :
    Lasting (readBinding keyword location make d) (Hiding scope) :=
  (RenderCommand.lasting_readBindings d).bind fun bindings =>
    (lasting_hides_readEach unhidden scope bindings).imp fun _ _ hides _ => hides

/-- **The targets of a loop are told apart by their places.** -/
theorem lasting_hides_readTargets (count i : Nat) (ds : List Document)
    (nodup : ((List.range' i ds.length).map (targetPlace location count)).Nodup) :
    Lasting (readTargets (κ := κ) location count i ds) fun v found =>
      walkedIn found.1 = [] ∧
        Hides v (· ∈ (List.range' i ds.length).map (targetPlace location count)) (hiddenIn v found.1)
          (found.2.filterMap Target.walked?) := by
  induction ds generalizing i with
  | nil => exact lasting_pure fun v => ⟨rfl, .nil v _⟩
  | cons d rest ih =>
    rw [List.length_cons, List.range'_succ, List.map_cons] at nodup ⊢
    obtain ⟨new, nodup⟩ := List.nodup_cons.1 nodup
    have later (p : String) (h : p ∈ (List.range' (i + 1) rest.length).map (targetPlace location count)) :
        p ∈ targetPlace location count i
          :: (List.range' (i + 1) rest.length).map (targetPlace location count) :=
      List.mem_cons_of_mem _ h
    rw [readTargets]
    refine (Target.lasting_walked _ _).bind fun found => ?_
    split
    · next target =>
      refine (ih (i + 1) nodup).bind fun others => lasting_pure fun v hothers walks => ?_
      refine ⟨hothers.1, ?_⟩
      cases target with
      | elements x => exact (hothers.2.mono later).known (walks x rfl)
      | range => exact hothers.2.mono later
    · next e =>
      refine (lasting_intern _).bind fun x => ((ih (i + 1) nodup).bind fun others => ?_)
      refine lasting_pure fun v hothers named _ => ⟨?_, ?_⟩
      · rw [walkedIn, walked, hothers.1]
        rfl
      · have first : Hides v (· = targetPlace location count i) [x] [x] :=
          .single named rfl (dot_mem_targetPlace location count i)
        have bound : Line.hidden? (κ := κ) v ⟨.create x e none, some (targetPlace location count i)⟩ = some x :=
          if_pos named
        rw [hiddenIn_single, bound]
        refine first.append hothers.2 ?_ (fun p h => List.mem_cons.2 (.inl h)) later
        rintro p rfl h
        exact new h

theorem lasting_hides_loopOf (mode : LoopMode) (iters : List NameId) (targets : List Target)
    (body : List (Statement κ)) (origin : Option String) :
    Lasting (loopOf mode iters targets body origin) fun _ t =>
      t.singles = singlesIn body ∧ t.walked = targets.filterMap Target.walked? ++ walkedIn body := by
  rw [loopOf, pairTargets?]
  split
  · next vars paired =>
    refine lasting_pure fun v => ⟨by rw [singles], ?_⟩
    split at paired
    · next same =>
      obtain rfl := Option.some.inj paired
      have seconds : (iters.zip targets).map Prod.snd = targets := List.map_snd_zip (by omega)
      rw [walked, ← seconds, List.filterMap_map]
      simp only [seconds, Function.comp_def]
    · cases paired
  · exact lasting_throw _

/-- Targets and bodies stand under different keys. -/
theorem not_below_in_and_do {location p : String} (target : Below (location ++ ".in") p)
    (body : Below (location ++ ".do") p) : False := by
  refine not_below_of_keys target body fun r s same => ?_
  have chars := congrArg String.toList same
  rw [String.toList_append, String.toList_append] at chars
  exact absurd chars (by simp)

theorem lasting_hides_readLoop (entries : List (Key × Document)) {body : Reading (List (Statement κ))}
    (hbody : Lasting body (Hiding (Below (location ++ ".do")))) :
    Lasting (readLoop location entries body) (Hiding (Below location)) := by
  refine (lasting_loopParts entries).bind fun parts => ?_
  refine (lasting_readMode entries).bind fun mode => ?_
  refine (lasting_hides_readTargets _ 0 parts.2 (Site.nodup_targetPlaces location _)).bind
    fun ⟨hidden, targets⟩ => ?_
  refine (lasting_mapM lasting_readVariable _).bind fun vars => ?_
  refine hbody.bind fun block => ?_
  refine (lasting_hides_loopOf mode vars targets block (some location)).pure_of
    fun v t loop hblock _ found _ _ => ?_
  have singles_eq : singlesIn [t] = singlesIn block := by
    rw [singlesIn, singlesIn, List.append_nil, loop.1]
  have walked_eq : walkedIn (hidden ++ [t]) = targets.filterMap Target.walked? ++ walkedIn block := by
    rw [walkedIn_append, found.1, List.nil_append, walkedIn, walkedIn, List.append_nil, loop.2]
  rw [Hiding, walked_eq, hiddenIn_append, hiddenIn, hiddenIn, singles_eq]
  have targets_below : Hides v (Below (location ++ ".in")) (hiddenIn v hidden)
      (targets.filterMap Target.walked?) := by
    refine found.2.mono fun p h => ?_
    obtain ⟨i, -, rfl⟩ := List.mem_map.1 h
    exact Site.below_targetPlace location _ i
  exact targets_below.append hblock (fun _ => not_below_in_and_do) (fun _ => .of_append)
    fun _ => .of_append

theorem lasting_hides_readGuarded (entries : List (Key × Document))
    {body : Reading (List (Statement κ))} (hbody : Lasting body (Hiding (Below (location ++ ".do")))) :
    Lasting (readGuarded location entries body) (Hiding (Below location)) := by
  refine (lasting_mapM (fun _ => Expr.lasting_readPath _ _) _).bind fun guards => ?_
  refine hbody.pure_of fun v block hblock _ => ?_
  rw [Hiding, hiddenIn, singlesIn, singlesIn, singles, List.append_nil, walkedIn, walkedIn, walked,
    List.append_nil]
  exact hblock.mono fun _ => .of_append

/-- Commands hide nothing. -/
theorem hiding_commands (scope : String → Prop) (v : NameTable) (commands : List (κ × String)) :
    Hiding scope v (commands.map fun c => single (.command c.1) (some c.2)) := by
  induction commands with
  | nil => exact hiding_nil scope v
  | cons c rest ih =>
    rw [List.map_cons, Hiding, hiddenIn_single, walkedIn, walked]
    exact ih

theorem lasting_hides_readEntries {command : κ → List Path} (sound : dialect.Sound command)
    (entries : List (Key × Document)) {body : Reading (List (Statement κ))}
    (hbody : Lasting body (Hiding (Below (location ++ ".do")))) :
    Lasting (readEntries dialect location entries body) (Hiding (Below location)) := by
  rw [readEntries]
  split
  · exact (lasting_written _).andThen fun _ => lasting_stop _ _
  · refine (lasting_refuseKeys _ _ _).andThen fun _ => ?_
    dsimp only
    split
    · exact lasting_hides_readBinding _ (fun _ _ _ e named => hidden?_of_key named _ e) _ _
    · exact lasting_hides_readBinding _ (fun _ _ _ _ _ => rfl) _ _
    · exact lasting_hides_readBinding _ (fun _ _ _ _ _ => rfl) _ _
    · exact lasting_hides_readLoop entries hbody
    · exact lasting_hides_readGuarded entries hbody
    · exact (sound _ _ _).pure_of fun v commands _ => hiding_commands _ v commands

mutual

/-- **The hidden variables of a block are all different**, by induction over the document. -/
theorem lasting_hides {command : κ → List Path} (sound : dialect.Sound command) (location : String)
    (d : Document) : Lasting (readBlock dialect location d) (Hiding (Below location)) := by
  match d with
  | .null => exact lasting_pure (hiding_nil _)
  | .list items =>
    refine (lasting_hides_readAll sound location 0 items).imp fun v ts hides => hides.mono ?_
    rintro p ⟨i, -, h⟩
    rw [itemPlace, String.append_assoc, String.append_assoc] at h
    exact h.of_append
  | .bool _ | .int _ | .float _ | .text _ | .mapping _ => exact lasting_stop _ _

theorem lasting_hides_readAll {command : κ → List Path} (sound : dialect.Sound command)
    (location : String) (i : Nat) (ds : List Document) :
    Lasting (readAll dialect location i ds)
      (Hiding fun p => ∃ j, i ≤ j ∧ Below (itemPlace location j) p) := by
  match ds with
  | [] => exact lasting_pure (hiding_nil _)
  | d :: rest =>
    rw [readAll]
    refine (lasting_hides_readOne sound (itemPlace location i) d).bind fun first => ?_
    refine (lasting_hides_readAll sound location (i + 1) rest).pure_of fun v others hothers hfirst => ?_
    rw [Hiding, hiddenIn_append, walkedIn_append]
    refine hfirst.append hothers ?_ (fun p h => ⟨i, Nat.le_refl i, h⟩) ?_
    · rintro p here ⟨j, later, there⟩
      have same := item_eq_of_below here there
      omega
    · rintro p ⟨j, later, h⟩
      exact ⟨j, by omega, h⟩

theorem lasting_hides_readOne {command : κ → List Path} (sound : dialect.Sound command)
    (location : String) (d : Document) :
    Lasting (readOne dialect location d) (Hiding (Below location)) := by
  match d with
  | .text s => exact lasting_hides_readEntries sound _ (lasting_pure (hiding_nil _))
  | .mapping (e :: es) =>
    exact lasting_hides_readEntries sound _ (lasting_hides_readDo sound (location ++ ".do") (e :: es))
  | .mapping [] | .null | .bool _ | .int _ | .float _ | .list _ => exact lasting_stop _ _

theorem lasting_hides_readDo {command : κ → List Path} (sound : dialect.Sound command)
    (location : String) (entries : List (Key × Document)) :
    Lasting (readDo dialect location entries) (Hiding (Below location)) := by
  match entries with
  | [] => exact lasting_pure (hiding_nil _)
  | (key, d) :: rest =>
    rw [readDo]
    split
    · exact lasting_hides sound location d
    · exact lasting_hides_readDo sound location rest

end

end Statement

/-! ### Beds -/

namespace Bed

/-- The hidden variables of all programs of a bed. -/
def hidden (bed : Bed) : List NameId :=
  Statement.hiddenIn bed.names bed.globals ++
    bed.templates.flatMap (fun e => Statement.hiddenIn bed.names e.2) ++
    bed.commands.flatMap (fun e => Statement.hiddenIn bed.names e.2)

/-- **Each program of a bed hides some variables**, with the names that the bed has in the end. -/
theorem programs_hide {here : Whereabouts} {d : Document} {bed : Bed} (read : ofDocument here d = .ok bed) :
    (∃ scope, Statement.Hiding scope bed.names bed.globals) ∧
    (∀ e ∈ bed.templates, ∃ scope, Statement.Hiding scope bed.names e.2) ∧
    ∀ e ∈ bed.commands, ∃ scope, Statement.Hiding scope bed.names e.2 := by
  have hides {κ : Type} {dialect : Dialect κ} {command : κ → List Path} (sound : dialect.Sound command)
      (location : String) (d : Document) :
      Lasting (Statement.readBlock dialect location d) fun v ts => ∃ scope, Statement.Hiding scope v ts :=
    (Statement.lasting_hides sound location d).imp fun _ _ hides => ⟨_, hides⟩
  exact programs_of_lasting (hides Dialect.sound_seeding) (hides Dialect.sound_rendering)
    (hides Dialect.sound_commanding) read

end Bed

end Sweep
