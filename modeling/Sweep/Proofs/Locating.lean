import Sweep.Proofs.Answering
import Sweep.Proofs.Failing
import Sweep.Proofs.Sites

/-!
# Places tell statements apart

Two bindings, commands or hidden variables of a program tell different places, unless they are bindings of
one statement whose keys look alike as names.  A place is a text that grows from the name of the program
inwards: items of a list add a number in brackets, and what stands under a key adds the key.  So whatever two
statements have in common in front, behind it the text goes on differently.

* `Below` — a place goes on where another one ends, with the lemmas that tell items, targets and bodies
  apart;
* `Site.Twins` — two bindings of one statement under keys with the same text;
* `Owns` — the places of some sites tell them apart, except twins, and lie in one part of a document, with
  the ways to put sites together;
* `owns_ofBlock` — the places of a block, by induction over the document;
* `Located` — what all this says about a program: the lines, the places of bindings and commands, and
  what a run that fails reports (`located_of_sited`);
* `Bed.Sourced` — a program is located in its source, with the sources of all programs of a bed.

The main statement is `origins_located`.
-/

namespace Sweep

open Reading

/-! ### Places -/

/-- A place goes on where another one ends. -/
def Below (base place : String) : Prop := ∃ rest, place = base ++ rest

theorem below_self (base : String) : Below base base := ⟨"", String.append_empty.symm⟩

theorem below_append (base more : String) : Below base (base ++ more) := ⟨more, rfl⟩

theorem Below.of_append {base more place : String} (h : Below (base ++ more) place) : Below base place := by
  obtain ⟨rest, rfl⟩ := h
  exact ⟨more ++ rest, String.append_assoc⟩

/-- What stands under different keys goes on differently, where neither key begins with the other. -/
theorem not_below_of_keys {base first second place : String} (h : Below (base ++ first) place)
    (h' : Below (base ++ second) place) (differ : ∀ r s, first ++ r ≠ second ++ s) : False := by
  obtain ⟨r, rfl⟩ := h
  obtain ⟨s, same⟩ := h'
  rw [String.append_assoc, String.append_assoc, String.append_right_inj] at same
  exact differ r s same

/-- The place of an item in a list. -/
def itemPlace (base : String) (i : Nat) : String := base ++ "[" ++ toString i ++ "]"

theorem below_itemPlace (base : String) (i : Nat) : Below base (itemPlace base i) := by
  rw [itemPlace, String.append_assoc, String.append_assoc]
  exact below_append _ _

/-- **The places of items go on differently.** -/
theorem item_eq_of_below {base place : String} {i j : Nat} (hi : Below (itemPlace base i) place)
    (hj : Below (itemPlace base j) place) : i = j := by
  have digits (n : Nat) (rest : String) :
      ((toString n ++ "]" ++ rest).toList).takeWhile Char.isDigit = Nat.toDigits 10 n := by
    rw [Nat.toString_eq_ofList_toDigits, String.toList_append, String.toList_append, String.toList_ofList,
      List.append_assoc]
    refine Text.takeWhile_append_of_ends (fun c hc => ?_) (Text.ends_cons (by decide) _)
    exact Nat.isDigit_of_mem_toDigits (by decide) (by decide) hc
  obtain ⟨rest, rfl⟩ := hi
  obtain ⟨rest', same⟩ := hj
  simp only [itemPlace, String.append_assoc, String.append_right_inj] at same
  rw [← String.append_assoc, ← String.append_assoc] at same
  have same_digits := congrArg (fun s : String => s.toList.takeWhile Char.isDigit) same
  rw [digits, digits] at same_digits
  have numbers := congrArg (Nat.ofDigitChars 10 · 0) same_digits
  rwa [Nat.ofDigitChars_ten_toDigits, Nat.ofDigitChars_ten_toDigits] at numbers

namespace Site

variable {sites others body : List Site} {location place : String} {n : Nat}
  {entries : List (Key × Document)} {d : Document}

/-- Two positions among sites are those of bindings of one statement whose keys have the same text. -/
inductive Twins : List Site → Nat → Nat → Prop where
  | intro (front back : List Site) (location : String) {keyword : String} {data : Document}
      {i j : Nat} {e f : Key × Document} (binder : keyword ∈ binders) (first : data.entries[i]? = some e)
      (second : data.entries[j]? = some f) (alike : e.1.display = f.1.display) :
      Twins (front ++ (leaves location keyword data ++ back)) (front.length + i) (front.length + j)

theorem Twins.prepend {m n : Nat} (h : Twins sites m n) (front : List Site) :
    Twins (front ++ sites) (front.length + m) (front.length + n) := by
  obtain ⟨more, back, location, binder, first, second, alike⟩ := h
  have longer := Twins.intro (front ++ more) back location binder first second alike
  rwa [List.append_assoc, List.length_append, Nat.add_assoc, Nat.add_assoc] at longer

theorem Twins.append {m n : Nat} (h : Twins sites m n) (back : List Site) : Twins (sites ++ back) m n := by
  obtain ⟨front, more, location, binder, first, second, alike⟩ := h
  have longer := Twins.intro front (more ++ back) location binder first second alike
  rwa [← List.append_assoc, ← List.append_assoc, List.append_assoc front] at longer

end Site

/-- Instructions that stand alone tell different places, except twins, and all these places lie in some part
of a document. -/
structure Owns (scope : String → Prop) (sites : List Site) : Prop where
  apart : ∀ m n a b, sites[m]? = some a → sites[n]? = some b → a.role.isLeaf = true →
    b.role.isLeaf = true → a.place = b.place → m = n ∨ Site.Twins sites m n
  inside : ∀ s ∈ sites, s.role.isLeaf = true → scope s.place

namespace Owns

variable {scope left right : String → Prop} {xs ys front back : List Site}

/-- Instructions that do not stand alone may tell any places. -/
theorem bare (h : ∀ s ∈ xs, s.role.isLeaf = false) : Owns scope xs where
  apart m n a b at_m _ leaf := by
    have other := h a (List.mem_of_getElem? at_m)
    rw [leaf] at other
    cases other
  inside s hs leaf := by
    have other := h s hs
    rw [leaf] at other
    cases other

theorem nil (scope : String → Prop) : Owns scope [] := bare fun _ h => nomatch h

theorem mono (h : Owns left xs) (wider : ∀ p, left p → right p) : Owns right xs :=
  ⟨h.apart, fun s hs leaf => wider _ (h.inside s hs leaf)⟩

theorem append (hx : Owns left xs) (hy : Owns right ys) (apart : ∀ p, left p → right p → False)
    (hl : ∀ p, left p → scope p) (hr : ∀ p, right p → scope p) : Owns scope (xs ++ ys) where
  apart m n a b at_m at_n leaf leaf' same := by
    have across {a b : Site} (ha : a ∈ xs) (hb : b ∈ ys) (leaf : a.role.isLeaf = true)
        (leaf' : b.role.isLeaf = true) (same : a.place = b.place) : False :=
      apart a.place (hx.inside a ha leaf) (same ▸ hy.inside b hb leaf')
    rw [List.getElem?_append] at at_m at_n
    split at at_m
    · split at at_n
      · exact (hx.apart m n a b at_m at_n leaf leaf' same).imp id fun twins => twins.append ys
      · exact (across (List.mem_of_getElem? at_m) (List.mem_of_getElem? at_n) leaf leaf' same).elim
    · split at at_n
      · exact (across (List.mem_of_getElem? at_n) (List.mem_of_getElem? at_m) leaf' leaf same.symm).elim
      · have m_eq : m = xs.length + (m - xs.length) := by omega
        have n_eq : n = xs.length + (n - xs.length) := by omega
        rcases hy.apart _ _ a b at_m at_n leaf leaf' same with eq | twins
        · exact .inl (by omega)
        · rw [m_eq, n_eq]
          exact .inr (twins.prepend xs)
  inside s hs := (List.mem_append.1 hs).elim (fun h leaf => hl _ (hx.inside s h leaf))
    fun h leaf => hr _ (hy.inside s h leaf)

/-- What stands around a body and does not stand alone changes nothing. -/
theorem around (h : Owns scope xs) (hfront : ∀ s ∈ front, s.role.isLeaf = false)
    (hback : ∀ s ∈ back, s.role.isLeaf = false) : Owns scope (front ++ xs ++ back) := by
  have empty_front : Owns (fun _ => False) front := bare hfront
  have empty_back : Owns (fun _ => False) back := bare hback
  have behind : Owns scope (front ++ xs) := empty_front.append h (fun _ h _ => h) (fun _ => False.elim)
    fun _ h => h
  exact behind.append empty_back (fun _ _ h => h) (fun _ h => h) fun _ => False.elim

/-- Places that are all different tell sites apart. -/
theorem of_nodup (nodup : (xs.map Site.place).Nodup) (inside : ∀ s ∈ xs, scope s.place) : Owns scope xs where
  apart m n a b at_m at_n _ _ same := by
    have at_m' : (xs.map Site.place)[m]? = some a.place := by rw [List.getElem?_map, at_m]; rfl
    have at_n' : (xs.map Site.place)[n]? = some a.place := by rw [List.getElem?_map, at_n, same]; rfl
    obtain ⟨hm, -⟩ := List.getElem?_eq_some_iff.1 at_m'
    exact .inl ((List.getElem?_inj hm nodup).1 (at_m'.trans at_n'.symm))
  inside s hs _ := inside s hs

end Owns

/-! ### The places of a document -/

namespace Site

variable {sites others body : List Site} {location place : String} {n : Nat} {scope : String → Prop}
  {entries : List (Key × Document)} {d : Document}

/-- What a loop adds around its body does not stand alone. -/
theorem owns_group (h : Owns scope body) : Owns scope (group place n body) := by
  have split : group place n body = ([⟨.enter, place⟩] ++ List.replicate n ⟨.start, place⟩ ++
      [⟨.enter, place⟩]) ++ body ++ ([⟨.leave, place⟩] ++ List.replicate n ⟨.advance, place⟩ ++
        [⟨.goto, place⟩, ⟨.leave, place⟩]) := by
    simp [group]
  rw [split]
  exact h.around (by simp +contextual [Role.isLeaf, or_imp])
    (by simp +contextual [Role.isLeaf, or_imp])

theorem owns_nest (h : Owns scope body) : Owns scope (nest place body n) := by
  induction n with
  | zero => exact h.around (by simp [Role.isLeaf]) (by simp [Role.isLeaf])
  | succ n ih => exact ih.around (by simp [Role.isLeaf]) (by simp [Role.isLeaf])

theorem owns_guarded (h : Owns scope body) : Owns scope (guarded place n body) :=
  h.around (by simp +contextual [Role.isLeaf, or_imp]) (by simp [Role.isLeaf])

/-- The hidden variables of a loop are bound at the places of targets. -/
theorem places_hiddens (count i : Nat) (ds : List Document) :
    ((hiddens location count i ds).map Site.place).Sublist
      ((List.range' i ds.length).map (Statement.targetPlace location count)) := by
  induction ds generalizing i with
  | nil => exact .slnil
  | cons d ds ih =>
    rw [hiddens, List.length_cons, List.range'_succ, List.map_cons]
    split
    · exact (ih (i + 1)).cons_cons _
    · exact (ih (i + 1)).cons _

theorem targetPlace_eq {count : Nat} (several : count ≠ 1) (i : Nat) :
    Statement.targetPlace location count i = itemPlace (location ++ ".in") i := by
  have key : location ++ ".in[" = location ++ ".in" ++ "[" := by
    rw [String.append_assoc]
    rfl
  rw [Statement.targetPlace, if_neg several, itemPlace, key]

theorem below_targetPlace (location : String) (count i : Nat) :
    Below (location ++ ".in") (Statement.targetPlace location count i) := by
  by_cases one : count = 1
  · rw [Statement.targetPlace, if_pos one]
    exact below_self _
  · rw [targetPlace_eq one]
    exact below_itemPlace _ i

/-- A target that is alone has the key for its place, and several targets have their numbers. -/
theorem nodup_targetPlaces (location : String) (count : Nat) :
    ((List.range' 0 count).map (Statement.targetPlace location count)).Nodup := by
  by_cases one : count = 1
  · subst one
    exact List.nodup_singleton _
  · refine (List.nodup_range' 1).map fun i j same => ?_
    rw [targetPlace_eq one, targetPlace_eq one] at same
    have second : Below (itemPlace (location ++ ".in") j) (itemPlace (location ++ ".in") i) := by
      rw [same]
      exact below_self _
    exact item_eq_of_below (below_self _) second

theorem owns_hiddens (location : String) (ds : List Document) :
    Owns (Below (location ++ ".in")) (hiddens location ds.length 0 ds) := by
  have places : ((hiddens location ds.length 0 ds).map Site.place).Sublist
      ((List.range' 0 ds.length).map (Statement.targetPlace location ds.length)) := places_hiddens _ 0 ds
  refine .of_nodup ((nodup_targetPlaces location ds.length).sublist places) fun s hs => ?_
  obtain ⟨i, -, place_eq⟩ := List.mem_map.1 (places.subset (List.mem_map_of_mem hs))
  rw [← place_eq]
  exact below_targetPlace location ds.length i

/-- Bindings of one statement tell the same place only if their keys have the same text. -/
theorem owns_leaves (location keyword : String) (d : Document) :
    Owns (Below location) (leaves location keyword d) := by
  by_cases binder : keyword ∈ binders
  · have sites : leaves location keyword d = d.entries.map fun e =>
        ⟨.single location keyword (.mapping [e]), location ++ "." ++ keyword ++ "." ++ e.1.display⟩ := by
      rw [leaves, if_pos binder]
    refine ⟨fun m n a b at_m at_n _ _ same => .inr ?_, fun s hs _ => ?_⟩
    · rw [sites, List.getElem?_map] at at_m at_n
      obtain ⟨e, he, rfl⟩ := Option.map_eq_some_iff.1 at_m
      obtain ⟨f, hf, rfl⟩ := Option.map_eq_some_iff.1 at_n
      have twins := Twins.intro [] [] location binder he hf ((String.append_right_inj _).1 same)
      simpa using twins
    · rw [sites] at hs
      obtain ⟨e, -, rfl⟩ := List.mem_map.1 hs
      rw [String.append_assoc, String.append_assoc, String.append_assoc]
      exact below_append _ _
  · rw [leaves, if_neg binder]
    exact .of_nodup (List.nodup_singleton _) fun s hs => List.mem_singleton.1 hs ▸ below_self location

/-- The targets of a loop stand under another key than its body. -/
theorem owns_loop (entries : List (Key × Document)) (hbody : Owns (Below (location ++ ".do")) body) :
    Owns (Below location) (loop location entries body) := by
  have apart (p : String) (h : Below (location ++ ".in") p) (h' : Below (location ++ ".do") p) : False := by
    refine not_below_of_keys h h' fun r s same => ?_
    have chars := congrArg String.toList same
    rw [String.toList_append, String.toList_append] at chars
    exact absurd chars (by simp)
  have whole {sites : List Site} (h : Owns (Below (location ++ ".do")) sites) :
      Owns (Below location) (hiddens location (targets entries).length 0 (targets entries) ++ sites) :=
    (owns_hiddens location (targets entries)).append h apart (fun _ => .of_append) fun _ => .of_append
  rw [loop]
  split
  · exact whole (owns_group hbody)
  · exact whole (owns_nest hbody)

theorem owns_ofEntries (keywords : List String) (entries : List (Key × Document))
    (hbody : Owns (Below (location ++ ".do")) body) :
    Owns (Below location) (ofEntries keywords location entries body) := by
  rw [ofEntries]
  split
  · exact .nil _
  · exact owns_loop entries hbody
  · exact owns_guarded (hbody.mono fun _ => .of_append)
  · exact owns_leaves location _ _

mutual

/-- **The places of a block tell its instructions apart**, except twins, by induction over the document. -/
theorem owns_ofBlock (keywords : List String) (location : String) (d : Document) :
    Owns (Below location) (ofBlock keywords location d) := by
  match d with
  | .list items =>
    refine (owns_ofAll keywords location 0 items).mono ?_
    rintro p ⟨i, -, h⟩
    rw [itemPlace, String.append_assoc, String.append_assoc] at h
    exact h.of_append
  | .null | .bool _ | .int _ | .float _ | .text _ | .mapping _ => exact .nil _

theorem owns_ofAll (keywords : List String) (location : String) (i : Nat) (ds : List Document) :
    Owns (fun p => ∃ j, i ≤ j ∧ Below (itemPlace location j) p) (ofAll keywords location i ds) := by
  match ds with
  | [] => exact .nil _
  | d :: rest =>
    rw [ofAll]
    refine (owns_ofOne keywords (itemPlace location i) d).append
      (owns_ofAll keywords location (i + 1) rest) ?_ (fun p h => ⟨i, Nat.le_refl i, h⟩) ?_
    · rintro p first ⟨j, later, second⟩
      have same := item_eq_of_below first second
      omega
    · rintro p ⟨j, later, h⟩
      exact ⟨j, by omega, h⟩

theorem owns_ofOne (keywords : List String) (location : String) (d : Document) :
    Owns (Below location) (ofOne keywords location d) := by
  match d with
  | .text s => exact owns_ofEntries keywords _ (.nil _)
  | .mapping entries =>
    exact owns_ofEntries keywords entries (owns_ofDo keywords (location ++ ".do") entries)
  | .null | .bool _ | .int _ | .float _ | .list _ => exact .nil _

theorem owns_ofDo (keywords : List String) (location : String) (entries : List (Key × Document)) :
    Owns (Below location) (ofDo keywords location entries) := by
  match entries with
  | [] => exact .nil _
  | (key, d) :: rest =>
    rw [ofDo]
    split
    · exact owns_ofBlock keywords location d
    · exact owns_ofDo keywords location rest

end

end Site

/-! ### Programs -/

variable {κ : Type} {dialect : Dialect κ}

/-- What a program tells about its document: the instructions come from the sites of the document, those
that stand alone tell different places unless their keys have the same text, and a run that fails reports
where the instruction comes from that failed. -/
structure Located (dialect : Dialect κ) (root : String) (d : Document) (p : Program κ) : Prop where
  /-- There is one line for each site, in order, and it tells the place of the site. -/
  sited : List.Forall₂ (Sits dialect) p (Site.ofBlock dialect.keywords root d)
  apart : ∀ (m n : Nat) (a b : Line κ), p[m]? = some a → p[n]? = some b →
    a.instruction.isLeaf = true → b.instruction.isLeaf = true → a.origin = b.origin →
      m = n ∨ Site.Twins (Site.ofBlock dialect.keywords root d) m n
  /-- The position is that of the instruction that failed at the last moment of the run. -/
  reported : ∀ (ω : Type) (ex : Executor κ ω) flag budget keep s w position e origin left,
    Machine.run ex flag budget p keep s w = (.failed position e origin, left) →
      ∃ (n : Nat) (line : Line κ) (site : Site), position = n ∧ p[n]? = some line ∧
        (Site.ofBlock dialect.keywords root d)[n]? = some site ∧ Sits dialect line site ∧
        origin = some site.place ∧
        ∃ cs c, Machine.Trail ex p ⟨(0 : Nat), s.push, w⟩ cs c ∧ c.pc = n ∧
          ∃ after, Machine.step ex n line.instruction c.scopes c.world = (.error (.access e), after)

theorem exists_site {p : Program κ} {sites : List Site} (sited : List.Forall₂ (Sits dialect) p sites)
    {n : Nat} {line : Line κ} (at_n : p[n]? = some line) :
    ∃ site, sites[n]? = some site ∧ Sits dialect line site := by
  induction sited generalizing n with
  | nil => cases at_n
  | @cons _ site _ _ first _ ih =>
    cases n with
    | zero => exact ⟨site, rfl, Option.some.inj at_n ▸ first⟩
    | succ n => exact ih at_n

theorem located_of_sited {root : String} {d : Document} {ts : List (Statement κ)}
    (proper : Statement.ProperIn ts) (sited : Sited dialect ts (Site.ofBlock dialect.keywords root d)) :
    Located dialect root d (compile ts) where
  sited := sited.compiled
  apart m n a b at_m at_n leaf leaf' same := by
    obtain ⟨x, hx, sits⟩ := exists_site sited.compiled at_m
    obtain ⟨y, hy, sits'⟩ := exists_site sited.compiled at_n
    rw [sits.origin, sits'.origin] at same
    exact (Site.owns_ofBlock dialect.keywords root d).apart m n x y hx hy
      (sits.isLeaf.symm.trans leaf) (sits'.isLeaf.symm.trans leaf') (Option.some.inj same)
  reported ω ex flag budget keep s w position e origin left failed := by
    obtain ⟨cs, c, trail, ends⟩ :=
      Machine.exists_trail_of_runFrom ex flag (compile ts) budget 0 ⟨(0 : Nat), s.push, w⟩
    obtain ⟨outcome_eq, -⟩ := Prod.mk.inj failed
    obtain ⟨pc_eq, line, line_eq, origin_eq, fails⟩ := Machine.failed_of_ends ends outcome_eq
    have nonneg := Machine.pc_nonneg_of_trail (Machine.guided_of_proper proper) trail (Int.le_refl 0)
    obtain ⟨n, hn⟩ := Int.eq_ofNat_of_zero_le nonneg
    rw [hn] at line_eq fails origin_eq
    obtain ⟨site, site_eq, sits⟩ := exists_site sited.compiled (show (compile ts)[n]? = some line from line_eq)
    refine ⟨n, line, site, pc_eq.symm.trans hn, line_eq, site_eq, sits, ?_, cs, c, trail, hn, _, fails⟩
    rw [origin_eq, Machine.placeOf, if_pos (Int.natCast_nonneg n), sits.origin]

/-! ### Beds -/

namespace Assoc

variable {ι α β : Type} [DecidableEq ι] {R : ι × α → ι × β → Prop}

theorem forall₂_set (keys : ∀ p q, R p q → q.1 = p.1) {k : ι} {a : α} {b : β} (new : R (k, a) (k, b))
    {ps : List (ι × α)} {qs : List (ι × β)} (h : List.Forall₂ R ps qs) :
    List.Forall₂ R (set k a ps) (set k b qs) := by
  induction h with
  | nil => exact .cons new .nil
  | @cons p q ps qs first rest ih =>
    obtain ⟨i, v⟩ := p
    obtain ⟨j, w⟩ := q
    obtain rfl : j = i := keys _ _ first
    rw [set, set]
    split
    · next same => exact .cons (same ▸ new) rest
    · exact .cons first ih

/-- Lists that go together key by key still do so when only the last value of each key is kept. -/
theorem forall₂_ofList (keys : ∀ p q, R p q → q.1 = p.1) {ps : List (ι × α)} {qs : List (ι × β)}
    (h : List.Forall₂ R ps qs) : List.Forall₂ R (ofList ps) (ofList qs) := by
  have onto {acc : List (ι × α)} {acc' : List (ι × β)} (before : List.Forall₂ R acc acc') :
      List.Forall₂ R (ps.foldl (fun acc p => set p.1 p.2 acc) acc)
        (qs.foldl (fun acc q => set q.1 q.2 acc) acc') := by
    induction h generalizing acc acc' with
    | nil => exact before
    | @cons p q _ _ first _ ih =>
      obtain ⟨i, v⟩ := p
      obtain ⟨j, w⟩ := q
      obtain rfl : j = i := keys _ _ first
      exact ih (forall₂_set keys first before)
  exact onto .nil

end Assoc

theorem forall₂_of_mem {α β : Type} {R S : α → β → Prop} {xs : List α} {ys : List β}
    (h : List.Forall₂ R xs ys) (imp : ∀ x y, y ∈ ys → R x y → S x y) : List.Forall₂ S xs ys := by
  induction h with
  | nil => exact .nil
  | @cons x y xs ys first _ ih =>
    exact .cons (imp x y List.mem_cons_self first)
      (ih fun x y mem => imp x y (List.mem_cons_of_mem _ mem))

namespace Bed

variable {names u : NameTable} {d : Document} {entries : List (Key × Document)}
  {ts : List (Statement κ)} {section_ : String}

/-- The programs that are written in a section: name, place and data of each. -/
def writtenSources (section_ : String) (entries : List (Key × Document)) :
    List (String × String × Document) :=
  entries.map fun e => (e.1.display, section_ ++ "." ++ e.1.display, e.2)

/-- The programs of a section.  Of two that have one name the later one counts, in the place of the
first. -/
def namedSources (section_ : String) (entries : List (Key × Document)) :
    List (String × String × Document) :=
  Assoc.ofList (writtenSources section_ entries)

/-- The template programs of a document. -/
def templateSources (entries : List (Key × Document)) : List (String × String × Document) :=
  namedSources "templates" (orElse (Document.entry entries "templates") (.mapping [])).entries

/-- The command programs of a document. -/
def commandSources (entries : List (Key × Document)) : List (Option String × String × Document) :=
  match Document.entry entries "commands" with
  | .list items => [(none, "commands", .list items)]
  | .mapping programs => (namedSources "commands" programs).map fun source => (some source.1, source.2)
  | _ => []

/-- A program has the name of its source, and is located in its data. -/
def Sourced {α : Type} (dialect : Dialect κ) (source : α × String × Document)
    (program : α × List (Statement κ)) : Prop :=
  program.1 = source.1 ∧ Located dialect source.2.1 source.2.2 (compile program.2)

theorem gives_of_reading {α : Type} {r : Reading α} {found : α × NameTable}
    (h : reading names r = .ok found) : r.Gives names found.1 found.2 := by
  rw [reading] at h
  split at h
  · next run_eq =>
    obtain rfl := Except.ok.inj h
    exact run_eq
  · cases h

theorem sited_of_readPrograms (tells : dialect.Tells) {programs : List (String × List (Statement κ))}
    (h : (readPrograms dialect section_ entries).Gives names programs u) :
    List.Forall₂ (fun source program => program.1 = source.1 ∧
        Sited dialect program.2 (Site.ofBlock dialect.keywords source.2.1 source.2.2))
      (writtenSources section_ entries) programs := by
  induction entries generalizing names u programs with
  | nil =>
    obtain ⟨rfl, -⟩ := gives_pure.1 h
    exact .nil
  | cons e entries ih =>
    obtain ⟨name, t, written, h⟩ := gives_bind.1 h
    obtain ⟨rfl, rfl⟩ := gives_written_key written
    obtain ⟨ts, t₁, first, h⟩ := gives_bind.1 h
    obtain ⟨others, t₂, rest, h⟩ := gives_bind.1 h
    obtain ⟨rfl, -⟩ := gives_pure.1 h
    exact .cons ⟨rfl, Statement.sited_readBlock tells _ e.2 first⟩ (ih rest)

theorem sourced_of_readNamed (tells : dialect.Tells) {programs : List (String × List (Statement κ))}
    (proper : ∀ e ∈ programs, Statement.ProperIn e.2)
    (h : (readNamed dialect section_ entries).Gives names programs u) :
    List.Forall₂ (Sourced dialect) (namedSources section_ entries) programs := by
  rw [readNamed, map_eq_pure_bind] at h
  obtain ⟨all, t, read, h⟩ := gives_bind.1 h
  obtain ⟨rfl, -⟩ := gives_pure.1 h
  have sited := Assoc.forall₂_ofList (fun _ _ h => h.1) (sited_of_readPrograms tells read)
  exact forall₂_of_mem sited fun source program mem h => ⟨h.1, located_of_sited (proper program mem) h.2⟩

theorem sourced_of_readTemplates {programs : List (String × List (Statement RenderCommand))}
    (proper : ∀ e ∈ programs, Statement.ProperIn e.2)
    (h : readTemplates names (Document.entry entries "templates") = .ok (programs, u)) :
    List.Forall₂ (Sourced .rendering) (templateSources entries) programs := by
  rw [readTemplates] at h
  rw [templateSources]
  split at h
  · next found given =>
    rw [given]
    exact sourced_of_readNamed Dialect.tells_rendering proper (gives_of_reading h)
  · cases h

theorem sourced_of_readCommands {programs : List (Option String × List (Statement Command))}
    (proper : ∀ e ∈ programs, Statement.ProperIn e.2)
    (h : readCommands names (Document.entry entries "commands") = .ok (programs, u)) :
    List.Forall₂ (Sourced .commanding) (commandSources entries) programs := by
  rw [readCommands.eq_def] at h
  rw [commandSources]
  split at h
  · next given =>
    obtain ⟨rfl, -⟩ := Prod.mk.inj (Except.ok.inj h)
    rw [given]
    exact .nil
  · next items given =>
    obtain ⟨⟨ts, t₁⟩, block, h⟩ := exists_of_bind_ok h
    obtain ⟨rfl, -⟩ := Prod.mk.inj (Except.ok.inj h)
    rw [given]
    have sited := Statement.sited_readBlock Dialect.tells_commanding "commands" _ (gives_of_reading block)
    exact .cons ⟨rfl, located_of_sited (proper _ List.mem_cons_self) sited⟩ .nil
  · next found given =>
    obtain ⟨⟨named, t₁⟩, block, h⟩ := exists_of_bind_ok h
    obtain ⟨rfl, -⟩ := Prod.mk.inj (Except.ok.inj h)
    rw [given]
    have proper_named : ∀ e ∈ named, Statement.ProperIn e.2 := fun e he =>
      proper (some e.1, e.2) (List.mem_map.2 ⟨e, he, rfl⟩)
    have sourced := sourced_of_readNamed Dialect.tells_commanding proper_named (gives_of_reading block)
    refine List.forall₂_map_left_iff.2 (List.forall₂_map_right_iff.2 (sourced.imp ?_))
    exact fun source program h => ⟨congrArg some h.1, h.2⟩
  · cases h

theorem exists_of_ofEntries {here : Whereabouts} {bed : Bed} (h : ofEntries here entries = .ok bed) :
    ∃ t u, reading .empty (Statement.readBlock .seeding "globals" (Document.entry entries "globals"))
        = .ok (bed.globals, t) ∧
      readTemplates t (Document.entry entries "templates") = .ok (bed.templates, u) ∧
      readCommands u (Document.entry entries "commands") = .ok (bed.commands, bed.names) := by
  obtain ⟨_, -, h⟩ := exists_of_bind_ok h
  obtain ⟨includes, -, h⟩ := exists_of_bind_ok h
  obtain ⟨output, -, h⟩ := exists_of_bind_ok h
  obtain ⟨⟨globals, t⟩, globals_read, h⟩ := exists_of_bind_ok h
  obtain ⟨⟨templates, u⟩, templates_read, h⟩ := exists_of_bind_ok h
  obtain ⟨⟨commands, v⟩, commands_read, h⟩ := exists_of_bind_ok h
  obtain rfl := Except.ok.inj h
  exact ⟨t, u, globals_read, templates_read, commands_read⟩

/-- **Every instruction tells where it comes from.**  Take any document that is a bed.  Each of its programs
has one line for each site of its data: a binding or a command tells its own place, a hidden variable that
of its target, and all that a loop or a guarded block adds tells the place of that statement, also behind its
body, where its origin is stamped again.  Bindings, commands and hidden variables of one program tell
different places, except for bindings of one statement whose keys have the same text, like `1` and `'1'`.  A
run of the program that fails, with any executor on any stack, reports the place of the instruction that
failed. -/
theorem origins_located {here : Whereabouts} {bed : Bed} (read : ofDocument here d = .ok bed) :
    Located .seeding "globals" (Document.entry d.entries "globals") (compile bed.globals) ∧
    List.Forall₂ (Sourced .rendering) (templateSources d.entries) bed.templates ∧
    List.Forall₂ (Sourced .commanding) (commandSources d.entries) bed.commands := by
  have proper := yields_ofDocument here d
  rw [read] at proper
  have opened : ofEntries here d.entries = .ok bed := by
    cases d with
    | null | mapping => exact read
    | bool | int | float | text | list => cases read
  obtain ⟨t, u, globals, templates, commands⟩ := exists_of_ofEntries opened
  have sited := Statement.sited_readBlock Dialect.tells_seeding "globals" _ (gives_of_reading globals)
  exact ⟨located_of_sited proper.globals sited, sourced_of_readTemplates proper.templates templates,
    sourced_of_readCommands proper.commands commands⟩

/-- A bed whose command program has a loop with a hidden variable around a guarded block and another
loop, and binds behind both. -/
def nestedBed : Document :=
  .mapping [("commands", .list [.mapping [("for", .text "x"), ("in", .list [.text "a", .text "b"]),
    ("do", .list [
      .mapping [("if", .text "x"), ("do", .list [.mapping [("sleep", .int 1)]])],
      .mapping [("for", .text "y"), ("in", .mapping [("range", .list [.int 0, .int 2])]),
        ("do", .list [.text "wait"])],
      .mapping [("set", .mapping [("z", .text "c"), ("w", .text "d")])]])]])]

theorem origins_located_nestedBed :
    ∃ bed, ofDocument default nestedBed = .ok bed ∧
      List.Forall₂ (Sourced .commanding) [(none, "commands", Document.entry nestedBed.entries "commands")]
        bed.commands := by
  obtain ⟨bed, read⟩ : ∃ bed, ofDocument default nestedBed = .ok bed := ⟨_, rfl⟩
  exact ⟨bed, read, (origins_located read).2.2⟩

/-- Behind the inner loop the outer one tells its own place again. -/
example : ∃ bed, ofDocument default nestedBed = .ok bed ∧ ∃ e ∈ bed.commands,
    (compile e.2).map Line.origin = [
      "commands[0].in",
      "commands[0]", "commands[0]", "commands[0]",
      "commands[0].do[0]", "commands[0].do[0]", "commands[0].do[0].do[0]", "commands[0].do[0]",
      "commands[0].do[1]", "commands[0].do[1]", "commands[0].do[1]", "commands[0].do[1].do[0]",
      "commands[0].do[1]", "commands[0].do[1]", "commands[0].do[1]", "commands[0].do[1]",
      "commands[0].do[2].set.z", "commands[0].do[2].set.w",
      "commands[0]", "commands[0]", "commands[0]", "commands[0]"].map some :=
  ⟨_, rfl, _, List.mem_cons_self, rfl⟩

/-- A bed that binds two variables in one statement, under keys that look alike. -/
def twinBed : Document :=
  .mapping [("globals", .list [.mapping [("set", .mapping [(.int 1, .text "a"), (.text "1", .text "b")])]])]

/-- Two bindings tell the same place if their keys have the same text. -/
theorem origins_of_twinBed :
    (ofDocument default twinBed).toOption.map (fun bed =>
      (compile bed.globals).map fun line => (line.instruction.isLeaf, line.origin))
      = some [(true, some "globals[0].set.1"), (true, some "globals[0].set.1")] := by
  decide +kernel

end Bed

end Sweep
