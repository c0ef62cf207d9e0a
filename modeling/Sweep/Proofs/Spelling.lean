import Mathlib.Data.List.Nodup
import Sweep.Path.Grammar
import Sweep.Proofs.Alphabet

/-!
# How paths are spelled

The grammar says which texts are paths, and the reader says which path a text is.  In between stands a
relation that is neither of them: with the names that are known, a text spells a path, and then some more
names are known.  Every rule of the grammar is one of its rules, and what is written for a path spells it.

* `Spells`, `SpellsPick` — the relation;
* `NameTable.Grows` — what becomes of a table on the way, and `NameTable.intern_of_nameOf?` — a name that
  is known has its number already;
* `Path.Sound` — the paths that can be written and read again, which are those that were spelled
  (`Spells.grows_and_sound`);
* `Spells.isPath`, `exists_spells` — what is spelled keeps to the grammar, and the other way round if the
  digits of the text make numbers;
* `Path.spells_describe` — what is written for a path spells it;
* `IsPath.strip_eq`, `IsPath.no_brace` — no white space stands around a path, and no brace in it.
-/

namespace Sweep

/-! ### Spelling -/

mutual

/-- With the names `t`, a text spells a path; then the names are `u`. -/
inductive Spells : NameTable → List Char → Path → NameTable → Prop where
  | last {t u : NameTable} {name pick : List Char} {p : Pick} (hn : IsName name)
      (hp : SpellsPick (t.intern (String.ofList name)).2 pick p u) :
      Spells t (name ++ pick) (.last (t.intern (String.ofList name)).1 p) u
  | dot {t u v : NameTable} {name pick field : List Char} {p : Pick} {f : Path} (hn : IsName name)
      (hp : SpellsPick (t.intern (String.ofList name)).2 pick p u) (hf : Spells u field f v) :
      Spells t (name ++ pick ++ '.' :: field) (.dot (t.intern (String.ofList name)).1 p f) v

/-- With the names `t`, a text spells a selection; then the names are `u`. -/
inductive SpellsPick : NameTable → List Char → Pick → NameTable → Prop where
  | whole {t : NameTable} : SpellsPick t [] .whole t
  | at {t : NameTable} {digits : List Char} {n : Nat} (nonempty : digits ≠ [])
      (all : ∀ d ∈ digits, Text.isDigit d = true) (number : Text.decimalNumber? digits = some n)
      (few : digits.length ≤ Text.digitLimit) : SpellsPick t ('[' :: digits ++ [']']) (.at n) t
  | by {t u : NameTable} {key : List Char} {k : Path} (hk : Spells t key k u) :
      SpellsPick t ('[' :: key ++ [']']) (.by k) u

end

variable {t u v : NameTable} {cs rest : List Char} {p q : Path} {pick : Pick}

theorem IsName.length_pos (h : IsName cs) : 0 < cs.length := by
  cases h
  exact Nat.succ_pos _

theorem IsName.continues (h : IsName cs) : ∀ c ∈ cs, continuesName c = true := by
  cases h with
  | mk first others =>
    rintro d (_ | ⟨_, hd⟩)
    · exact Text.continuesName_of_startsName first
    · exact others d hd

/-! ### Names on the way -/

namespace NameTable

/-- A table grows: it keeps all numbers, and no name is in it twice that was not before. -/
structure Grows (t u : NameTable) : Prop where
  keeps : u.Extends t
  nodup : t.names.Nodup → u.names.Nodup

theorem Grows.refl (t : NameTable) : t.Grows t := ⟨.refl t, id⟩

theorem Grows.trans (h : t.Grows u) (h' : u.Grows v) : t.Grows v :=
  ⟨h'.keeps.trans h.keeps, fun nodup => h'.nodup (h.nodup nodup)⟩

theorem grows_intern (t : NameTable) (name : String) : t.Grows (t.intern name).2 := by
  refine ⟨t.intern_extends name, fun nodup => ?_⟩
  rw [intern]
  split
  · exact nodup
  · next new =>
    have not_mem : name ∉ t.names := List.idxOf?_eq_none_iff.1 new
    rw [List.nodup_append]
    refine ⟨nodup, List.nodup_singleton _, fun a ha b hb same => not_mem ?_⟩
    rwa [← List.mem_singleton.1 hb, ← same]

/-- A number stands for the same name in a table that grew. -/
theorem Extends.nameOf? {name : String} {x : NameId} (h : u.Extends t) (known : t.nameOf? x = some name) :
    u.nameOf? x = some name := by
  obtain ⟨lt, at_x⟩ := List.getElem?_eq_some_iff.1 known
  exact (List.prefix_iff_getElem?.1 h x lt).trans (congrArg some at_x)

/-- A name that has a number is found, if no other number has it too. -/
theorem idOf?_of_nameOf? {name : String} {x : NameId} (nodup : t.names.Nodup)
    (known : t.nameOf? x = some name) : t.idOf? name = some x := by
  obtain ⟨lt, at_x⟩ := List.getElem?_eq_some_iff.1 known
  refine List.idxOf?_eq_some_iff.2 ⟨lt, at_x, fun j before same => ?_⟩
  have eq := nodup.getElem_inj_iff.1 (same.trans at_x.symm)
  omega

/-- The number of a name is found again, and nothing is added. -/
theorem intern_of_nameOf? {name : String} {x : NameId} (nodup : t.names.Nodup)
    (known : t.nameOf? x = some name) : t.intern name = (x, t) := by
  rw [intern, idOf?_of_nameOf? nodup known]

end NameTable

/-- A number stands for a name that can be written. -/
def NameTable.Knows (t : NameTable) (x : NameId) : Prop :=
  ∃ name, t.nameOf? x = some name ∧ IsName name.toList

mutual

/-- The names of a path are known, and its positions have no more digits than are read. -/
def Path.Sound (t : NameTable) : Path → Prop
  | .last x pick => t.Knows x ∧ pick.Sound t
  | .dot x pick field => t.Knows x ∧ pick.Sound t ∧ field.Sound t

/-- The names of a selection are known, and its positions have no more digits than are read. -/
def Pick.Sound (t : NameTable) : Pick → Prop
  | .whole => True
  | .at n => (toString n).length ≤ Text.digitLimit
  | .by key => key.Sound t

end

theorem NameTable.Knows.mono {x : NameId} (keeps : u.Extends t) (h : t.Knows x) : u.Knows x := by
  obtain ⟨name, known, hn⟩ := h
  exact ⟨name, keeps.nameOf? known, hn⟩

theorem NameTable.knows_intern {name : List Char} (hn : IsName name) (t : NameTable) :
    (t.intern (String.ofList name)).2.Knows (t.intern (String.ofList name)).1 :=
  ⟨_, t.nameOf?_intern _, by rwa [String.toList_ofList]⟩

mutual

theorem Path.Sound.mono (keeps : u.Extends t) : (p : Path) → p.Sound t → p.Sound u
  | .last _ pick, ⟨known, picked⟩ => ⟨known.mono keeps, picked.mono keeps pick⟩
  | .dot _ pick field, ⟨known, picked, gone⟩ =>
    ⟨known.mono keeps, picked.mono keeps pick, gone.mono keeps field⟩

theorem Pick.Sound.mono (keeps : u.Extends t) : (pick : Pick) → pick.Sound t → pick.Sound u
  | .whole, _ => trivial
  | .at _, few => few
  | .by key, known => Path.Sound.mono keeps key known

end

/-- A position that is read has no more digits than it is written with. -/
theorem Text.length_toString_le {digits : List Char} {n : Nat} (nonempty : digits ≠ [])
    (number : Text.decimalNumber? digits = some n) : (toString n).length ≤ digits.length := by
  rw [Nat.toString_eq_ofList_toDigits, String.length_ofList,
    Nat.length_toDigits_le_iff (by decide) (List.length_pos_iff.2 nonempty)]
  exact Text.lt_of_decimalNumber? number

/-- What is spelled makes the table grow, and can be written with the table that comes of it. -/
theorem Spells.grows_and_sound (h : Spells t cs p u) : t.Grows u ∧ p.Sound u := by
  refine @Spells.rec (fun t _ p u _ => t.Grows u ∧ p.Sound u) (fun t _ pick u _ => t.Grows u ∧ pick.Sound u)
    ?last ?dot ?whole ?position ?key t cs p u h
  case last =>
    rintro t u name pick p hn - ⟨grows, picked⟩
    exact ⟨(t.grows_intern _).trans grows, (t.knows_intern hn).mono grows.keeps, picked⟩
  case dot =>
    rintro t u v name pick field p f hn - - ⟨grows, picked⟩ ⟨grows', gone⟩
    exact ⟨((t.grows_intern _).trans grows).trans grows', (t.knows_intern hn).mono (grows.trans grows').keeps,
      picked.mono grows'.keeps p, gone⟩
  case whole => exact fun {t} => ⟨.refl t, trivial⟩
  case position =>
    intro t digits n nonempty _ number few
    exact ⟨.refl t, Nat.le_trans (Text.length_toString_le nonempty number) few⟩
  case key => exact fun _ spelt => spelt

/-! ### The grammar -/

/-- What is spelled keeps to the grammar. -/
theorem Spells.isPath (h : Spells t cs p u) : IsPath cs := by
  refine @Spells.rec (fun _ cs _ _ _ => IsPath cs) (fun _ cs _ _ _ => IsPick cs)
    ?last ?dot ?whole ?position ?key t cs p u h
  case last => exact fun hn _ picked => .last hn picked
  case dot => exact fun hn _ _ picked gone => .dot hn picked gone
  case whole => exact .whole
  case position => exact fun nonempty all _ _ => .at nonempty all
  case key => exact fun _ key => .by key

/-- The digits of a text all have a value. -/
def Text.AllDecimal (cs : List Char) : Prop :=
  ∀ c ∈ cs, Text.isDigit c = true → (Text.decimalValue? c).isSome = true

/-- What keeps to the grammar spells a path, if its digits make numbers. -/
theorem exists_spells (h : IsPath cs) (decimal : Text.AllDecimal cs) (short : cs.length ≤ Text.digitLimit)
    (t : NameTable) : ∃ p u, Spells t cs p u := by
  refine @IsPath.rec
    (fun cs _ => Text.AllDecimal cs → cs.length ≤ Text.digitLimit → ∀ t, ∃ p u, Spells t cs p u)
    (fun cs _ => Text.AllDecimal cs → cs.length ≤ Text.digitLimit → ∀ t, ∃ p u, SpellsPick t cs p u)
    ?last ?dot ?whole ?position ?key cs h decimal short t
  case last =>
    intro name pick hn _ picked decimal short t
    rw [List.length_append] at short
    obtain ⟨p, u, hp⟩ := picked (fun c hc => decimal c (List.mem_append_right _ hc)) (by omega) _
    exact ⟨_, u, .last hn hp⟩
  case dot =>
    intro name pick field hn _ _ picked gone decimal short t
    rw [List.length_append, List.length_append, List.length_cons] at short
    obtain ⟨p, u, hp⟩ := picked
      (fun c hc => decimal c (List.mem_append_left _ (List.mem_append_right _ hc))) (by omega) _
    obtain ⟨f, v, hf⟩ := gone
      (fun c hc => decimal c (List.mem_append_right _ (List.mem_cons_of_mem _ hc))) (by omega) u
    exact ⟨_, v, .dot hn hp hf⟩
  case whole => exact fun _ _ t => ⟨_, t, .whole⟩
  case position =>
    intro digits nonempty all decimal short t
    have digit : ∀ c ∈ digits, (Text.decimalValue? c).isSome = true := fun c hc =>
      decimal c (List.mem_append_left _ (List.mem_cons_of_mem _ hc)) (all c hc)
    obtain ⟨n, number, -⟩ := Text.exists_decimalNumber digit
    rw [List.length_append, List.length_cons] at short
    exact ⟨_, t, .at nonempty all number (by omega)⟩
  case key =>
    intro key _ spelt decimal short t
    rw [List.length_append, List.length_cons] at short
    obtain ⟨k, u, hk⟩ := spelt
      (fun c hc => decimal c (List.mem_append_left _ (List.mem_cons_of_mem _ hc))) (by omega) t
    exact ⟨_, u, .by hk⟩

/-! ### Writing -/

theorem Spells.last_of_known {name : String} {x : NameId} (nodup : t.names.Nodup)
    (known : t.nameOf? x = some name) (hn : IsName name.toList) (hp : SpellsPick t cs pick u) :
    Spells t (name.toList ++ cs) (.last x pick) u := by
  have interned := NameTable.intern_of_nameOf? nodup known
  have spelt := @Spells.last t u name.toList cs pick hn
  rw [String.ofList_toList, interned] at spelt
  exact spelt hp

theorem Spells.dot_of_known {name : String} {x : NameId} {field : List Char} (nodup : t.names.Nodup)
    (known : t.nameOf? x = some name) (hn : IsName name.toList) (hp : SpellsPick t cs pick u)
    (hf : Spells u field p v) : Spells t (name.toList ++ cs ++ '.' :: field) (.dot x pick p) v := by
  have interned := NameTable.intern_of_nameOf? nodup known
  have spelt := @Spells.dot t u v name.toList cs field pick p hn
  rw [String.ofList_toList, interned] at spelt
  exact spelt hp hf

/-- The digits of a position spell it. -/
theorem spellsPick_position {n : Nat} (few : (toString n).length ≤ Text.digitLimit) (t : NameTable) :
    SpellsPick t ('[' :: (toString n).toList ++ [']']) (.at n) t := by
  rw [Nat.toString_eq_ofList_toDigits] at few ⊢
  rw [String.length_ofList] at few
  rw [String.toList_ofList]
  refine .at Nat.toDigits_ne_nil (fun d hd => ?_) (Text.decimalNumber?_toDigits n) few
  have ascii := Nat.isDigit_of_mem_toDigits (by decide) (by decide) hd
  rw [Text.isDigit, Text.decimalValue?_of_isDigit ascii]
  rfl

mutual

/-- **What is written for a path spells it**, and no name is new. -/
theorem Path.spells_describe (nodup : t.names.Nodup) :
    (p : Path) → p.Sound t → Spells t (p.describe t).toList p t
  | .last x pick, ⟨⟨name, known, hn⟩, picked⟩ => by
    have hp := Pick.spells_describe nodup pick picked
    rw [Path.describe, NameTable.display, known, String.toList_append]
    exact .last_of_known nodup known hn hp
  | .dot x pick field, ⟨⟨name, known, hn⟩, picked, gone⟩ => by
    have hp := Pick.spells_describe nodup pick picked
    have hf := Path.spells_describe nodup field gone
    rw [Path.describe, NameTable.display, known, String.toList_append, String.toList_append,
      String.toList_append, List.append_assoc]
    exact .dot_of_known nodup known hn hp hf

/-- What is written for a selection spells it. -/
theorem Pick.spells_describe (nodup : t.names.Nodup) :
    (pick : Pick) → pick.Sound t → SpellsPick t (pick.describe t).toList pick t
  | .whole, _ => .whole
  | .at n, few => by
    rw [Pick.describe, String.toList_append, String.toList_append]
    exact spellsPick_position few t
  | .by key, known => by
    have hk := Path.spells_describe nodup key known
    rw [Pick.describe, String.toList_append, String.toList_append]
    exact .by hk

end

/-! ### What does not stand around paths and in them -/

theorem ends_reverse_snoc {front : List Char} {x : Char} (h : Text.isBlank x = false) :
    Text.Ends Text.isBlank (front ++ [x]).reverse := by
  rw [List.reverse_append]
  exact Text.ends_cons h _

theorem IsName.last (h : IsName cs) : Text.Ends Text.isBlank cs.reverse := fun d hd =>
  Text.not_isBlank_of_continuesName (h.continues d (List.mem_reverse.1 (List.mem_of_mem_head? hd)))

/-- No white space stands around a path. -/
theorem IsPath.strip_eq (h : IsPath cs) : Text.strip cs = cs := by
  refine Text.strip_of_ends ?_ ?_
  · obtain ⟨c, rest, rfl, starts⟩ := h.starts
    exact Text.ends_cons (Text.not_isBlank_of_continuesName (Text.continuesName_of_startsName starts)) rest
  · refine @IsPath.rec (fun cs _ => Text.Ends Text.isBlank cs.reverse)
      (fun cs _ => cs = [] ∨ ∃ front, cs = front ++ [']']) ?last ?dot ?whole ?position ?key cs h
    case last =>
      rintro name pick hn - (rfl | ⟨front, rfl⟩)
      · rw [List.append_nil]
        exact hn.last
      · rw [← List.append_assoc]
        exact ends_reverse_snoc (by decide)
    case dot =>
      intro name pick field _ _ hf _ last
      obtain ⟨c, rest, rfl, -⟩ := hf.starts
      rw [List.reverse_append, List.reverse_cons, List.append_assoc]
      exact last.append (by simp) _
    case whole => exact .inl rfl
    case position => exact fun _ _ => .inr ⟨_, rfl⟩
    case key => exact fun _ _ => .inr ⟨_, rfl⟩

/-- No brace stands in a path. -/
theorem IsPath.no_brace (h : IsPath cs) : '\x7d' ∉ cs := by
  have no_brace_of_name {name : List Char} (hn : IsName name) : '\x7d' ∉ name := fun brace =>
    absurd (hn.continues _ brace) (by decide)
  refine @IsPath.rec (fun cs _ => '\x7d' ∉ cs) (fun cs _ => '\x7d' ∉ cs)
    ?last ?dot ?whole ?position ?key cs h
  case last =>
    intro name pick hn _ picked
    simp [no_brace_of_name hn, picked]
  case dot =>
    intro name pick field hn _ _ picked gone
    simp [no_brace_of_name hn, picked, gone]
  case whole => exact List.not_mem_nil
  case position =>
    intro digits _ all
    have inside : '\x7d' ∉ digits := fun brace => absurd (all _ brace) (by decide)
    simp [inside]
  case key =>
    intro key _ inside
    simp [inside]

end Sweep
