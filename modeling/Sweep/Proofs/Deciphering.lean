import Sweep.Proofs.Misreading
import Sweep.Proofs.Spelling

/-!
# Reading what was written

The reader gives just the paths that are spelled, so it undoes writing: both are settled by the relation
between texts and paths.

* `Reading.Gives` — a reader gives an answer, with one lemma for each way to put readers together;
* `Path.readAt_succ` — a path is read as a name, a selection and a field;
* `Path.givesAll`, `Path.givesOnly` — what is spelled is given, and nothing else is, by induction on the
  budget;
* `Path.gives_read_iff` — both together, for a whole text;
* `Path.read_inverts_describe` — the grammar, the round trips, and what follows of them.
-/

namespace Sweep

/-! ### What readers give -/

namespace Reading

variable {α β : Type} {r : Reading α} {f : α → Reading β} {a b : α} {t u v : NameTable}

/-- Where some names are known, a reader gives an answer, and then these names are known. -/
def Gives (r : Reading α) (t : NameTable) (a : α) (u : NameTable) : Prop := r.run t = (.ok a, u)

theorem Gives.unique (h : r.Gives t a u) (h' : r.Gives t b v) : a = b ∧ u = v := by
  have same := Prod.mk.inj (Eq.trans (Eq.symm h) h')
  exact ⟨Except.ok.inj same.1, same.2⟩

theorem gives_pure : (pure a : Reading α).Gives t b u ↔ a = b ∧ t = u := by
  constructor
  · intro h
    have same := Prod.mk.inj h
    exact ⟨Except.ok.inj same.1, same.2⟩
  · rintro ⟨rfl, rfl⟩
    rfl

theorem gives_bind {c : β} :
    (r >>= f).Gives t c v ↔ ∃ a u, r.Gives t a u ∧ (f a).Gives u c v := by
  show (ExceptT.bindCont f (r.run t).1).run (r.run t).2 = (.ok c, v) ↔ _
  rcases hrun : r.run t with ⟨e | a, u⟩
  · constructor
    · intro h
      cases (Prod.mk.inj h).1
    · rintro ⟨a, u, first, -⟩
      cases Eq.trans (Eq.symm hrun) first
  · refine ⟨fun h => ⟨a, u, hrun, h⟩, ?_⟩
    rintro ⟨b, u', first, second⟩
    obtain ⟨rfl, rfl⟩ := Gives.unique (show r.Gives t a u from hrun) first
    exact second

theorem gives_intern {name : String} {x : NameId} : (intern name).Gives t x u ↔ t.intern name = (x, u) := by
  constructor
  · intro h
    have same := Prod.mk.inj h
    exact Prod.ext (Except.ok.inj same.1) same.2
  · intro h
    show (Except.ok (t.intern name).1, (t.intern name).2) = (Except.ok x, u)
    rw [h]

theorem not_gives_stop {location : String} {flaw : Flaw} : ¬ (stop location flaw : Reading α).Gives t a u :=
  fun h => nomatch h

end Reading

variable {t u v : NameTable} {cs rest : List Char} {p q : Path} {pick : Pick}

/-! ### The reader -/

namespace Path

open Reading

variable {location text : String} {budget : Nat} {c c' : Cursor}

/-- Read the selection behind a name. -/
def readPick (location text : String) (budget : Nat) (c : Cursor) : Reading (Pick × Cursor) :=
  match c.rest with
  | '[' :: rest =>
    match rest.takeWhile Text.isDigit with
    | [] => do
      let (key, c) ← readAt location text budget (c.skip 1)
      return (.by key, ← readBracket location text c)
    | digits => do
      let n ← readPosition digits
      return (.at n, ← readBracket location text (c.skip (1 + digits.length)))
  | _ => return (.whole, c)

/-- Read the field behind a name and its selection. -/
def readField (location text : String) (budget : Nat) (x : NameId) (pick : Pick) (c : Cursor) :
    Reading (Path × Cursor) :=
  match c.rest with
  | '.' :: _ => do
    let (field, c) ← readAt location text budget (c.skip 1)
    return (.dot x pick field, c)
  | _ => return (.last x pick, c)

/-- A path is read as a name, a selection and a field. -/
theorem readAt_succ (c : Cursor) : readAt location text (budget + 1) c =
    (match Cursor.nameChars c.rest with
    | [] => stop location (.expectedName text c.column)
    | name => do
      let x ← intern (String.ofList name)
      let (pick, c) ← readPick location text budget (c.skip name.length)
      readField location text budget x pick c) := by
  rw [readAt]
  cases Cursor.nameChars c.rest with
  | nil => rfl
  | cons first others =>
    refine congrArg (intern _ >>= ·) (funext fun x => ?_)
    generalize c.skip (first :: others).length = c
    unfold readPick
    cases at_ : c.rest with
    | nil => simp only [at_, pure_bind, readField]
    | cons d rest =>
      by_cases bracket : d = '['
      · cases digits : rest.takeWhile Text.isDigit with
        | nil =>
          simp only [at_, bracket, digits, bind_assoc, pure_bind]
          rfl
        | cons digit others =>
          simp only [at_, bracket, digits, bind_assoc, pure_bind]
          rfl
      · have other (more : List Char) : d :: rest ≠ '[' :: more := fun h => bracket (List.cons.inj h).1
        simp only [at_]
        rfl

/-! ### What is spelled is given -/

/-- The characters with which a path may go on. -/
def goesOn (c : Char) : Bool := continuesName c || c = '[' || c = '.'

theorem nameChars_append {name rest : List Char} (hn : IsName name) (ends : Text.Ends continuesName rest) :
    Cursor.nameChars (name ++ rest) = name := by
  cases hn with
  | mk first others =>
    rw [List.cons_append, Cursor.nameChars, if_pos first, Text.takeWhile_append_of_ends others ends]

theorem rest_skip {front rest : List Char} (h : c.rest = front ++ rest) :
    (c.skip front.length).rest = rest := by
  rw [Cursor.skip, h, List.drop_left]

theorem rest_skip_one {x : Char} {rest : List Char} (h : c.rest = x :: rest) : (c.skip 1).rest = rest := by
  rw [Cursor.skip, h, List.drop_one, List.tail_cons]

theorem gives_readBracket (location text : String) (t : NameTable) {rest : List Char}
    (h : c.rest = ']' :: rest) :
    ∃ c', c'.rest = rest ∧ (readBracket location text c).Gives t c' t := by
  refine ⟨c.skip 1, rest_skip_one h, ?_⟩
  rw [readBracket, h]
  exact gives_pure.2 ⟨rfl, rfl⟩

theorem gives_readPosition {t : NameTable} {digits : List Char} {n : Nat}
    (number : Text.decimalNumber? digits = some n) (few : digits.length ≤ Text.digitLimit) :
    (readPosition digits).Gives t n t := by
  rw [readPosition, number]
  dsimp only
  rw [if_pos few]
  exact gives_pure.2 ⟨rfl, rfl⟩

/-- With some budget, the reader gives all paths that are spelled with less than so many characters. -/
def GivesAll (location text : String) (budget : Nat) : Prop :=
  ∀ {t cs p u}, Spells t cs p u → cs.length < budget → ∀ (c : Cursor) (rest : List Char),
    c.rest = cs ++ rest → Text.Ends goesOn rest →
      ∃ c', c'.rest = rest ∧ (readAt location text budget c).Gives t (p, c') u

/-- The selection is given that is spelled. -/
theorem gives_readPick (keys : GivesAll location text budget) (h : SpellsPick t cs pick u)
    (enough : cs.length ≤ budget) (at_ : c.rest = cs ++ rest) (ends : Text.Ends (· = '[') rest) :
    ∃ c', c'.rest = rest ∧ (readPick location text budget c).Gives t (pick, c') u := by
  cases h with
  | whole =>
    refine ⟨c, at_, ?_⟩
    rw [List.nil_append] at at_
    unfold readPick
    split
    · next rest' opened =>
      have bracket := ends '[' (by rw [← at_, opened]; rfl)
      cases bracket
    · exact gives_pure.2 ⟨rfl, rfl⟩
  | @«at» _ digits n nonempty all number few =>
    have opened : c.rest = '[' :: (digits ++ ']' :: rest) := by simpa using at_
    have behind : (c.skip (1 + digits.length)).rest = ']' :: rest := by
      rw [Nat.add_comm 1]
      exact rest_skip (c := c) (show c.rest = ('[' :: digits) ++ ']' :: rest from opened)
    obtain ⟨c', left, closed⟩ := gives_readBracket location text t behind
    refine ⟨c', left, ?_⟩
    unfold readPick
    have bracket : Text.Ends Text.isDigit (']' :: rest) := Text.ends_cons (by decide) rest
    simp only [opened, Text.takeWhile_append_of_ends all bracket]
    cases digits with
    | nil => exact absurd rfl nonempty
    | cons d ds =>
      refine gives_bind.2 ⟨n, t, gives_readPosition number few, ?_⟩
      exact gives_bind.2 ⟨c', t, closed, gives_pure.2 ⟨rfl, rfl⟩⟩
  | @«by» _ _ key k hk =>
    have opened : c.rest = '[' :: (key ++ ']' :: rest) := by simpa using at_
    have shorter : key.length < budget := by
      rw [List.length_append, List.length_cons] at enough
      omega
    -- a path starts with a letter, so no digits stand behind the bracket
    obtain ⟨first, others, rfl, starts⟩ := hk.isPath.starts
    have no_digits : (first :: others ++ ']' :: rest).takeWhile Text.isDigit = [] :=
      List.takeWhile_cons_of_neg (Bool.eq_false_iff.1 (Text.not_isDigit_of_startsName starts))
    obtain ⟨c₁, behind, read⟩ := keys hk shorter (c.skip 1) (']' :: rest)
      (rest_skip_one opened) (Text.ends_cons (by decide) rest)
    obtain ⟨c', left, closed⟩ := gives_readBracket location text u behind
    refine ⟨c', left, ?_⟩
    unfold readPick
    simp only [opened, no_digits]
    exact gives_bind.2 ⟨_, u, read, gives_bind.2 ⟨c', u, closed, gives_pure.2 ⟨rfl, rfl⟩⟩⟩

theorem gives_readField_last {x : NameId} (ends : Text.Ends (· = '.') c.rest) :
    (readField location text budget x pick c).Gives t (.last x pick, c) t := by
  unfold readField
  split
  · next rest dot =>
    have more := ends '.' (by rw [dot]; rfl)
    cases more
  · exact gives_pure.2 ⟨rfl, rfl⟩

theorem gives_readField_dot {x : NameId} {f : Path} (dot : c.rest = '.' :: rest)
    (gone : (readAt location text budget (c.skip 1)).Gives t (f, c') u) :
    (readField location text budget x pick c).Gives t (.dot x pick f, c') u := by
  unfold readField
  simp only [dot]
  exact gives_bind.2 ⟨_, u, gone, gives_pure.2 ⟨rfl, rfl⟩⟩

/-- A path that begins with a name goes on with what stands behind the name. -/
theorem readAt_of_name {name : List Char} (hn : IsName name) (at_ : c.rest = name ++ rest)
    (ends : Text.Ends continuesName rest) : readAt location text (budget + 1) c = (do
      let x ← intern (String.ofList name)
      let found ← readPick location text budget (c.skip name.length)
      readField location text budget x found.1 found.2) := by
  rw [readAt_succ, at_, nameChars_append hn ends]
  cases hn
  rfl

/-- A selection ends the name before it. -/
theorem ends_pick (hp : SpellsPick t cs pick u) (ends : Text.Ends continuesName rest) :
    Text.Ends continuesName (cs ++ rest) := by
  cases hp with
  | whole => exact ends
  | «at» | «by» => exact Text.ends_cons (by decide) _

/-- **What is spelled is given**, with a budget of more than its length, if the path ends there. -/
theorem givesAll (location text : String) (budget : Nat) : GivesAll location text budget := by
  induction budget with
  | zero => exact fun _ short => nomatch short
  | succ budget ih =>
    intro t cs p u h enough c rest at_ ends
    cases h with
    | @last _ _ name pick p hn hp =>
      have name_pos := hn.length_pos
      rw [List.length_append] at enough
      rw [List.append_assoc] at at_
      have name_ends := ends_pick hp (ends.imp fun c continues => by rw [goesOn, continues]; rfl)
      have no_bracket : Text.Ends (· = '[') rest := ends.imp fun c bracket => by simp_all [goesOn]
      have no_dot : Text.Ends (· = '.') rest := ends.imp fun c dot => by simp_all [goesOn]
      obtain ⟨c₁, behind, picked⟩ := gives_readPick ih hp (by omega) (rest_skip at_) no_bracket
      refine ⟨c₁, behind, ?_⟩
      rw [readAt_of_name hn at_ name_ends]
      refine gives_bind.2 ⟨_, _, gives_intern.2 rfl, gives_bind.2 ⟨_, _, picked, ?_⟩⟩
      exact gives_readField_last (behind ▸ no_dot)
    | @dot _ u _ name pick field p f hn hp hf =>
      have name_pos := hn.length_pos
      rw [List.length_append, List.length_append, List.length_cons] at enough
      rw [List.append_assoc, List.append_assoc] at at_
      have dot_ends : Text.Ends continuesName ('.' :: (field ++ rest)) := Text.ends_cons (by decide) _
      have no_bracket : Text.Ends (· = '[') ('.' :: (field ++ rest)) := Text.ends_cons (by decide) _
      obtain ⟨c₁, behind, picked⟩ := gives_readPick ih hp (by omega) (rest_skip at_) no_bracket
      obtain ⟨c₂, left, gone⟩ := ih hf (by omega) (c₁.skip 1) rest (rest_skip_one behind) ends
      refine ⟨c₂, left, ?_⟩
      rw [readAt_of_name hn at_ (ends_pick hp dot_ends)]
      refine gives_bind.2 ⟨_, _, gives_intern.2 rfl, gives_bind.2 ⟨_, _, picked, ?_⟩⟩
      exact gives_readField_dot behind gone

/-! ### What is given is spelled -/

theorem rest_of_readBracket (h : (readBracket location text c).Gives t c' u) :
    c.rest = ']' :: c'.rest ∧ t = u := by
  rw [readBracket] at h
  split at h
  · next rest closed =>
    obtain ⟨rfl, rfl⟩ := gives_pure.1 h
    exact ⟨by rw [closed, rest_skip_one closed], rfl⟩
  · cases not_gives_stop h

theorem number_of_readPosition {digits : List Char} {n : Nat} (h : (readPosition digits).Gives t n u) :
    Text.decimalNumber? digits = some n ∧ digits.length ≤ Text.digitLimit ∧ t = u := by
  rw [readPosition] at h
  split at h
  · next m number =>
    split at h
    · next few =>
      obtain ⟨rfl, rfl⟩ := gives_pure.1 h
      exact ⟨number, few, rfl⟩
    · cases h
  · cases h

/-- With some budget, the reader gives nothing but what is spelled. -/
def GivesOnly (location text : String) (budget : Nat) : Prop :=
  ∀ {t p u} {c c' : Cursor}, (readAt location text budget c).Gives t (p, c') u →
    ∃ cs, c.rest = cs ++ c'.rest ∧ Spells t cs p u

/-- The selection is spelled that is given. -/
theorem spells_of_readPick (keys : GivesOnly location text budget)
    (h : (readPick location text budget c).Gives t (pick, c') u) :
    ∃ cs, c.rest = cs ++ c'.rest ∧ SpellsPick t cs pick u := by
  unfold readPick at h
  split at h
  · next rest opened =>
    split at h
    · obtain ⟨⟨key, c₁⟩, u₁, read, h⟩ := gives_bind.1 h
      obtain ⟨c₂, u₂, closed, h⟩ := gives_bind.1 h
      obtain ⟨same, rfl⟩ := gives_pure.1 h
      obtain ⟨rfl, rfl⟩ := Prod.mk.inj same
      obtain ⟨cs, behind, spelt⟩ := keys read
      obtain ⟨bracket, rfl⟩ := rest_of_readBracket closed
      refine ⟨'[' :: cs ++ [']'], ?_, .by spelt⟩
      rw [rest_skip_one opened] at behind
      rw [opened, behind, bracket]
      simp
    · next digits nonempty =>
      obtain ⟨n, u₁, read, h⟩ := gives_bind.1 h
      obtain ⟨c₂, u₂, closed, h⟩ := gives_bind.1 h
      obtain ⟨same, rfl⟩ := gives_pure.1 h
      obtain ⟨rfl, rfl⟩ := Prod.mk.inj same
      obtain ⟨number, few, rfl⟩ := number_of_readPosition read
      obtain ⟨bracket, rfl⟩ := rest_of_readBracket closed
      have whole : rest.takeWhile Text.isDigit ++ rest.dropWhile Text.isDigit = rest :=
        List.takeWhile_append_dropWhile
      have at_ : c.rest = '[' :: rest.takeWhile Text.isDigit ++ rest.dropWhile Text.isDigit := by
        rw [opened, List.cons_append, whole]
      have behind := rest_skip at_
      refine ⟨'[' :: rest.takeWhile Text.isDigit ++ [']'], ?_,
        .at nonempty (fun d hd => List.all_eq_true.1 List.all_takeWhile d hd) number few⟩
      rw [List.length_cons, Nat.add_comm, bracket] at behind
      rw [opened, List.append_assoc, List.cons_append, List.singleton_append, behind, whole]
  · obtain ⟨same, rfl⟩ := gives_pure.1 h
    obtain ⟨rfl, rfl⟩ := Prod.mk.inj same
    exact ⟨[], rfl, .whole⟩

theorem name_of_nameChars (nonempty : Cursor.nameChars cs ≠ []) :
    IsName (Cursor.nameChars cs) ∧ ∃ rest, cs = Cursor.nameChars cs ++ rest := by
  cases cs with
  | nil => exact absurd rfl nonempty
  | cons c cs =>
    rw [Cursor.nameChars] at nonempty ⊢
    split
    · next starts =>
      refine ⟨.mk starts fun d hd => List.all_eq_true.1 List.all_takeWhile d hd,
        cs.dropWhile continuesName, ?_⟩
      rw [List.cons_append, List.takeWhile_append_dropWhile]
    · next starts => exact absurd (if_neg starts) nonempty

/-- A path ends behind a selection, or goes on with a field behind a dot. -/
theorem path_of_readField {x : NameId} (h : (readField location text budget x pick c).Gives t (p, c') u) :
    (p = .last x pick ∧ c' = c ∧ u = t) ∨
    ∃ rest f, c.rest = '.' :: rest ∧ p = .dot x pick f ∧
      (readAt location text budget (c.skip 1)).Gives t (f, c') u := by
  unfold readField at h
  split at h
  · next rest dot =>
    obtain ⟨⟨f, c₂⟩, u₁, gone, h⟩ := gives_bind.1 h
    obtain ⟨same, rfl⟩ := gives_pure.1 h
    obtain ⟨rfl, rfl⟩ := Prod.mk.inj same
    exact .inr ⟨rest, f, dot, rfl, gone⟩
  · obtain ⟨same, rfl⟩ := gives_pure.1 h
    obtain ⟨rfl, rfl⟩ := Prod.mk.inj same
    exact .inl ⟨rfl, rfl, rfl⟩

/-- **Nothing is given but what is spelled.** -/
theorem givesOnly (location text : String) (budget : Nat) : GivesOnly location text budget := by
  induction budget with
  | zero => exact fun h => absurd h not_gives_stop
  | succ budget ih =>
    intro t p u c c' h
    rw [readAt_succ] at h
    split at h
    · exact absurd h not_gives_stop
    · next name nonempty =>
      obtain ⟨hn, rest, at_⟩ := name_of_nameChars nonempty
      obtain ⟨x, u₁, interned, selected⟩ := gives_bind.1 h
      obtain ⟨⟨pick, c₁⟩, u₂, picked, left⟩ := gives_bind.1 selected
      obtain rfl := congrArg Prod.fst (gives_intern.1 interned)
      obtain rfl := congrArg Prod.snd (gives_intern.1 interned)
      obtain ⟨cs, behind, hp⟩ := spells_of_readPick ih picked
      rw [rest_skip at_] at behind
      rcases path_of_readField left with ⟨rfl, rfl, rfl⟩ | ⟨rest', f, dot, rfl, gone⟩
      · refine ⟨_, ?_, .last hn hp⟩
        rw [List.append_assoc, ← behind]
        exact at_
      · obtain ⟨field, left, hf⟩ := ih gone
        rw [rest_skip_one dot] at left
        refine ⟨_, ?_, .dot hn hp hf⟩
        rw [List.append_assoc, List.append_assoc, List.cons_append, ← left, ← dot, ← behind]
        exact at_

/-- **The reader gives just what is spelled** by the text without the white space around it. -/
theorem gives_read_iff {chars : List Char} :
    (read location chars).Gives t p u ↔ Spells t (Text.strip chars) p u := by
  rw [read, gives_bind]
  constructor
  · rintro ⟨⟨p', c⟩, u', given, h⟩
    obtain ⟨cs, whole, spelt⟩ := givesOnly _ _ _ given
    dsimp only at h
    split at h
    · next nothing =>
      obtain ⟨rfl, rfl⟩ := gives_pure.1 h
      rw [nothing, List.append_nil] at whole
      exact (show Text.strip chars = cs from whole) ▸ spelt
    · exact absurd h not_gives_stop
  · intro h
    obtain ⟨c, nothing, given⟩ := givesAll location (String.ofList (Text.strip chars)) _ h
      (Nat.lt_succ_self _) ⟨0, Text.strip chars⟩ [] (List.append_nil _).symm (Text.ends_nil _)
    refine ⟨_, _, given, ?_⟩
    dsimp only
    rw [nothing]
    exact gives_pure.2 ⟨rfl, rfl⟩

/-- What is written for a path is read as this path, and no name is new. -/
theorem gives_describe (location : String) (nodup : t.names.Nodup) (sound : p.Sound t) :
    (read location (p.describe t).toList).Gives t p t := by
  have spelt := p.spells_describe nodup sound
  rw [gives_read_iff, spelt.isPath.strip_eq]
  exact spelt

end Path

/-! ### Reading and writing -/

/-- **Reading undoes writing.**  A text is read just if the grammar has it; what is written for a path is
read as this path, and no name is new; so different paths are written differently; and what is written for a
path that was read is read as this path again. -/
theorem Path.read_inverts_describe (location : String) :
    (∀ (text : String) (t : NameTable), text.length < Text.digitLimit → Text.AllDecimal text.toList →
      ((∃ p u, (ofString location text).Gives t p u) ↔ IsPath (Text.strip text.toList))) ∧
    (∀ (t : NameTable) (p : Path), t.names.Nodup → p.Sound t →
      (ofString location (p.describe t)).Gives t p t) ∧
    (∀ (t : NameTable) (p q : Path), t.names.Nodup → p.Sound t → q.Sound t →
      p.describe t = q.describe t → p = q) ∧
    (∀ (text : String) (t : NameTable) (p : Path) (u : NameTable), t.names.Nodup →
      (ofString location text).Gives t p u → (ofString location (p.describe u)).Gives u p u) := by
  have written {t : NameTable} {p : Path} (nodup : t.names.Nodup) (sound : p.Sound t) :
      (ofString location (p.describe t)).Gives t p t := gives_describe location nodup sound
  refine ⟨fun text t short decimal => ?_, fun t p => written, fun t p q nodup hp hq same => ?_,
    fun text t p u nodup given => ?_⟩
  · constructor
    · rintro ⟨p, u, given⟩
      exact (gives_read_iff.1 given).isPath
    · intro h
      have inside := Text.strip_isInfix text.toList
      have enough : (Text.strip text.toList).length ≤ Text.digitLimit := by
        have shorter := inside.length_le
        rw [String.length_toList] at shorter
        omega
      obtain ⟨p, u, spelt⟩ := exists_spells h (fun c hc => decimal c (inside.subset hc)) enough t
      exact ⟨p, u, gives_read_iff.2 spelt⟩
  · exact ((written nodup hp).unique (same ▸ written nodup hq)).1
  · obtain ⟨grows, sound⟩ := (gives_read_iff.1 given).grows_and_sound
    exact written (grows.nodup nodup) sound

theorem Path.read_inverts_describe_hosts :
    let text := " hosts[7].pick[hosts] "
    let t : NameTable := ⟨["hosts", "pick"]⟩
    let p : Path := .dot 0 (.at 7) (.last 1 (.by (.last 0 .whole)))
    (text.length < Text.digitLimit ∧ Text.AllDecimal text.toList ∧ t.names.Nodup ∧ p.Sound t ∧
      (ofString "bed" text).Gives {} p t) ∧
    IsPath (Text.strip text.toList) ∧ (ofString "bed" (p.describe t)).Gives t p t ∧
    ∀ q : Path, q.Sound t → p.describe t = q.describe t → p = q := by
  intro text t p
  obtain ⟨accepts, written, distinct, -⟩ := read_inverts_describe "bed"
  have short : text.length < Text.digitLimit := by decide +kernel
  have decimal : Text.AllDecimal text.toList := by
    have all : text.toList.all (fun c => !Text.isDigit c || (Text.decimalValue? c).isSome) = true := by
      decide +kernel
    exact fun c hc digit => by simpa [digit] using List.all_eq_true.1 all c hc
  have nodup : t.names.Nodup := by decide +kernel
  have hosts : t.Knows 0 := ⟨"hosts", rfl, .mk rfl (List.all_eq_true.1 (by decide +kernel))⟩
  have pick : t.Knows 1 := ⟨"pick", rfl, .mk rfl (List.all_eq_true.1 (by decide +kernel))⟩
  have few : (toString 7).length ≤ Text.digitLimit := by decide +kernel
  have sound : p.Sound t := ⟨hosts, few, pick, hosts, trivial⟩
  have given : (ofString "bed" text).Gives {} p t := by
    show (_ : Except Refusal Path × NameTable) = (.ok p, t)
    decide +kernel
  exact ⟨⟨short, decimal, nodup, sound, given⟩, (accepts text {} short decimal).1 ⟨p, t, given⟩,
    written t p nodup sound, fun q other => distinct t p q nodup sound other⟩

end Sweep
