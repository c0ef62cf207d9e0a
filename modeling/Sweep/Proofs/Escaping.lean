import Sweep.Expression
import Sweep.Proofs.Deciphering

/-!
# Literal text and paths in one text

A text is cut into literal pieces and paths, and what is written for the parts is cut into the same pieces
again.  A dollar sign is the only character that has to be doubled for this.

* `Tidy` — no literal is empty, and no two stand side by side; `Piece.tidy_outside` — what is cut is tidy;
* `Piece.outside_escape`, `Piece.inside_append` — how the cutting goes over what was written;
* `Piece.outside_written` — cutting undoes writing, for tidy pieces;
* `Interpolation.spec_of_readPieces`, `Interpolation.gives_readPieces` — what is known of the parts that are
  read, and the pieces that are read as given parts;
* `Interpolation.parts_read_back` — all of it together.
-/

namespace Sweep

open Reading

/-- No literal is empty, and no two stand side by side; what is no literal is left out of account. -/
def Tidy : List (Option (List Char)) → Prop
  | [] => True
  | none :: rest => Tidy rest
  | some chars :: rest => chars ≠ [] ∧ rest.head?.join = none ∧ Tidy rest

theorem Tidy.nonempty {shape : List (Option (List Char))} (h : Tidy shape) : some [] ∉ shape := by
  induction shape with
  | nil => exact List.not_mem_nil
  | cons first rest ih =>
    cases first with
    | none =>
      rintro (_ | ⟨_, inside⟩)
      exact ih h inside
    | some chars =>
      rintro (_ | ⟨_, inside⟩)
      · exact h.1 rfl
      · exact ih h.2.2 inside

theorem Tidy.apart {shape : List (Option (List Char))} (h : Tidy shape)
    (before after : List (Option (List Char))) (first second : List Char) : shape ≠ before ++ some first :: some second :: after := by
  rintro rfl
  induction before with
  | nil => exact nomatch h.2.1
  | cons x before ih =>
    cases x with
    | none => exact ih h
    | some chars => exact ih h.2.2

namespace Piece

/-- What is written for a piece. -/
def written : Piece → List Char
  | literal chars => Interpolation.escape chars
  | hole path => '$' :: '\x7b' :: path ++ ['\x7d']
  | unclosed => []

/-- The characters of a literal piece. -/
def literal? : Piece → Option (List Char)
  | literal chars => some chars
  | _ => none

variable {c : Char} {lit path cs rest : List Char} {ps : List Piece}

/-! ### What is cut is tidy -/

theorem tidy_literalOf (lit : List Char) (tidy : Tidy (ps.map literal?)) 
    (apart : (ps.map literal?).head?.join = none) :
    Tidy ((literalOf lit ps).map literal?) := by
  rw [literalOf]
  split
  · exact tidy
  · next nonempty => exact ⟨mt List.reverse_eq_nil_iff.1 nonempty, apart, tidy⟩

mutual

/-- What is cut is tidy. -/
theorem tidy_outside (lit cs : List Char) : Tidy ((outside lit cs).map literal?) := by
  rw [outside.eq_def]
  split
  · exact tidy_literalOf lit trivial rfl
  · next rest => exact tidy_outside _ rest
  · next rest => exact tidy_inside lit [] rest
  · next c rest _ _ => exact tidy_outside _ rest
termination_by cs.length

/-- What is cut is tidy, also where a path is open. -/
theorem tidy_inside (lit path cs : List Char) : Tidy ((inside lit path cs).map literal?) := by
  rw [inside.eq_def]
  split
  · trivial
  · next c rest =>
    split
    · have whole : Tidy ((hole path.reverse :: outside [] rest).map literal?) := tidy_outside [] rest
      exact tidy_literalOf lit whole rfl
    · exact tidy_inside lit _ rest
termination_by cs.length

end

/-! ### Cutting what was written -/

/-- What is no dollar sign is literal. -/
theorem outside_cons (other : c ≠ '$') (lit rest : List Char) :
    outside lit (c :: rest) = outside (c :: lit) rest := by
  rw [outside]
  · exact fun _ dollar => absurd dollar other
  · exact fun _ dollar => absurd dollar other

/-- An escaped text is literal, whatever follows. -/
theorem outside_escape (lit cs rest : List Char) :
    outside lit (Interpolation.escape cs ++ rest) = outside (cs.reverse ++ lit) rest := by
  induction cs generalizing lit with
  | nil => rfl
  | cons c cs ih =>
    rw [List.reverse_cons, List.append_assoc, List.singleton_append, ← ih, Interpolation.escape]
    split
    · next dollar => rw [dollar, List.cons_append, List.cons_append, outside]
    · next other => rw [List.cons_append, outside_cons other]

/-- A path goes on to the next closing brace. -/
theorem inside_append (closed : '\x7d' ∉ path) (lit before rest : List Char) :
    inside lit before (path ++ '\x7d' :: rest) =
      literalOf lit (hole (before.reverse ++ path) :: outside [] rest) := by
  induction path generalizing before with
  | nil => rw [List.nil_append, inside, if_pos rfl, List.append_nil]
  | cons c path ih =>
    have c_ne : c ≠ '\x7d' := fun same => closed (same ▸ List.mem_cons_self)
    rw [List.cons_append, inside, if_neg c_ne, ih fun h => closed (List.mem_cons_of_mem c h)]
    simp

/-- A piece that can be cut out of a text: an opening is closed, and where its path ends. -/
def IsWhole : Piece → Prop
  | literal _ => True
  | hole path => '\x7d' ∉ path
  | unclosed => False

/-- **Cutting undoes writing**, for tidy pieces, where no literal has begun before a literal. -/
theorem outside_written (whole : ∀ p ∈ ps, p.IsWhole) (tidy : Tidy (ps.map literal?))
    (begun : lit = [] ∨ (ps.map literal?).head?.join = none) :
    outside lit (ps.flatMap written) = literalOf lit ps := by
  induction ps generalizing lit with
  | nil => rw [List.flatMap_nil, outside]
  | cons p ps ih =>
    have others : ∀ p ∈ ps, p.IsWhole := fun p hp => whole p (List.mem_cons_of_mem _ hp)
    cases p with
    | literal chars =>
      obtain rfl : lit = [] := begun.resolve_right fun h => nomatch h
      obtain ⟨nonempty, apart, tidy⟩ := tidy
      rw [List.flatMap_cons, written, outside_escape, ih others tidy (.inr apart), List.append_nil,
        literalOf, if_neg (mt List.reverse_eq_nil_iff.1 nonempty), List.reverse_reverse, literalOf, if_pos rfl]
    | hole path =>
      have closed : '\x7d' ∉ path := whole _ List.mem_cons_self
      rw [List.flatMap_cons, written, List.append_assoc, List.singleton_append, List.cons_append,
        List.cons_append, outside, inside_append closed, ih others tidy (.inl rfl)]
      rfl
    | unclosed => exact (whole _ List.mem_cons_self).elim

end Piece

/-! ### Parts -/

namespace Part

/-- The characters of a literal part. -/
def literal? : Part → Option (List Char)
  | literal text => some text.toList
  | hole _ => none

/-- The piece that is written for a part. -/
def piece (names : NameTable) : Part → Piece
  | literal text => .literal text.toList
  | hole path => .hole (path.describe names).toList

theorem literal?_piece (names : NameTable) (p : Part) : (p.piece names).literal? = p.literal? := by
  cases p <;> rfl

theorem written_piece (names : NameTable) (p : Part) :
    (p.piece names).written = (Interpolation.describePart names p).toList := by
  cases p with
  | literal text => rw [Interpolation.describePart, String.toList_ofList]; rfl
  | hole path =>
    rw [Interpolation.describePart, String.toList_append, String.toList_append]
    rfl

end Part

namespace Interpolation

variable {location text : String} {t u : NameTable} {ps : List Piece} {parts : Interpolation}

/-- **What is known of the parts that are read**: their paths can be written with the names that are known
then, and the literals are those of the pieces. -/
theorem spec_of_readPieces (h : (readPieces location text ps).Gives t parts u) :
    t.Grows u ∧ (∀ p, .hole p ∈ parts → p.Sound u) ∧
      parts.map Part.literal? = ps.map Piece.literal? := by
  induction ps generalizing t parts with
  | nil =>
    obtain ⟨rfl, rfl⟩ := gives_pure.1 h
    exact ⟨.refl t, fun _ inside => (nomatch inside), rfl⟩
  | cons piece rest ih =>
    cases piece with
    | literal chars =>
      obtain ⟨others, u₁, read, h⟩ := gives_bind.1 h
      obtain ⟨rfl, rfl⟩ := gives_pure.1 h
      obtain ⟨grows, sound, same⟩ := ih read
      refine ⟨grows, ?_, ?_⟩
      · rintro p (_ | ⟨_, inside⟩)
        exact sound p inside
      · rw [List.map_cons, List.map_cons, same, Part.literal?, String.toList_ofList]
        rfl
    | hole chars =>
      obtain ⟨path, u₁, first, h⟩ := gives_bind.1 h
      obtain ⟨others, u₂, read, h⟩ := gives_bind.1 h
      obtain ⟨rfl, rfl⟩ := gives_pure.1 h
      obtain ⟨grows, sound, same⟩ := ih read
      obtain ⟨before, found⟩ := (Path.gives_read_iff.1 first).grows_and_sound
      refine ⟨before.trans grows, ?_, ?_⟩
      · rintro p (_ | ⟨_, inside⟩)
        · exact found.mono grows.keeps path
        · exact sound p inside
      · rw [List.map_cons, List.map_cons, same]
        rfl
    | unclosed => exact absurd h not_gives_stop

/-- The pieces that are written for parts are read as these parts, and no name is new. -/
theorem gives_readPieces (nodup : t.names.Nodup) (sound : ∀ p, .hole p ∈ parts → p.Sound t) :
    (readPieces location text (parts.map (Part.piece t))).Gives t parts t := by
  induction parts with
  | nil => exact gives_pure.2 ⟨rfl, rfl⟩
  | cons part parts ih =>
    have others := ih fun p inside => sound p (List.mem_cons_of_mem part inside)
    cases part with
    | literal text' =>
      refine gives_bind.2 ⟨_, t, others, gives_pure.2 ⟨?_, rfl⟩⟩
      rw [String.ofList_toList]
    | hole path =>
      have first := Path.gives_describe location nodup (sound path List.mem_cons_self)
      exact gives_bind.2 ⟨_, t, first, gives_bind.2 ⟨_, t, others, gives_pure.2 ⟨rfl, rfl⟩⟩⟩

theorem pieces_escape (chars : List Char) : pieces (escape chars) = Piece.literalOf chars.reverse [] := by
  have cut := Piece.outside_escape [] chars []
  rw [List.append_nil, List.append_nil, Piece.outside] at cut
  exact cut

/-- The pieces of what is written for tidy parts. -/
theorem pieces_join (nodup : t.names.Nodup) (sound : ∀ p, .hole p ∈ parts → p.Sound t)
    (tidy : Tidy (parts.map Part.literal?)) :
    pieces (String.join (parts.map (describePart t))).toList = parts.map (Part.piece t) := by
  have whole : ∀ piece ∈ parts.map (Part.piece t), piece.IsWhole := by
    intro piece inside
    obtain ⟨part, hpart, rfl⟩ := List.mem_map.1 inside
    cases part with
    | literal text => trivial
    | hole path => exact (path.spells_describe nodup (sound path hpart)).isPath.no_brace
  have shape : (parts.map (Part.piece t)).map Piece.literal? = parts.map Part.literal? := by
    rw [List.map_map]
    exact List.map_congr_left fun part _ => part.literal?_piece t
  have text : (String.join (parts.map (describePart t))).toList =
      (parts.map (Part.piece t)).flatMap Piece.written := by
    rw [String.toList_join, List.flatMap_map, List.flatMap_map]
    exact List.flatMap_congr fun part _ => (part.written_piece t).symm
  rw [text, pieces, Piece.outside_written whole (shape ▸ tidy) (.inl rfl)]
  rfl

/-- **Reading undoes writing.**  In what is read no literal is empty and no two are side by side, and what is
written for it, without the quotes, is read as the same parts, and no name is new; and a text with all its
dollar signs doubled is read, whatever it is, as literal text whose value is the text. -/
theorem parts_read_back (location : String) :
    (∀ (text : String) (t : NameTable) (parts : Interpolation) (u : NameTable), t.names.Nodup →
      (read location text).Gives t parts u →
        .literal "" ∉ parts ∧
        (∀ before first second after, parts ≠ before ++ .literal first :: .literal second :: after) ∧
        ∃ inner, describe u parts = "\"" ++ inner ++ "\"" ∧ (read location inner).Gives u parts u) ∧
    ∀ (s : String) (t : NameTable), ∃ parts,
      (read location (String.ofList (escape s.toList))).Gives t parts t ∧
      (∀ path, .hole path ∉ parts) ∧ ∀ scopes, eval scopes parts = .ok s := by
  refine ⟨fun text t parts u nodup given => ?_, fun s t => ?_⟩
  · obtain ⟨grows, sound, same⟩ := spec_of_readPieces given
    have tidy : Tidy (parts.map Part.literal?) := same ▸ Piece.tidy_outside [] text.toList
    have nodup := grows.nodup nodup
    refine ⟨fun empty => ?_, ?_, String.join (parts.map (describePart u)), rfl, ?_⟩
    · exact tidy.nonempty (List.mem_map_of_mem empty)
    · rintro before first second after rfl
      refine tidy.apart (before.map Part.literal?) (after.map Part.literal?) first.toList second.toList ?_
      simp [Part.literal?]
    · rw [read, pieces_join nodup sound tidy]
      exact gives_readPieces nodup sound
  · rw [read, String.toList_ofList, pieces_escape, Piece.literalOf]
    split
    · next empty =>
      obtain rfl : s = "" := String.toList_eq_nil_iff.1 (List.reverse_eq_nil_iff.1 empty)
      exact ⟨[], gives_pure.2 ⟨rfl, rfl⟩, fun _ => List.not_mem_nil, fun _ => rfl⟩
    · have cut : String.ofList s.toList.reverse.reverse = s := by
        rw [List.reverse_reverse, String.ofList_toList]
      have value : String.join [s] = s := by
        rw [String.join_cons, String.join_nil, String.append_empty]
      refine ⟨[.literal s], ?_, by simp, fun scopes => congrArg Except.ok value⟩
      exact gives_bind.2 ⟨[], t, gives_pure.2 ⟨rfl, rfl⟩, gives_pure.2 ⟨by rw [cut], rfl⟩⟩

theorem parts_read_back_greeting :
    let text := "a$$$\x7bwho\x7d$\x7bwho\x7d$"
    let parts : Interpolation := [.literal "a$", .hole (.last 0 .whole), .hole (.last 0 .whole), .literal "$"]
    let t : NameTable := ⟨["who"]⟩
    (({} : NameTable).names.Nodup ∧ (read "bed" text).Gives {} parts t) ∧
      .literal "" ∉ parts ∧ ∃ inner, describe t parts = "\"" ++ inner ++ "\"" ∧
        (read "bed" inner).Gives t parts t := by
  intro text parts t
  have nodup : ({} : NameTable).names.Nodup := List.nodup_nil
  have given : (read "bed" text).Gives {} parts t := by
    show (_ : Except Refusal Interpolation × NameTable) = (.ok parts, t)
    decide +kernel
  obtain ⟨nonempty, -, again⟩ := (parts_read_back "bed").1 text {} parts t nodup given
  exact ⟨⟨nodup, given⟩, nonempty, again⟩

end Interpolation

end Sweep
