import Sweep.Interpolation

/-!
# What is said of a text that is no path

Reading a text as a path gives a path or a complaint.  Nearly every complaint names a column; one does not,
and it is due only if an index of the text is written with digits that make no number.

* `Reading.Meets` — whatever names are known, a reader gives an answer with a property, or a refusal of some
  kind; with one lemma for each way to put readers together;
* `Text.OddIndex` — a text has an index that is no number, and `Text.oddIndex_of_isInfix` — it is one of
  every text around it;
* `Path.meets_readAt` — paths are read inside their text;
* `Piece.isInfix_of_outside` — an interpolation reads only what stands between its braces.

The main statements are `Path.meets_read` and `Interpolation.meets_read`.
-/

namespace Sweep

namespace Reading

variable {α β : Type} {r : Reading α} {E F : Refusal → Prop} {Q R : α → Prop}

/-- Whatever names are known, a reader gives an answer with a property, or a refusal of some kind. -/
def Meets (E : Refusal → Prop) (r : Reading α) (Q : α → Prop) : Prop :=
  ∀ names, match (r.run names).1 with
    | .ok a => Q a
    | .error e => E e

theorem meets_pure {a : α} (h : Q a) : Meets E (pure a) Q := fun _ => h

theorem meets_throw {e : Refusal} (h : E e) : Meets E (throw e : Reading α) Q := fun _ => h

theorem Meets.bind {next : α → Reading β} {S : β → Prop} (hr : Meets E r Q)
    (hnext : ∀ a, Q a → Meets E (next a) S) : Meets E (r >>= next) S := by
  intro names
  have first := hr names
  show match (ExceptT.bindCont next (r.run names).1).run (r.run names).2 |>.1 with
    | .ok b => S b
    | .error e => E e
  rcases hrun : r.run names with ⟨e | a, names'⟩
  · rw [hrun] at first
    exact first
  · rw [hrun] at first
    exact hnext a first names'

theorem Meets.imp (h : Meets E r Q) (hEF : ∀ e, E e → F e) (hQR : ∀ a, Q a → R a) : Meets F r R := by
  intro names
  have given := h names
  rcases hrun : (r.run names).1 with e | a
  · rw [hrun] at given
    exact hEF e given
  · rw [hrun] at given
    exact hQR a given

theorem meets_done (a : α) : Meets E (pure a) fun _ => True := meets_pure trivial

theorem Meets.pure_of {f : α → β} (hr : Meets E r Q) : Meets E (r >>= fun a => pure (f a)) fun _ => True :=
  hr.bind fun _ _ => meets_done _

theorem meets_intern (name : String) : Meets E (intern name) fun _ => True := fun _ => trivial

/-- A reader that first checks something and stops when it holds. -/
theorem meets_of_check {stops : Prop} [Decidable stops] {location : String} {f : Flaw}
    {next : PUnit → Reading α} (flaw : E (.flaw location f)) (h : Meets E (next ⟨⟩) Q) :
    Meets E (if stops then stop location f >>= next else next ⟨⟩) Q := by
  split
  · exact Meets.bind (meets_throw flaw (Q := fun _ => True)) fun _ _ => h
  · exact h

/-- A reader that first checks something and stops unless it holds. -/
theorem meets_of_need {needs : Prop} [Decidable needs] {location : String} {f : Flaw}
    {next : PUnit → Reading α} (flaw : E (.flaw location f)) (h : Meets E (next ⟨⟩) Q) :
    Meets E (if needs then next ⟨⟩ else stop location f >>= next) Q := by
  split
  · exact h
  · exact Meets.bind (meets_throw flaw (Q := fun _ => True)) fun _ _ => h

theorem meets_mapM {f : α → Reading β} {xs : List α} (h : ∀ x ∈ xs, Meets E (f x) fun _ => True) :
    Meets E (xs.mapM f) fun ys => ys.length = xs.length := by
  induction xs with
  | nil => exact meets_pure rfl
  | cons x xs ih =>
    rw [List.mapM_cons]
    refine (h x List.mem_cons_self).bind fun y _ => ?_
    refine (ih fun z hz => h z (List.mem_cons_of_mem x hz)).bind fun ys hys => meets_pure ?_
    rw [List.length_cons, List.length_cons, hys]

end Reading

open Reading

/-! ### Odd indices -/

namespace Text

/-- Digits that make no number: one of them has no place value, or there are too many of them. -/
def NoNumber (digits : List Char) : Prop :=
  decimalNumber? digits = none ∨ digitLimit < digits.length

/-- Behind a name a bracket opens, and digits follow that make no number. -/
def OddIndex (cs : List Char) : Prop :=
  ∃ before c rest, cs = before ++ c :: '[' :: rest ∧ continuesName c = true ∧
    NoNumber (rest.takeWhile isDigit)

theorem NoNumber.append {digits : List Char} (h : NoNumber digits) (more : List Char) :
    NoNumber (digits ++ more) := by
  rcases h with h | h
  · left
    have lost (cs : List Char) : cs.foldl (fun acc c => do
        return 10 * (← acc) + (← decimalValue? c)) (none : Option Nat) = none := by
      induction cs with
      | nil => rfl
      | cons c cs ih => exact ih
    rw [decimalNumber?] at h ⊢
    rw [List.foldl_append, h, lost]
  · right
    rw [List.length_append]
    omega

/-- An odd index is one of every text around it. -/
theorem oddIndex_of_isInfix {cs ds : List Char} (h : OddIndex cs) (around : cs <:+: ds) :
    OddIndex ds := by
  obtain ⟨before, c, rest, rfl, hc, noNumber⟩ := h
  obtain ⟨front, back, rfl⟩ := around
  refine ⟨front ++ before, c, rest ++ back, by simp, hc, ?_⟩
  rw [List.takeWhile_append]
  split
  · next all =>
    rw [(List.takeWhile_prefix isDigit).eq_of_length all] at noNumber
    exact noNumber.append _
  · exact noNumber

/-- Nothing is odd in a text without brackets. -/
theorem not_oddIndex {cs : List Char} (h : '[' ∉ cs) : ¬ OddIndex cs := by
  rintro ⟨before, c, rest, rfl, -⟩
  simp at h

theorem strip_isInfix (cs : List Char) : strip cs <:+: cs := by
  rw [strip, trim]
  have front : (cs.dropWhile isBlank) <:+ cs := List.dropWhile_suffix _
  have back : (((cs.dropWhile isBlank).reverse.dropWhile isBlank).reverse) <+: cs.dropWhile isBlank := by
    rw [← List.reverse_suffix, List.reverse_reverse]
    exact List.dropWhile_suffix _
  exact back.isInfix.trans front.isInfix

end Text

/-! ### Paths -/

/-- What reading a path can say of a text. -/
def Misread (cs : List Char) : Refusal → Prop
  | .flaw .. => True
  | .indexDigits => Text.OddIndex cs
  | _ => False

theorem Misread.of_isInfix {cs ds : List Char} (around : cs <:+: ds) (e : Refusal) (h : Misread cs e) :
    Misread ds e := by
  cases e with
  | flaw => trivial
  | indexDigits => exact Text.oddIndex_of_isInfix h around
  | pollCount | longNumber | unpaired => exact h

namespace Path

variable {location text : String} {cs : List Char}

/-- The name at the front of a text ends with a character that may stand in a name. -/
theorem exists_of_nameChars {cs : List Char} (nonempty : Cursor.nameChars cs ≠ []) :
    ∃ before last, continuesName last = true ∧
      cs = before ++ last :: cs.drop (Cursor.nameChars cs).length := by
  have isPrefix : Cursor.nameChars cs <+: cs := by
    cases cs with
    | nil => exact List.prefix_refl []
    | cons c cs =>
      rw [Cursor.nameChars]
      split
      · rw [List.cons_prefix_cons]
        exact ⟨rfl, List.takeWhile_prefix _⟩
      · exact List.nil_prefix
  have all : ∀ x ∈ Cursor.nameChars cs, continuesName x = true := by
    intro x hx
    cases cs with
    | nil => cases hx
    | cons c cs =>
      rw [Cursor.nameChars] at hx
      split at hx
      · next starts =>
        rcases List.mem_cons.1 hx with rfl | hx
        · rw [continuesName, starts]
          rfl
        · exact List.all_eq_true.1 List.all_takeWhile x hx
      · cases hx
  refine ⟨(Cursor.nameChars cs).dropLast, (Cursor.nameChars cs).getLast nonempty,
    all _ (List.getLast_mem nonempty), ?_⟩
  rw [List.append_cons, List.dropLast_concat_getLast]
  exact (List.prefix_iff_eq_append.1 isPrefix).symm

theorem meets_stop {α : Type} {Q : α → Prop} (f : Flaw) :
    Meets (Misread cs) (stop location f : Reading α) Q := meets_throw trivial

/-- What is left behind a bracket is a part of what was left before it. -/
theorem meets_readBracket (c : Cursor) (within : c.rest <:+ cs) :
    Meets (Misread cs) (readBracket location text c) fun c' => c'.rest <:+ cs := by
  rw [readBracket]
  split
  · exact meets_pure ((List.drop_suffix _ _).trans within)
  · exact meets_stop _

/-- Digits are refused only if they make no number. -/
theorem meets_readPosition {digits : List Char} (odd : Text.NoNumber digits → Text.OddIndex cs) :
    Meets (Misread cs) (readPosition digits) fun _ => True := by
  rw [readPosition]
  split
  · split
    · exact meets_pure trivial
    · exact meets_throw (odd (.inr (by omega)))
  · next none => exact meets_throw (odd (.inl none))

/-- **Paths are read inside the text**: a refusal for an index comes of an index of the text, and what is
left is the end of the text. -/
theorem meets_readAt (budget : Nat) (c : Cursor) (within : c.rest <:+ cs) :
    Meets (Misread cs) (readAt location text budget c) fun found => found.2.rest <:+ cs := by
  induction budget generalizing c with
  | zero => exact meets_stop _
  | succ budget ih =>
    have skipped {c : Cursor} (n : Nat) (within : c.rest <:+ cs) : (c.skip n).rest <:+ cs :=
      (List.drop_suffix _ _).trans within
    have selected {pick : Pick} {c : Cursor} (within : c.rest <:+ cs) :
        Meets (Misread cs) (pure (pick, c)) fun found => found.2.rest <:+ cs := meets_pure within
    -- what follows a name and its selection: a field, or nothing more of the path
    have field {c : Cursor} (whole : Path → Path) (within : c.rest <:+ cs) :
        Meets (Misread cs) (readAt location text budget (c.skip 1) >>= fun found =>
          pure (whole found.1, found.2)) fun found => found.2.rest <:+ cs :=
      (ih _ (skipped 1 within)).bind fun _ behind => meets_pure behind
    rw [readAt]
    split
    · exact meets_stop _
    · next nonempty =>
      refine (meets_intern _).bind fun x _ => ?_
      have behind := skipped (Cursor.nameChars c.rest).length within
      dsimp only
      split
      · next rest hrest =>
        split
        · refine (ih _ (skipped 1 behind)).bind fun found within => ?_
          refine (meets_readBracket _ within).bind fun c within => ?_
          refine (selected within).bind fun picked within => ?_
          split
          · exact field (.dot x picked.1) within
          · exact meets_pure within
        · have odd (noNumber : Text.NoNumber (rest.takeWhile Text.isDigit)) : Text.OddIndex cs := by
            obtain ⟨before, last, hlast, text_eq⟩ := exists_of_nameChars nonempty
            rw [show c.rest.drop _ = '[' :: rest from hrest] at text_eq
            exact Text.oddIndex_of_isInfix ⟨before, last, rest, text_eq, hlast, noNumber⟩ within.isInfix
          refine (meets_readPosition odd).bind fun n _ => ?_
          refine (meets_readBracket _ (skipped _ behind)).bind fun c within => ?_
          refine (selected within).bind fun picked within => ?_
          split
          · exact field (.dot x picked.1) within
          · exact meets_pure within
      · refine (selected behind).bind fun picked within => ?_
        split
        · exact field (.dot x picked.1) within
        · exact meets_pure within

theorem meets_read (location : String) (text : List Char) :
    Meets (Misread text) (read location text) fun _ => True := by
  have inside := Text.strip_isInfix text
  have path : Meets (Misread text) (readAt location (String.ofList (Text.strip text))
      ((Text.strip text).length + 1) ⟨0, Text.strip text⟩) fun _ => True :=
    (meets_readAt _ _ (List.suffix_refl _)).imp (Misread.of_isInfix inside) fun _ _ => trivial
  refine path.bind fun ⟨path, c⟩ _ => ?_
  dsimp only
  split
  · exact meets_pure trivial
  · exact meets_stop _

end Path

/-! ### Interpolated texts -/

namespace Piece

variable {p : List Char} {rest : List Piece}

theorem hole_mem_literalOf {lit : List Char} (h : hole p ∈ literalOf lit rest) : hole p ∈ rest := by
  rw [literalOf] at h
  split at h
  · exact h
  · simpa using h

mutual

/-- The paths that are cut out of a text stand in the text. -/
theorem isInfix_of_outside (lit cs : List Char) (h : hole p ∈ outside lit cs) : p <:+: cs := by
  rw [outside.eq_def] at h
  split at h
  · cases hole_mem_literalOf h
  · next rest =>
    have found := isInfix_of_outside _ rest h
    exact found.trans (List.suffix_append ['$', '$'] rest).isInfix
  · next rest =>
    have found := isInfix_of_inside lit [] rest h
    exact found.trans (List.suffix_append ['$', '\x7b'] rest).isInfix
  · next c rest _ _ =>
    have found := isInfix_of_outside _ rest h
    exact found.trans (List.suffix_cons c rest).isInfix
termination_by cs.length

/-- Inside an opening the path goes on with what was read of it. -/
theorem isInfix_of_inside (lit path cs : List Char) (h : hole p ∈ inside lit path cs) :
    p <:+: path.reverse ++ cs := by
  rw [inside.eq_def] at h
  split at h
  · simp at h
  · next c rest =>
    split at h
    · rcases List.mem_cons.1 (hole_mem_literalOf h) with same | h
      · obtain rfl := hole.inj same
        exact (List.prefix_append _ _).isInfix
      · have found := isInfix_of_outside [] rest h
        rw [List.append_cons]
        exact found.trans (List.suffix_append (path.reverse ++ [c]) rest).isInfix
    · have found := isInfix_of_inside lit (c :: path) rest h
      simpa using found
termination_by cs.length

end

end Piece

/-- An interpolation is refused for an index of the text that it is read from. -/
theorem Interpolation.meets_read (location text : String) :
    Meets (Misread text.toList) (read location text) fun _ => True := by
  have pieces_meet (ps : List Piece) (within : ∀ p, Piece.hole p ∈ ps → p <:+: text.toList) :
      Meets (Misread text.toList) (readPieces location text ps) fun _ => True := by
    induction ps with
    | nil => exact meets_pure trivial
    | cons piece rest ih =>
      have others := ih fun p hp => within p (List.mem_cons_of_mem piece hp)
      cases piece with
      | literal chars => exact others.bind fun _ _ => meets_pure trivial
      | hole chars =>
        have path := (Path.meets_read location chars).imp
          (Misread.of_isInfix (within chars List.mem_cons_self)) fun _ _ => trivial
        exact path.bind fun _ _ => others.bind fun _ _ => meets_pure trivial
      | unclosed => exact Path.meets_stop _
  exact pieces_meet _ fun p hp => Piece.isInfix_of_outside [] _ hp

end Sweep
