import Sweep.Child.Start
import Sweep.Proofs.Decoding

/-!
# What a stream shows

A stream is shown line by line on the status line of its child.  Which line that is at some moment depends
on the bytes that were read until then, and not on where they were cut.

* `cut_snoc`, `lastPiece_of_cut` — one more character of a text in its pieces;
* `Tracked` — what a tracker knows of the bytes that it has read; `Tracked.feed` is the step, `tracked_track`
  the induction;
* `messages` — what a stream says on the status line, and `showStream_eq` — showing a stream says just this;
* `flatten_piecesOf` — the pieces in which a stream is read have the bytes of its chunks;
* `last_line_of_chunks` — the line after every chunk, after the end, and the last message;
* `surrogate_waits` — more than the beginnings of characters is held back.
-/

namespace Sweep

open Text (Bytes LineTracker Decoded Parted Waiting Incomplete)

namespace Text

variable {t : LineTracker} {bytes : Bytes} {text : List Char} {c : Char}

/-! ### Pieces of a text -/

/-- The line to show for a text. -/
def lastLine (text : List Char) : String := String.ofList (lastPiece text)

theorem cut_of_not_isBreak {x : Char} {xs piece : List Char} {rest : List (List Char)}
    (h : LineTracker.isBreak x ≠ true) (cut : cutAtBreaks xs = piece :: rest) :
    cutAtBreaks (x :: xs) = (x :: piece) :: rest := by
  rw [cutAtBreaks, if_neg h, cut]

/-- One more character goes to the last piece, or opens a new one behind it. -/
theorem cut_snoc (cs : List Char) : ∃ front last, cutAtBreaks cs = front ++ [last] ∧
    ∀ c, cutAtBreaks (cs ++ [c]) =
      if LineTracker.isBreak c then front ++ [last] ++ [[]] else front ++ [last ++ [c]] := by
  induction cs with
  | nil =>
    refine ⟨[], [], rfl, fun c => ?_⟩
    rw [List.nil_append, cutAtBreaks]
    rfl
  | cons x xs ih =>
    obtain ⟨front, last, cut, snoc⟩ := ih
    by_cases isBreak : LineTracker.isBreak x = true
    · refine ⟨[] :: front, last, ?_, fun c => ?_⟩
      · rw [cutAtBreaks, if_pos isBreak, cut]
        rfl
      · rw [List.cons_append, cutAtBreaks, if_pos isBreak, snoc]
        split <;> rfl
    · -- a character that is no break goes to the first piece, which may be the last one
      cases front with
      | nil =>
        refine ⟨[], x :: last, cut_of_not_isBreak isBreak cut, fun c => ?_⟩
        by_cases hc : LineTracker.isBreak c = true
        · rw [if_pos hc]
          exact cut_of_not_isBreak isBreak ((snoc c).trans (if_pos hc))
        · rw [if_neg hc]
          exact cut_of_not_isBreak isBreak ((snoc c).trans (if_neg hc))
      | cons first front =>
        refine ⟨(x :: first) :: front, last, cut_of_not_isBreak isBreak cut, fun c => ?_⟩
        by_cases hc : LineTracker.isBreak c = true
        · rw [if_pos hc]
          exact cut_of_not_isBreak isBreak ((snoc c).trans (if_pos hc))
        · rw [if_neg hc]
          exact cut_of_not_isBreak isBreak ((snoc c).trans (if_neg hc))

theorem lastPiece_of_cut {front : List (List Char)} {last : List Char} (nonempty : last ≠ [])
    (cut : cutAtBreaks text = front ++ [last]) : lastPiece text = last := by
  rw [lastPiece, cut, List.filter_append, List.filter_cons_of_pos (by simpa using nonempty)]
  simp

theorem lastPiece_of_open {front : List (List Char)} (cut : cutAtBreaks text = front ++ [[]]) :
    lastPiece text = (front.filter (· ≠ [])).getLast?.getD [] := by
  rw [lastPiece, cut, List.filter_append]
  simp

/-! ### The tracker -/

namespace LineTracker

/-- A tracker shows the last piece of a text, and knows whether the text goes on with it. -/
structure Shows (t : LineTracker) (text : List Char) : Prop where
  line : t.newestFirst.reverse = lastPiece text
  last : ∃ front, cutAtBreaks text = front ++ [if t.ended then [] else t.newestFirst.reverse]

theorem Shows.push (h : t.Shows text) (c : Char) : (t.push c).Shows (text ++ [c]) := by
  obtain ⟨line, front, cut⟩ := h
  obtain ⟨front', last, cut', snoc⟩ := cut_snoc text
  obtain ⟨rfl, last_eq⟩ := List.append_inj' (cut'.symm.trans cut) rfl
  obtain rfl := (List.cons.inj last_eq).1
  rw [LineTracker.push]
  by_cases isBreak : isBreak c = true
  · rw [if_pos isBreak]
    have cut_c := (snoc c).trans (if_pos isBreak)
    refine ⟨?_, _, cut_c⟩
    rw [lastPiece_of_open cut_c, ← cut, ← lastPiece, line]
  · have cut_c := (snoc c).trans (if_neg isBreak)
    rw [if_neg isBreak]
    split
    · next ended =>
      rw [if_pos ended] at cut_c
      exact ⟨(lastPiece_of_cut (by simp) cut_c).symm, _, cut_c⟩
    · next open_ =>
      rw [if_neg open_, ← List.reverse_cons] at cut_c
      refine ⟨(lastPiece_of_cut (by simp) cut_c).symm, front', ?_⟩
      rw [if_neg open_]
      exact cut_c

theorem Shows.foldl_push (h : t.Shows text) (more : List Char) :
    (more.foldl LineTracker.push t).Shows (text ++ more) := by
  induction more generalizing t text with
  | nil => rwa [List.append_nil]
  | cons c more ih =>
    rw [List.append_cons]
    exact ih (h.push c)

theorem decoder_push (t : LineTracker) (c : Char) : (t.push c).decoder = t.decoder := by
  rw [LineTracker.push]
  split_ifs <;> rfl

theorem decoder_foldl_push (t : LineTracker) (cs : List Char) :
    (cs.foldl LineTracker.push t).decoder = t.decoder := by
  induction cs generalizing t with
  | nil => rfl
  | cons c cs ih => exact (ih _).trans (t.decoder_push c)

theorem newestFirst_ne_nil (h : t.newestFirst ≠ []) (cs : List Char) :
    (cs.foldl LineTracker.push t).newestFirst ≠ [] := by
  induction cs generalizing t with
  | nil => exact h
  | cons c cs ih =>
    refine ih ?_
    rw [LineTracker.push]
    split_ifs
    · exact h
    · exact List.cons_ne_nil _ _
    · exact List.cons_ne_nil _ _

/-- A tracker has read bytes: it knows what the decoder makes of them, and shows the text so far. -/
structure Tracked (t : LineTracker) (bytes : Bytes) : Prop
    extends t.Shows (Utf8.decode .ready bytes).1 where
  decoder : t.decoder = (Utf8.decode .ready bytes).2

theorem tracked_new : Tracked {} [] where
  line := rfl
  last := ⟨[], rfl⟩
  decoder := rfl

theorem Tracked.feed (h : t.Tracked bytes) (more : Bytes) : (t.feed more).Tracked (bytes ++ more) := by
  have shows_ : Shows { t with decoder := (t.decoder.decode more).2 } _ := ⟨h.line, h.last⟩
  refine ⟨?_, ?_⟩
  · rw [Utf8.decode_append, ← h.decoder]
    exact shows_.foldl_push _
  · rw [Utf8.decode_append, ← h.decoder]
    exact decoder_foldl_push _ _

/-- The line after the end of the stream is that of the whole text. -/
theorem Tracked.close (h : t.Tracked bytes) : t.close.line = lastLine (wholeText .ready bytes) := by
  have shows_ : Shows { t with decoder := .ready } _ := ⟨h.line, h.last⟩
  have whole := (shows_.foldl_push t.decoder.flush).line
  rw [h.decoder, ← wholeText] at whole
  rw [lastLine, ← whole, ← h.decoder]
  rfl

/-- The tracker after some chunks. -/
def track (chunks : List Bytes) : LineTracker := chunks.foldl feed {}

theorem tracked_foldl_feed (h : t.Tracked bytes) (chunks : List Bytes) :
    (chunks.foldl feed t).Tracked (bytes ++ chunks.flatten) := by
  induction chunks generalizing t bytes with
  | nil => rwa [List.flatten_nil, List.append_nil]
  | cons chunk rest ih =>
    rw [List.flatten_cons, ← List.append_assoc]
    exact ih (h.feed chunk)

theorem tracked_track (chunks : List Bytes) : (track chunks).Tracked chunks.flatten :=
  tracked_foldl_feed tracked_new chunks

end LineTracker

end Text

/-! ### Messages -/

/-- What a stream says on the status line, from what is known of it on. -/
def messages (t : LineTracker) : List Chunk → List String
  | [] => if t.close.line = "" then [] else [t.close.line]
  | .fault e :: _ => ["Error: " ++ e.message]
  | .data bytes :: rest => (t.feed bytes).line :: messages (t.feed bytes) rest

/-- Say messages on the line of a child, one after the other. -/
def World.tell (i : Nat) (said : List String) (w : World) : World :=
  said.foldl (fun w message => w.modifyLine i (·.say message)) w

theorem World.showStream_eq (i : Nat) (t : LineTracker) (stream : List Chunk) (w : World) :
    showStream i t stream w = w.tell i (messages t stream) := by
  induction stream generalizing t w with
  | nil =>
    rw [showStream, messages]
    by_cases empty : t.close.line = ""
    · rw [if_pos empty, empty]
      rfl
    · have isEmpty : ¬ t.close.line.isEmpty = true := by
        rwa [String.isEmpty_iff]
      rw [if_neg empty]
      exact if_neg isEmpty
  | cons chunk rest ih =>
    cases chunk with
    | fault e => rfl
    | data bytes => exact ih _ _

theorem Text.LineTracker.line_of_close {t : LineTracker} (h : t.close.line = "") : t.line = "" := by
  have nothing {cs : List Char} (empty : String.ofList cs.reverse = "") : cs = [] := by
    have chars := congrArg String.toList empty
    rw [String.toList_ofList] at chars
    exact List.reverse_eq_nil_iff.1 chars
  by_cases shown : t.newestFirst = []
  · rw [LineTracker.line, shown]
    rfl
  · exact absurd (nothing h) (LineTracker.newestFirst_ne_nil (t := { t with decoder := .ready }) shown _)

/-- The last message is the line after the end of the stream, unless nothing was read. -/
theorem getLast?_messages (t : LineTracker) (pieces : List Bytes) :
    (messages t (pieces.map .data)).getLast? =
      if pieces = [] ∧ (pieces.foldl LineTracker.feed t).close.line = "" then none
      else some (pieces.foldl LineTracker.feed t).close.line := by
  induction pieces generalizing t with
  | nil =>
    rw [List.map_nil, messages, List.foldl_nil]
    by_cases empty : t.close.line = "" <;> simp [empty]
  | cons piece rest ih =>
    have some_read : ¬ (piece :: rest = [] ∧
        (rest.foldl LineTracker.feed (t.feed piece)).close.line = "") := fun h => nomatch h.1
    rw [List.map_cons, messages, List.foldl_cons, List.getLast?_cons, ih, if_neg some_read]
    split
    · next nothing =>
      obtain ⟨rfl, empty⟩ := nothing
      rw [List.foldl_nil] at empty ⊢
      rw [empty, Option.getD_none, LineTracker.line_of_close empty]
    · rfl

theorem last_message (pieces : List Bytes) : (messages {} (pieces.map .data)).getLast? =
    if pieces = [] then none else some (LineTracker.track pieces).close.line := by
  rw [getLast?_messages]
  by_cases nothing : pieces = []
  · rw [if_pos nothing, if_pos ⟨nothing, by rw [nothing]; rfl⟩]
  · rw [if_neg nothing, if_neg fun h => nothing h.1]
    rfl

/-! ### What is read of a stream -/

theorem flatten_cutPieces (budget : Nat) (bytes : Bytes) (h : bytes.length ≤ budget) :
    (cutPieces budget bytes).flatten = bytes := by
  induction budget generalizing bytes with
  | zero => rw [List.length_eq_zero_iff.1 (Nat.le_zero.1 h)]; rfl
  | succ budget ih =>
    cases bytes with
    | nil => rfl
    | cons b bs =>
      have shorter : ((b :: bs).drop pieceSize).length ≤ budget := by
        rw [List.length_drop, pieceSize]
        omega
      show ((b :: bs).take pieceSize :: cutPieces budget ((b :: bs).drop pieceSize)).flatten = _
      rw [List.flatten_cons, ih _ shorter, List.take_append_drop]

/-- The pieces in which bytes are read. -/
def piecesOf (chunks : List Bytes) : List Bytes := chunks.flatMap fun bytes => cutPieces bytes.length bytes

theorem flatten_piecesOf (chunks : List Bytes) : (piecesOf chunks).flatten = chunks.flatten := by
  induction chunks with
  | nil => rfl
  | cons bytes rest ih =>
    rw [piecesOf, List.flatMap_cons, List.flatten_append, flatten_cutPieces _ _ (Nat.le_refl _),
      ← piecesOf, ih, List.flatten_cons]

theorem reads_data (chunks : List Bytes) : reads (chunks.map .data) = (piecesOf chunks).map .data := by
  rw [reads, piecesOf, List.flatMap_map, List.map_flatMap]

/-- Nothing is read of a stream without bytes. -/
theorem piecesOf_eq_nil {chunks : List Bytes} : piecesOf chunks = [] ↔ chunks.flatten = [] := by
  constructor
  · intro nothing
    rw [← flatten_piecesOf, nothing]
    rfl
  · intro nothing
    rw [piecesOf, List.flatMap_eq_nil_iff]
    intro bytes h
    rw [List.flatten_eq_nil_iff.1 nothing bytes h]
    rfl

/-! ### Lines and messages -/

open Text.LineTracker (track tracked_track)

/-- **What is shown of a stream is a matter of its bytes alone.**  After the end it is the last line of the
text that all bytes hold, and this is the last message too, whatever the sizes of the reads; after some
chunks it is the last line of the text of what does not wait. -/
theorem last_line_of_chunks (chunks : List Bytes) :
    (∃ text, (∀ other, Decoded chunks.flatten other ↔ other = text) ∧
      (track chunks).close.line = Text.lastLine text ∧
      (messages {} (chunks.map .data)).getLast? =
        (if chunks = [] then none else some (Text.lastLine text)) ∧
      (messages {} (reads (chunks.map .data))).getLast? =
        (if chunks.flatten = [] then none else some (Text.lastLine text))) ∧
    (∀ k, ∃ decided held text,
      (∀ d h, Parted Waiting (chunks.take k).flatten d h ↔ d = decided ∧ h = held) ∧
      (∀ other, Decoded decided other ↔ other = text) ∧
      (track (chunks.take k)).line = Text.lastLine text) ∧
    ∀ (w : World) i channel, w.route i channel (chunks.map .data) .print =
      (true, w.tell i (messages {} (reads (chunks.map .data)))) := by
  refine ⟨⟨_, fun _ => Text.decoded_iff, ?_, ?_, ?_⟩, fun k => ?_, fun w i channel => ?_⟩
  · exact (tracked_track chunks).close
  · rw [last_message, (tracked_track chunks).close]
  · rw [reads_data, last_message, (tracked_track _).close, flatten_piecesOf]
    by_cases nothing : chunks.flatten = []
    · rw [if_pos nothing, if_pos (piecesOf_eq_nil.2 nothing)]
    · rw [if_neg nothing, if_neg (mt piecesOf_eq_nil.1 nothing)]
  · obtain ⟨decided, held, parted⟩ := Text.exists_parted (chunks.take k).flatten
    have decoded := Text.decode_of_parted parted
    refine ⟨decided, held, _, fun d h => ⟨fun other => other.unique parted, ?_⟩,
      fun other => ⟨fun h => h.unique decoded, fun h => h ▸ decoded⟩, ?_⟩
    · rintro ⟨rfl, rfl⟩
      exact parted
    · exact congrArg String.ofList (tracked_track (chunks.take k)).line
  · rw [World.route, World.showStream_eq]

example : (track [[0x61, 0x0A, 0xE2], [0x82], [0xAC, 0x0D]]).line = "€" := by decide

/-- The first two bytes of a surrogate wait, although they are no beginning of a character. -/
theorem surrogate_waits : ¬ ∃ decided held text, Parted Incomplete [0xED, 0xA0] decided held ∧
    Decoded decided text ∧ (track [[0xED, 0xA0]]).line = Text.lastLine text := by
  rintro ⟨decided, held, text, ⟨split, held_or, -⟩, decoded, line⟩
  rcases held_or with rfl | incomplete
  · rw [List.append_nil] at split
    rw [← split, Text.decoded_iff] at decoded
    rw [decoded] at line
    revert line
    decide
  · obtain ⟨_, _, _, _, decode, -⟩ := Text.decode_of_incomplete incomplete
    match decided, split with
    | [], split =>
      obtain rfl : [0xED, 0xA0] = held := split
      cases decode
    | [_], split =>
      obtain rfl := (List.cons.inj split).2
      cases decode
    | [_, _], split =>
      obtain rfl := (List.cons.inj (List.cons.inj split).2).2
      exact incomplete.1 rfl

end Sweep
