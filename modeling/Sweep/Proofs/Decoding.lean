import Sweep.Text.Utf8
import Mathlib.Algebra.Group.Nat.Defs
import Mathlib.Data.List.Induction
import Mathlib.Tactic.ByContra
import Mathlib.Tactic.SplitIfs

/-!
# Texts in bytes

Which text bytes hold is told here without a machine.  From the left, bytes that encode a character are
that character; anything else is an invalid part, which is as long as a character could still come of it,
and counts as one replacement.

* `encode_eq` — the bytes of a character as one first byte and some last ones;
* `Incomplete`, `Invalid`, `Decoded` — the rules, and `Decoded.unique` — bytes hold one text only;
* `Begun` — what the decoder knows inside a character: the characters that can still come, and their
  missing bytes; `opens_start`, `Begun.accepts`, `Begun.refuses` say what a byte makes of it;
* `wholeText`, `decoded_iff` — at the end of the stream the decoder has given the text of all bytes;
* `Waiting`, `Parted` — what waits at the end of some bytes, and what stands in front of it;
* `decode_of_parted` — before the end of the stream the decoder has given the text of what does not wait.

Besides incomplete characters the first two bytes of a surrogate wait, although no character can come of
them.
-/

namespace Sweep.Text

open String (utf8EncodeChar)

variable {bytes part rest held decided : Bytes} {text : List Char} {c d : Char} {b : UInt8}

/-! ### The bytes of a character -/

/-- How many bytes follow the first byte of a code point. -/
def extraBytes (n : Nat) : Nat :=
  if n ≤ 0x7F then 0 else if n ≤ 0x7FF then 1 else if n ≤ 0xFFFF then 2 else 3

/-- The first byte of a code point. -/
def leadByte (n : Nat) : Nat :=
  if n ≤ 0x7F then n
  else if n ≤ 0x7FF then 0xC0 + n / 64
  else if n ≤ 0xFFFF then 0xE0 + n / 4096
  else 0xF0 + n / 262144

/-- The byte of a code point in front of its last ones; each of these has six bits. -/
def nextByte (count n : Nat) : Nat := 0x80 + n / 64 ^ count % 64

/-- The last bytes of a code point. -/
def tailBytes : (count n : Nat) → Bytes
  | 0, _ => []
  | count + 1, n => UInt8.ofNat (nextByte count n) :: tailBytes count n

theorem tailBytes_succ (count n : Nat) :
    tailBytes (count + 1) n = UInt8.ofNat (nextByte count n) :: tailBytes count n := rfl

theorem length_tailBytes (count n : Nat) : (tailBytes count n).length = count := by
  induction count with
  | zero => rfl
  | succ count ih => rw [tailBytes_succ, List.length_cons, ih]

theorem nextByte_range (count n : Nat) : 0x80 ≤ nextByte count n ∧ nextByte count n ≤ 0xBF := by
  rw [nextByte]
  omega

theorem toNat_ofNat_nextByte (count n : Nat) :
    (UInt8.ofNat (nextByte count n)).toNat = nextByte count n := by
  have range := nextByte_range count n
  rw [UInt8.toNat_ofNat', Nat.mod_eq_of_lt (by omega)]

theorem lt_of_mem_tailBytes {count n : Nat} (h : b ∈ tailBytes count n) : b.toNat < 0xC0 := by
  induction count with
  | zero => cases h
  | succ count ih =>
    rcases List.mem_cons.1 h with rfl | h
    · have range := nextByte_range count n
      rw [toNat_ofNat_nextByte]
      omega
    · exact ih h

theorem Char.toNat_lt (c : Char) : c.toNat < 0x110000 := by
  have valid : c.toNat.isValidChar := c.valid
  rw [Nat.isValidChar] at valid
  omega

theorem Char.toNat_ofNat {n : Nat} (h : n.isValidChar) : (Char.ofNat n).toNat = n := by
  rw [Char.ofNat, dif_pos h]
  rfl

theorem toNat_ofNat_leadByte (c : Char) :
    (UInt8.ofNat (leadByte c.toNat)).toNat = leadByte c.toNat := by
  have bound := Char.toNat_lt c
  refine (UInt8.toNat_ofNat' ..).trans (Nat.mod_eq_of_lt ?_)
  rw [leadByte]
  split_ifs <;> omega

/-- **The bytes of a character**: a first byte, and last bytes with six bits each. -/
theorem encode_eq (c : Char) :
    utf8EncodeChar c = UInt8.ofNat (leadByte c.toNat) :: tailBytes (extraBytes c.toNat) c.toNat := by
  have bound := Char.toNat_lt c
  rw [Char.toNat] at bound ⊢
  generalize code : c.val.toNat = n at bound
  simp only [utf8EncodeChar, code, leadByte, extraBytes]
  split_ifs
  · rfl
  · rw [show n / 64 % 32 + 192 = 0xC0 + n / 64 by omega, Nat.add_comm (n % 64)]
    simp only [tailBytes, nextByte, Nat.pow_zero, Nat.div_one]
  · rw [show n / 4096 % 16 + 224 = 0xE0 + n / 4096 by omega, Nat.add_comm (n / 64 % 64),
      Nat.add_comm (n % 64)]
    simp only [tailBytes, nextByte, Nat.pow_zero, Nat.div_one, Nat.pow_one]
  · rw [show n / 262144 % 8 + 240 = 0xF0 + n / 262144 by omega, Nat.add_comm (n / 4096 % 64),
      Nat.add_comm (n / 64 % 64), Nat.add_comm (n % 64)]
    simp only [tailBytes, nextByte, Nat.pow_zero, Nat.div_one, Nat.pow_one, Nat.reducePow]

theorem encode_ne_nil (c : Char) : utf8EncodeChar c ≠ [] := by
  rw [encode_eq]
  exact List.cons_ne_nil _ _

/-- Bytes start with one character at most. -/
theorem eq_of_encode_isPrefix (hc : utf8EncodeChar c <+: bytes) (hd : utf8EncodeChar d <+: bytes) :
    c = d := by
  obtain ⟨x, rfl⟩ := hc
  obtain ⟨y, h⟩ := hd
  have first := @ByteArray.utf8DecodeChar?_utf8EncodeChar_append x.toByteArray c
  rw [← List.toByteArray_append, ← h, List.toByteArray_append,
    ByteArray.utf8DecodeChar?_utf8EncodeChar_append] at first
  exact (Option.some.inj first).symm

theorem leadByte_of_isPrefix (h : [b] <+: utf8EncodeChar c) : leadByte c.toNat = b.toNat := by
  rw [encode_eq, List.cons_prefix_cons] at h
  rw [h.1, toNat_ofNat_leadByte]

/-! ### The text of bytes -/

/-- The beginning of a character, and not all of it. -/
def Incomplete (part : Bytes) : Prop :=
  part ≠ [] ∧ ∃ c, part <+: utf8EncodeChar c ∧ part ≠ utf8EncodeChar c

/-- A part at the front of bytes is invalid: no character starts there, and the part ends where no
character can come of it any more. -/
structure Invalid (part rest : Bytes) : Prop where
  none : ∀ c, ¬ utf8EncodeChar c <+: part ++ rest
  single_or : part.length = 1 ∨ Incomplete part
  longest : ∀ p, Incomplete p → p <+: part ++ rest → p.length ≤ part.length

/-- The text that bytes hold, with one replacement for each invalid part. -/
inductive Decoded : Bytes → List Char → Prop
  | nil : Decoded [] []
  | char (c : Char) {rest : Bytes} {text : List Char} (behind : Decoded rest text) :
      Decoded (utf8EncodeChar c ++ rest) (c :: text)
  | invalid {part rest : Bytes} {text : List Char} (h : Invalid part rest)
      (behind : Decoded rest text) : Decoded (part ++ rest) (replacement :: text)

theorem Invalid.length_pos (h : Invalid part rest) : 0 < part.length := by
  rcases h.single_or with one | incomplete
  · omega
  · exact List.length_pos_iff.2 incomplete.1

theorem Invalid.ne_nil (h : Invalid part rest) : part ++ rest ≠ [] := by
  have pos := h.length_pos
  rw [← List.length_pos_iff, List.length_append]
  omega

theorem Invalid.length_le (h : Invalid part rest) {p r : Bytes} (h' : Invalid p r)
    (same : p ++ r = part ++ rest) : p.length ≤ part.length := by
  rcases h'.single_or with one | incomplete
  · have pos := h.length_pos
    omega
  · exact h.longest p incomplete (same ▸ List.prefix_append p r)

/-- Bytes hold one text only. -/
theorem Decoded.unique (h : Decoded bytes text) {other : List Char} (h' : Decoded bytes other) :
    text = other := by
  induction h generalizing other with
  | nil =>
    generalize same : ([] : Bytes) = bytes at h'
    cases h' with
    | nil => rfl
    | char c => exact absurd (List.append_eq_nil_iff.1 same.symm).1 (encode_ne_nil c)
    | invalid h => exact absurd same.symm h.ne_nil
  | @char c rest text behind ih =>
    generalize same : utf8EncodeChar c ++ rest = bytes at h'
    cases h' with
    | nil => exact absurd (List.append_eq_nil_iff.1 same).1 (encode_ne_nil c)
    | @char d _ _ other =>
      obtain rfl := eq_of_encode_isPrefix (List.prefix_append _ rest) (same.symm ▸ List.prefix_append _ _)
      rw [ih (List.append_cancel_left same ▸ other)]
    | invalid h => exact absurd (same ▸ List.prefix_append _ _) (h.none c)
  | @invalid part rest text invalid behind ih =>
    generalize same : part ++ rest = bytes at h'
    cases h' with
    | nil => exact absurd same invalid.ne_nil
    | char d => exact absurd (same ▸ List.prefix_append _ _) (invalid.none d)
    | invalid h other =>
      have length := Nat.le_antisymm (h.length_le invalid same) (invalid.length_le h same.symm)
      obtain ⟨rfl, rfl⟩ := List.append_inj same length
      rw [ih other]

/-- A part that cannot go on is invalid. -/
theorem invalid_of_stuck (single_or : part.length = 1 ∨ Incomplete part)
    (none : ∀ c, ¬ utf8EncodeChar c <+: part)
    (stuck : ∀ b bs, rest = b :: bs → ∀ c, ¬ part ++ [b] <+: utf8EncodeChar c) :
    Invalid part rest := by
  cases rest with
  | nil => exact ⟨by simpa using none, single_or, fun p _ hp => by simpa using hp.length_le⟩
  | cons b bs =>
    have stuck := stuck b bs rfl
    have next : part ++ [b] <+: part ++ b :: bs := ⟨bs, by simp⟩
    refine ⟨fun c hc => ?_, single_or, fun p ⟨_, c, hc, _⟩ hp => ?_⟩
    · rcases List.prefix_or_prefix_of_prefix hc next with shorter | longer
      · rcases List.prefix_concat_iff.1 shorter with same | inside
        · exact stuck c (same ▸ List.prefix_refl _)
        · exact none c inside
      · exact stuck c longer
    · refine Nat.le_of_not_lt fun longer => ?_
      have within : part ++ [b] <+: p := by
        refine List.prefix_of_prefix_length_le next hp ?_
        rw [List.length_append, List.length_singleton]
        omega
      exact stuck c (within.trans hc)

/-! ### Inside a character -/

/-- The code point can still come: it has the bits so far, and its next byte lies in the range. -/
def Possible (more bits low high n : Nat) : Prop :=
  n / 64 ^ (more + 1) = bits ∧ low ≤ nextByte more n ∧ nextByte more n ≤ high

/-- What the decoder knows when it has read the first bytes of a character and one more is missing than a
number: which characters can still come, and that the missing bytes are their last ones. -/
structure Begun (more bits low high : Nat) (held : Bytes) : Prop where
  nonempty : held ≠ []
  range : 0x80 ≤ low ∧ low ≤ high ∧ high ≤ 0xBF
  surrogates : high = Utf8.belowSurrogates → held = [0xED]
  possible : ∀ c, held <+: utf8EncodeChar c → Possible more bits low high c.toNat
  valid : ∀ n, Possible more bits low high n → n.isValidChar
  encode : ∀ c : Char, Possible more bits low high c.toNat →
    utf8EncodeChar c = held ++ tailBytes (more + 1) c.toNat

theorem begun_of_lead {more bits low high : Nat} (range : 0x80 ≤ low ∧ low ≤ high ∧ high ≤ 0xBF)
    (surrogates : high = Utf8.belowSurrogates → b.toNat = 0xED)
    (possible : ∀ n, n.isValidChar → leadByte n = b.toNat → Possible more bits low high n)
    (lead : ∀ n, Possible more bits low high n →
      n.isValidChar ∧ leadByte n = b.toNat ∧ extraBytes n = more + 1) :
    Begun more bits low high [b] where
  nonempty := List.cons_ne_nil _ _
  range := range
  surrogates h := by
    rw [← UInt8.ofNat_toNat (x := b), surrogates h]
    rfl
  possible c h := possible _ c.valid (leadByte_of_isPrefix h)
  valid n h := (lead n h).1
  encode c h := by
    obtain ⟨-, first, extra⟩ := lead _ h
    rw [encode_eq, first, extra, UInt8.ofNat_toNat]
    rfl

/-- What becomes of the first byte of a character. -/
inductive Opens (b : UInt8) : List Char × Utf8 → Prop
  | whole (c : Char) (h : utf8EncodeChar c = [b]) : Opens b ([c], .ready)
  | nothing (h : ∀ c, ¬ [b] <+: utf8EncodeChar c) : Opens b ([replacement], .ready)
  | part {more bits low high : Nat} (h : Begun more bits low high [b]) :
      Opens b ([], .inside (more + 1) bits low high)

/-- The first bytes that there are. -/
theorem leadByte_range (c : Char) :
    leadByte c.toNat < 0x80 ∨ 0xC2 ≤ leadByte c.toNat ∧ leadByte c.toNat ≤ 0xF4 := by
  have bound := Char.toNat_lt c
  rw [leadByte]
  split_ifs <;> omega

theorem opens_start (b : UInt8) : Opens b (Utf8.start b.toNat) := by
  have surrogates : Utf8.belowSurrogates = 0x9F := rfl
  have nothing (above : 0x80 ≤ b.toNat) (other : b.toNat < 0xC2 ∨ 0xF4 < b.toNat) :
      Opens b ([replacement], .ready) := by
    refine .nothing fun c hc => ?_
    have range := leadByte_range c
    rw [leadByte_of_isPrefix hc] at range
    omega
  rw [Utf8.start]
  refine iteInduction (fun ascii => ?_) fun _ => ?_
  · have code : (Char.ofNat b.toNat).toNat = b.toNat := Char.toNat_ofNat (.inl (by omega))
    refine .whole _ ?_
    rw [encode_eq, code, leadByte, extraBytes, if_pos (by omega), if_pos (by omega), UInt8.ofNat_toNat]
    rfl
  refine iteInduction (fun _ => nothing (by omega) (by omega)) fun _ => ?_
  -- the seven ranges of first bytes differ in their numbers only
  iterate 7
    refine iteInduction (fun _ => ?_) fun _ => ?_
    · refine .part (begun_of_lead (by omega) (by omega) (fun n hn h => ?_) fun n h => ?_)
      · rw [Nat.isValidChar] at hn
        rw [leadByte] at h
        simp only [Possible, nextByte, Nat.reduceAdd, Nat.reducePow, Nat.div_one]
        split_ifs at h <;> omega
      · simp only [Possible, nextByte, Nat.reduceAdd, Nat.reducePow, Nat.div_one] at h
        rw [leadByte, extraBytes, Nat.isValidChar]
        split_ifs <;> omega
  exact nothing (by omega) (by omega)

namespace Begun

variable {more bits low high : Nat}

theorem exists_possible (h : Begun more bits low high held) :
    ∃ c : Char, Possible more bits low high c.toNat := by
  have range := h.range
  have possible : Possible more bits low high ((bits * 64 + (low - 0x80)) * 64 ^ more) := by
    have quotient : (bits * 64 + (low - 0x80)) * 64 ^ more / 64 ^ more = bits * 64 + (low - 0x80) :=
      Nat.mul_div_cancel _ (Nat.pow_pos (by decide))
    rw [Possible, nextByte, Nat.pow_succ, ← Nat.div_div_eq_div_mul, quotient]
    omega
  refine ⟨Char.ofNat ((bits * 64 + (low - 0x80)) * 64 ^ more), ?_⟩
  rw [Char.toNat_ofNat (h.valid _ possible)]
  exact possible

theorem not_prefix (h : Begun more bits low high held) : ¬ utf8EncodeChar c <+: held := by
  obtain ⟨d, possible⟩ := h.exists_possible
  have encode := h.encode d possible
  intro hc
  obtain rfl := eq_of_encode_isPrefix (hc.trans (encode ▸ List.prefix_append held _)) (List.prefix_refl _)
  have length := hc.length_le
  rw [encode, List.length_append, length_tailBytes] at length
  omega

theorem incomplete (h : Begun more bits low high held) : Incomplete held := by
  obtain ⟨c, possible⟩ := h.exists_possible
  refine ⟨h.nonempty, c, h.encode c possible ▸ List.prefix_append held _, fun same => ?_⟩
  exact h.not_prefix (c := c) (same ▸ List.prefix_refl held)

theorem next_of_prefix (h : Begun more bits low high held) (hc : held ++ [b] <+: utf8EncodeChar c) :
    Possible more bits low high c.toNat ∧ nextByte more c.toNat = b.toNat := by
  have possible := h.possible c ((List.prefix_append held [b]).trans hc)
  refine ⟨possible, ?_⟩
  rw [h.encode c possible, List.prefix_append_right_inj, tailBytes_succ, List.cons_prefix_cons] at hc
  rw [hc.1, toNat_ofNat_nextByte]

/-- A byte out of the range goes on with no character. -/
theorem refuses (h : Begun more bits low high held) (out : ¬ (low ≤ b.toNat ∧ b.toNat ≤ high)) :
    ¬ held ++ [b] <+: utf8EncodeChar c := by
  intro hc
  obtain ⟨possible, next⟩ := h.next_of_prefix hc
  exact out (next ▸ possible.2)

/-- The code points with some bits and a next byte have these and the bits of the byte. -/
theorem follows_iff (more bits n : Nat) {byte : Nat} (range : 0x80 ≤ byte ∧ byte ≤ 0xBF) :
    n / 64 ^ more = bits * 64 + (byte - 0x80) ↔ n / 64 ^ (more + 1) = bits ∧ nextByte more n = byte := by
  rw [nextByte, Nat.pow_succ, ← Nat.div_div_eq_div_mul]
  omega

/-- The last byte in the range completes a character. -/
theorem accepts_last (h : Begun 0 bits low high held) (within : low ≤ b.toNat ∧ b.toNat ≤ high) :
    utf8EncodeChar (Char.ofNat (bits * 64 + (b.toNat - 0x80))) = held ++ [b] := by
  have range := h.range
  have byte : 0x80 ≤ b.toNat ∧ b.toNat ≤ 0xBF := by omega
  obtain ⟨bits_eq, next⟩ := (follows_iff 0 bits (bits * 64 + (b.toNat - 0x80)) byte).1
    (by rw [Nat.pow_zero, Nat.div_one])
  have possible : Possible 0 bits low high (bits * 64 + (b.toNat - 0x80)) := by
    rw [Possible, next]
    exact ⟨bits_eq, within⟩
  have code := Char.toNat_ofNat (h.valid _ possible)
  rw [h.encode _ (by rwa [code]), code, tailBytes_succ, next, UInt8.ofNat_toNat]
  rfl

/-- Any other byte in the range goes on with the characters that have it next. -/
theorem accepts (h : Begun (more + 1) bits low high held) (within : low ≤ b.toNat ∧ b.toNat ≤ high) :
    Begun more (bits * 64 + (b.toNat - 0x80)) 0x80 0xBF (held ++ [b]) := by
  have range := h.range
  have possible_iff (n : Nat) : Possible more (bits * 64 + (b.toNat - 0x80)) 0x80 0xBF n ↔
      Possible (more + 1) bits low high n ∧ nextByte (more + 1) n = b.toNat := by
    rw [Possible, Possible, follows_iff (more + 1) bits n (by omega)]
    constructor
    · rintro ⟨⟨bits_eq, next⟩, -⟩
      exact ⟨⟨bits_eq, next ▸ within⟩, next⟩
    · rintro ⟨⟨bits_eq, -⟩, next⟩
      exact ⟨⟨bits_eq, next⟩, nextByte_range _ _⟩
  refine ⟨by simp, by omega, fun h => absurd h (by decide), fun c hc => ?_, fun n hn => ?_, fun c hc => ?_⟩
  · exact (possible_iff _).2 (h.next_of_prefix hc)
  · exact h.valid n ((possible_iff n).1 hn).1
  · obtain ⟨possible, next⟩ := (possible_iff _).1 hc
    rw [h.encode c possible, tailBytes_succ, next, UInt8.ofNat_toNat, List.append_cons]

end Begun

/-! ### At the end of the stream -/

/-- What the decoder gives for all bytes from a state on, the end of the stream included. -/
def wholeText (s : Utf8) (bytes : Bytes) : List Char := (s.decode bytes).1 ++ (s.decode bytes).2.flush

theorem wholeText_cons (s : Utf8) (b : UInt8) (bs : Bytes) :
    wholeText s (b :: bs) = (s.step b).1 ++ wholeText (s.step b).2 bs := by
  rw [wholeText, Utf8.decode, List.append_assoc]
  rfl

theorem wholeText_surrogate (bs : Bytes) :
    wholeText .surrogate bs = replacement :: replacement :: wholeText .ready bs := by
  cases bs with
  | nil => rfl
  | cons b bs => rw [wholeText_cons, wholeText_cons]; rfl

theorem step_within {more bits low high : Nat} (within : low ≤ b.toNat ∧ b.toNat ≤ high) :
    Utf8.step (.inside more bits low high) b =
      if more ≤ 1 then ([Char.ofNat (bits * 64 + (b.toNat - 0x80))], .ready)
      else ([], .inside (more - 1) (bits * 64 + (b.toNat - 0x80)) 0x80 0xBF) := if_pos within

theorem step_out {more bits low high : Nat} (out : ¬ (low ≤ b.toNat ∧ b.toNat ≤ high)) :
    Utf8.step (.inside more bits low high) b =
      if high = Utf8.belowSurrogates ∧ high < b.toNat ∧ b.toNat ≤ 0xBF then ([], .surrogate)
      else (replacement :: (Utf8.start b.toNat).1, (Utf8.start b.toNat).2) := if_neg out

/-- A byte that is refused is read again as a first byte. -/
theorem wholeText_refused {more bits low high : Nat} (out : ¬ (low ≤ b.toNat ∧ b.toNat ≤ high))
    (bs : Bytes) : wholeText (.inside more bits low high) (b :: bs) =
      replacement :: wholeText .ready (b :: bs) := by
  rw [wholeText_cons, wholeText_cons, step_out out]
  split_ifs with surrogate
  · have first : Utf8.start b.toNat = ([replacement], .ready) := by
      obtain ⟨same, above, below⟩ := surrogate
      rw [Utf8.belowSurrogates] at same
      rw [Utf8.start, if_neg (by omega), if_pos (by omega)]
    rw [wholeText_surrogate, Utf8.step, first]
    rfl
  · rfl

theorem decoded_from (bs : Bytes) : Decoded bs (wholeText .ready bs) ∧
    ∀ {more bits low high : Nat} {held : Bytes}, Begun more bits low high held →
      Decoded (held ++ bs) (wholeText (.inside (more + 1) bits low high) bs) := by
  induction bs with
  | nil =>
    refine ⟨.nil, fun h => .invalid (invalid_of_stuck (.inr h.incomplete) (fun _ => h.not_prefix) ?_) .nil⟩
    exact fun _ _ h => nomatch h
  | cons b bs ih =>
    have ready : Decoded (b :: bs) (wholeText .ready (b :: bs)) := by
      have opens := opens_start b
      rw [wholeText_cons, Utf8.step]
      generalize Utf8.start b.toNat = r at opens
      cases opens with
      | whole c h =>
        show Decoded ([b] ++ bs) _
        exact h ▸ Decoded.char c ih.1
      | nothing h =>
        show Decoded ([b] ++ bs) _
        refine .invalid (invalid_of_stuck (.inl rfl) (fun c hc => ?_) fun b' _ _ c hc => ?_) ih.1
        · rcases List.prefix_cons_iff.1 hc with empty | ⟨_, same, inside⟩
          · exact encode_ne_nil c empty
          · rw [List.prefix_nil.1 inside] at same
            exact h c (same ▸ List.prefix_refl [b])
        · exact h c ((List.prefix_append _ _).trans hc)
      | part h => exact ih.2 h
    refine ⟨ready, fun {more bits low high held} h => ?_⟩
    by_cases within : low ≤ b.toNat ∧ b.toNat ≤ high
    · rw [wholeText_cons, step_within within, List.append_cons]
      cases more with
      | zero => exact h.accepts_last within ▸ Decoded.char _ ih.1
      | succ more => exact ih.2 (h.accepts within)
    · rw [wholeText_refused within]
      refine .invalid (invalid_of_stuck (.inr h.incomplete) (fun _ => h.not_prefix) fun b' _ same _ => ?_) ready
      obtain ⟨rfl, -⟩ := List.cons.inj same
      exact h.refuses within

/-- **At the end of the stream the decoder has given the text of all bytes.** -/
theorem decoded_iff : Decoded bytes text ↔ text = wholeText .ready bytes :=
  ⟨fun h => h.unique (decoded_from bytes).1, fun h => h ▸ (decoded_from bytes).1⟩

/-! ### Before the end of the stream -/

/-- The first two bytes of a surrogate. -/
def SurrogateStart (part : Bytes) : Prop :=
  ∃ b : UInt8, part = [0xED, b] ∧ 0xA0 ≤ b.toNat ∧ b.toNat ≤ 0xBF

/-- What waits for more bytes. -/
def Waiting (part : Bytes) : Prop := Incomplete part ∨ SurrogateStart part

/-- Bytes are what is decided and, at their end, what waits, if anything does. -/
structure Parted (waits : Bytes → Prop) (bytes decided held : Bytes) : Prop where
  split : bytes = decided ++ held
  held_or : held = [] ∨ waits held
  all : held = [] → ∀ tail, tail <:+ bytes → ¬ waits tail

/-- What waits is the first byte of a character and bytes that are none. -/
theorem Waiting.exists_lead (h : Waiting held) :
    ∃ lead tail, held = lead :: tail ∧ 0xC0 ≤ lead.toNat ∧ ∀ x ∈ tail, x.toNat < 0xC0 := by
  rcases h with ⟨nonempty, c, isPrefix, proper⟩ | ⟨b, rfl, low, high⟩
  · cases held with
    | nil => exact absurd rfl nonempty
    | cons lead tail =>
      have first := leadByte_of_isPrefix ((List.prefix_append [lead] tail).trans isPrefix)
      rw [encode_eq, List.cons_prefix_cons] at isPrefix
      refine ⟨lead, tail, rfl, ?_, fun x hx => lt_of_mem_tailBytes (isPrefix.2.mem hx)⟩
      -- a character of one byte has no beginning but itself
      by_cases ascii : c.toNat ≤ 0x7F
      · rw [encode_eq, isPrefix.1] at proper
        rw [extraBytes, if_pos ascii] at isPrefix proper
        exact absurd (by rw [List.prefix_nil.1 isPrefix.2]; rfl) proper
      · rw [← first, leadByte, if_neg ascii]
        split_ifs <;> omega
  · exact ⟨0xED, [b], rfl, by decide, fun x hx => by rw [List.mem_singleton.1 hx]; omega⟩

/-- Bytes end with one waiting part at most. -/
theorem Waiting.eq_of_suffix {other : Bytes} (h : Waiting held) (h' : Waiting other)
    (hs : held <:+ other) : held = other := by
  obtain ⟨lead, tail, rfl, high, -⟩ := h.exists_lead
  obtain ⟨first, rest, rfl, -, low⟩ := h'.exists_lead
  rcases List.suffix_cons_iff.1 hs with same | inside
  · exact same
  · have := low lead (inside.mem List.mem_cons_self)
    omega

theorem Parted.unique {d h d' h' : Bytes} (parted : Parted Waiting bytes d h)
    (other : Parted Waiting bytes d' h') : d = d' ∧ h = h' := by
  have suffixes : h <:+ bytes ∧ h' <:+ bytes :=
    ⟨parted.split ▸ List.suffix_append d h, other.split ▸ List.suffix_append d' h'⟩
  have same : h = h' := by
    rcases parted.held_or with empty | waits
    · rcases other.held_or with empty' | waits'
      · rw [empty, empty']
      · exact absurd waits' (parted.all empty h' suffixes.2)
    · rcases other.held_or with empty' | waits'
      · exact absurd waits (other.all empty' h suffixes.1)
      · rcases List.suffix_or_suffix_of_suffix suffixes.1 suffixes.2 with hs | hs
        · exact waits.eq_of_suffix waits' hs
        · exact (waits'.eq_of_suffix waits hs).symm
  refine ⟨?_, same⟩
  have split := other.split
  rw [parted.split, same] at split
  exact List.append_cancel_right split

/-- What a state of the decoder has read and not given yet. -/
inductive Holds : Utf8 → Bytes → Prop
  | ready : Holds .ready []
  | inside {more bits low high : Nat} {held : Bytes} (h : Begun more bits low high held) :
      Holds (.inside (more + 1) bits low high) held
  | surrogate {held : Bytes} (h : SurrogateStart held) : Holds .surrogate held

theorem Holds.waiting {s : Utf8} (h : Holds s held) : held = [] ∨ Waiting held := by
  cases h with
  | ready => exact .inl rfl
  | inside h => exact .inr (.inl h.incomplete)
  | surrogate h => exact .inr (.inr h)

theorem Holds.eq_ready {s : Utf8} (h : Holds s []) : s = .ready := by
  cases h with
  | ready => rfl
  | inside h => exact absurd rfl h.nonempty
  | surrogate h => obtain ⟨_, h, _⟩ := h; cases h

theorem holds_start (b : UInt8) : ∃ held, held <:+ [b] ∧ Holds (Utf8.start b.toNat).2 held := by
  have opens := opens_start b
  generalize Utf8.start b.toNat = r at opens
  cases opens with
  | whole | nothing => exact ⟨[], List.nil_suffix, .ready⟩
  | part h => exact ⟨[b], List.suffix_refl _, .inside h⟩

theorem Holds.step {s : Utf8} (h : Holds s held) (b : UInt8) :
    ∃ held', held' <:+ held ++ [b] ∧ Holds (s.step b).2 held' := by
  have again : ∃ held', held' <:+ held ++ [b] ∧ Holds (Utf8.start b.toNat).2 held' := by
    obtain ⟨held', hs, holds⟩ := holds_start b
    exact ⟨held', hs.trans (List.suffix_append _ _), holds⟩
  cases h with
  | ready => exact again
  | surrogate h => exact again
  | @inside more bits low high _ h =>
    by_cases within : low ≤ b.toNat ∧ b.toNat ≤ high
    · rw [step_within within]
      cases more with
      | zero => exact ⟨[], List.nil_suffix, .ready⟩
      | succ more => exact ⟨_, List.suffix_refl _, .inside (h.accepts within)⟩
    · rw [step_out within]
      split_ifs with surrogate
      · refine ⟨_, List.suffix_refl _, .surrogate ⟨b, by rw [h.surrogates surrogate.1]; rfl, ?_⟩⟩
        obtain ⟨same, above, below⟩ := surrogate
        rw [Utf8.belowSurrogates] at same
        omega
      · exact again

/-- What is held back after some bytes is the end of them. -/
theorem holds_decode (bytes : Bytes) :
    ∃ held, held <:+ bytes ∧ Holds (Utf8.decode .ready bytes).2 held := by
  induction bytes using List.reverseRecOn with
  | nil => exact ⟨[], List.suffix_refl _, .ready⟩
  | append_singleton bytes b ih =>
    obtain ⟨held, hs, holds⟩ := ih
    obtain ⟨held', hs', holds'⟩ := holds.step b
    refine ⟨held', hs'.trans ?_, ?_⟩
    · obtain ⟨front, rfl⟩ := hs
      exact ⟨front, by simp⟩
    · rw [Utf8.decode_append]
      exact holds'

theorem exists_parted (bytes : Bytes) : ∃ decided held, Parted Waiting bytes decided held := by
  by_cases h : ∃ held, held <:+ bytes ∧ Waiting held
  · obtain ⟨held, ⟨decided, rfl⟩, waiting⟩ := h
    refine ⟨decided, held, rfl, .inr waiting, fun empty => ?_⟩
    obtain ⟨lead, tail, rfl, -⟩ := waiting.exists_lead
    cases empty
  · exact ⟨bytes, [], by simp, .inl rfl, fun _ tail hs waits => h ⟨tail, hs, waits⟩⟩

/-- The decoder gives nothing for the beginning of a character, and knows it. -/
theorem decode_of_incomplete (h : Incomplete held) : ∃ more bits low high,
    Utf8.decode .ready held = ([], .inside (more + 1) bits low high) ∧ Begun more bits low high held := by
  induction held using List.reverseRecOn with
  | nil => exact absurd rfl h.1
  | append_singleton front b ih =>
    obtain ⟨-, c, isPrefix, proper⟩ := h
    by_cases empty : front = []
    · subst empty
      have opens := opens_start b
      have step : Utf8.decode .ready [b] = ((Utf8.start b.toNat).1 ++ [], (Utf8.start b.toNat).2) := rfl
      rw [List.nil_append, step]
      generalize Utf8.start b.toNat = r at opens
      cases opens with
      | whole d hd =>
        obtain rfl := eq_of_encode_isPrefix (hd ▸ isPrefix) (List.prefix_refl _)
        exact absurd hd.symm proper
      | nothing h => exact absurd isPrefix (h c)
      | part h => exact ⟨_, _, _, _, rfl, h⟩
    · have shorter : front <+: utf8EncodeChar c := (List.prefix_append front [b]).trans isPrefix
      have length := isPrefix.length_le
      rw [List.length_append, List.length_singleton] at length
      obtain ⟨more, bits, low, high, decode, begun⟩ :=
        ih ⟨empty, c, shorter, fun same => by rw [same] at length; omega⟩
      have within : low ≤ b.toNat ∧ b.toNat ≤ high := by
        by_contra out
        exact begun.refuses out isPrefix
      rw [Utf8.decode_append, decode]
      simp only [Utf8.decode, step_within within, List.nil_append, List.append_nil]
      cases more with
      | zero =>
        have complete := begun.accepts_last within
        rw [← complete] at isPrefix proper
        rw [eq_of_encode_isPrefix isPrefix (List.prefix_refl _)] at proper
        exact absurd rfl proper
      | succ more => exact ⟨_, _, _, _, rfl, begun.accepts within⟩

theorem decode_cons (s : Utf8) (b : UInt8) (bs : Bytes) :
    (s.decode (b :: bs)).1 = (s.step b).1 ++ ((s.step b).2.decode bs).1 := rfl

/-- The decoder gives nothing for what waits. -/
theorem decode_of_waiting (h : Waiting held) : (Utf8.decode .ready held).1 = [] := by
  rcases h with incomplete | ⟨b, rfl, low, high⟩
  · obtain ⟨_, _, _, _, decode, -⟩ := decode_of_incomplete incomplete
    rw [decode]
  · have first : Utf8.step .ready 0xED = ([], .inside 2 0xD 0x80 Utf8.belowSurrogates) := rfl
    have below : Utf8.belowSurrogates < b.toNat := by
      rw [Utf8.belowSurrogates]
      omega
    rw [decode_cons, decode_cons, first, step_out (by omega), if_pos ⟨rfl, below, high⟩]
    rfl

/-- The first byte of what waits ends whatever was held back before it. -/
theorem Holds.step_lead {s : Utf8} (h : Holds s held) (lead : 0xC0 ≤ b.toNat) :
    s.step b = (s.flush ++ (Utf8.start b.toNat).1, (Utf8.start b.toNat).2) := by
  cases h with
  | ready => rfl
  | surrogate => rfl
  | inside h =>
    have range := h.range
    rw [step_out (by omega), if_neg (by omega)]
    rfl

/-- **Before the end of the stream the decoder has given the text of what does not wait.** -/
theorem decode_of_parted (h : Parted Waiting bytes decided held) :
    Decoded decided (Utf8.decode .ready bytes).1 := by
  obtain ⟨tail, hs, holds⟩ := holds_decode bytes
  rw [decoded_iff]
  rcases h.held_or with empty | waiting
  · rcases holds.waiting with rfl | waits
    · have split := h.split
      rw [empty, List.append_nil] at split
      rw [← split, wholeText, holds.eq_ready, Utf8.flush, List.append_nil]
    · exact absurd waits (h.all empty tail hs)
  · obtain ⟨front, -, before⟩ := holds_decode decided
    obtain ⟨lead, rest, rfl, high, -⟩ := waiting.exists_lead
    have nothing := decode_of_waiting waiting
    rw [decode_cons] at nothing
    rw [h.split, Utf8.decode_append, wholeText, decode_cons, before.step_lead high, List.append_assoc]
    exact congrArg _ ((congrArg _ nothing).trans (List.append_nil _))

end Sweep.Text
