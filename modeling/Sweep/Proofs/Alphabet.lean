import Sweep.Path.Reader
import Mathlib.Algebra.Group.Nat.Defs

/-!
# The characters of paths

Names, digits and white space are classes of characters given by tables.  That two of them have nothing in
common is a fact about whole tables, and is found by looking at each table as one large number.

* `bits`, `testBit_bits` — a table as a number, with the bits of its code points;
* `inRanges_eq_false` — two tables without a common bit have no common code point;
* `not_isDigit_of_startsName`, `not_isBlank_of_continuesName` — how names are told from digits and blanks;
* `Ends` — a class of characters ends where a text begins; `strip_of_ends` — what stripping leaves alone;
* `exists_decimalNumber`, `decimalNumber?_toDigits` — the number that digits write, and the digits of a
  number.
-/

namespace Sweep.Text

/-! ### Tables as numbers -/

/-- A table as one number: the bits that are set are those of its code points. -/
def bits : List (Nat × Nat) → Nat
  | [] => 0
  | r :: rest => (2 ^ (r.2 + 1 - r.1) - 1) <<< r.1 ||| bits rest

theorem testBit_bits (ranges : List (Nat × Nat)) (code : Nat) :
    (bits ranges).testBit code = inRanges ranges code := by
  induction ranges with
  | nil => simp [bits, inRanges]
  | cons r rest ih =>
    have first : ((2 ^ (r.2 + 1 - r.1) - 1) <<< r.1).testBit code = (r.1 ≤ code && code ≤ r.2 : Bool) := by
      rw [Nat.testBit_shiftLeft, Nat.testBit_two_pow_sub_one, Bool.eq_iff_iff]
      simp only [Bool.and_eq_true, decide_eq_true_eq]
      omega
    rw [bits, Nat.testBit_or, first, ih]
    rfl

/-- Two tables that share no bit share no code point. -/
theorem inRanges_eq_false {ranges others : List (Nat × Nat)} {code : Nat}
    (apart : bits ranges &&& bits others = 0) (inside : inRanges others code = true) :
    inRanges ranges code = false := by
  have shared := Nat.testBit_and (bits ranges) (bits others) code
  rw [apart, Nat.zero_testBit, testBit_bits, testBit_bits, inside, Bool.and_true] at shared
  exact shared.symm

theorem inRanges_append (ranges others : List (Nat × Nat)) (code : Nat) :
    inRanges (ranges ++ others) code = (inRanges ranges code || inRanges others code) := List.any_append

/-- The digits of all scripts and shapes. -/
def digitRanges : List (Nat × Nat) := decimalZeros.map (fun z => (z, z + 9)) ++ shapedDigitRanges

/-- The characters that start a name. -/
def startRanges : List (Nat × Nat) := (0x5F, 0x5F) :: letterRanges

/-- The characters of a name. -/
def nameRanges : List (Nat × Nat) := (0x2D, 0x2D) :: (startRanges ++ digitRanges)

/-- White space. -/
def blankRanges : List (Nat × Nat) := [
  (9, 13), (28, 32), (0x85, 0x85), (0xA0, 0xA0), (0x1680, 0x1680), (0x2000, 0x200A), (0x2028, 0x2029),
  (0x202F, 0x202F), (0x205F, 0x205F), (0x3000, 0x3000)]

variable {c : Char}

theorem inRanges_of_isBlank (h : isBlank c = true) : inRanges blankRanges c.toNat = true := by
  simp only [isBlank, Bool.or_eq_true, Bool.and_eq_true, decide_eq_true_eq, beq_iff_eq] at h
  simp only [inRanges, blankRanges, List.any_cons, List.any_nil, Bool.or_eq_true, Bool.and_eq_true,
    decide_eq_true_eq, Bool.false_eq_true]
  omega

/-- A decimal digit stands behind the zero of its script. -/
theorem zero_of_decimalValue? {d : Nat} (h : decimalValue? c = some d) :
    d < 10 ∧ ∃ z ∈ decimalZeros, c.toNat = z + d := by
  rw [decimalValue?] at h
  split at h
  · split at h
    · next ascii =>
      rw [Bool.and_eq_true, decide_eq_true_eq, decide_eq_true_eq] at ascii
      have value := Option.some.inj h
      exact ⟨by omega, 48, by decide, by omega⟩
    · cases h
  · obtain ⟨z, found, value⟩ := Option.map_eq_some_iff.1 h
    have inside := List.find?_some found
    rw [Bool.and_eq_true, decide_eq_true_eq, decide_eq_true_eq] at inside
    exact ⟨by omega, z, List.mem_of_find?_eq_some found, by omega⟩

theorem inRanges_of_isDigit (h : isDigit c = true) : inRanges digitRanges c.toNat = true := by
  rw [inRanges_iff]
  rcases Bool.or_eq_true_iff.1 h with decimal | shaped
  · obtain ⟨d, hd⟩ := Option.isSome_iff_exists.1 decimal
    obtain ⟨lt, z, hz, code⟩ := zero_of_decimalValue? hd
    refine ⟨(z, z + 9), List.mem_append_left _ (List.mem_map_of_mem hz), ?_⟩
    dsimp only
    omega
  · obtain ⟨r, hr, inside⟩ := inRanges_iff.1 shaped
    exact ⟨r, List.mem_append_right _ hr, inside⟩

theorem inRanges_of_isLetter (h : isLetter c = true) : inRanges letterRanges c.toNat = true := by
  rw [isLetter] at h
  split at h
  · rw [inRanges_iff]
    rcases Bool.or_eq_true_iff.1 h with upper | lower
    · have inside := of_decide_eq_true upper
      exact ⟨(0x41, 0x5A), by decide, UInt32.le_iff_toNat_le.1 inside.1, UInt32.le_iff_toNat_le.1 inside.2⟩
    · obtain ⟨above, below⟩ := Bool.and_eq_true_iff.1 lower
      exact ⟨(0x61, 0x7A), by decide, UInt32.le_iff_toNat_le.1 (of_decide_eq_true above),
        UInt32.le_iff_toNat_le.1 (of_decide_eq_true below)⟩
  · exact h

theorem inRanges_of_startsName (h : startsName c = true) : inRanges startRanges c.toNat = true := by
  rw [startsName, Bool.or_eq_true, decide_eq_true_eq] at h
  rcases h with letter | rfl
  · exact Bool.or_eq_true_iff.2 (.inr (inRanges_of_isLetter letter))
  · rfl

theorem inRanges_of_continuesName (h : continuesName c = true) : inRanges nameRanges c.toNat = true := by
  rw [continuesName, Bool.or_eq_true, Bool.or_eq_true, decide_eq_true_eq] at h
  rcases h with (starts | digit) | rfl
  · refine Bool.or_eq_true_iff.2 (.inr ?_)
    rw [← inRanges, inRanges_append, inRanges_of_startsName starts, Bool.true_or]
  · refine Bool.or_eq_true_iff.2 (.inr ?_)
    rw [← inRanges, inRanges_append, inRanges_of_isDigit digit, Bool.or_true]
  · rfl

/-- A character that starts a name is no digit. -/
theorem not_isDigit_of_startsName (h : startsName c = true) : isDigit c = false := by
  have apart : bits digitRanges &&& bits startRanges = 0 := by decide +kernel
  exact Bool.eq_false_iff.2 fun digit =>
    Bool.eq_false_iff.1 (inRanges_eq_false apart (inRanges_of_startsName h)) (inRanges_of_isDigit digit)

/-- No character of a name is blank. -/
theorem not_isBlank_of_continuesName (h : continuesName c = true) : isBlank c = false := by
  have apart : bits blankRanges &&& bits nameRanges = 0 := by decide +kernel
  exact Bool.eq_false_iff.2 fun blank =>
    Bool.eq_false_iff.1 (inRanges_eq_false apart (inRanges_of_continuesName h)) (inRanges_of_isBlank blank)

theorem continuesName_of_startsName (h : startsName c = true) : continuesName c = true := by
  rw [continuesName, h, Bool.true_or, Bool.true_or]

/-! ### Where a class ends -/

/-- The first character of a text, if there is one, is none of a class. -/
def Ends (p : Char → Bool) (rest : List Char) : Prop := ∀ c ∈ rest.head?, p c = false

theorem ends_cons {p : Char → Bool} {x : Char} (h : p x = false) (rest : List Char) : Ends p (x :: rest) := by
  rintro y ⟨⟩
  exact h

theorem ends_nil (p : Char → Bool) : Ends p [] := by
  rintro y ⟨⟩

theorem Ends.imp {p q : Char → Bool} {rest : List Char} (h : Ends q rest)
    (le : ∀ c, p c = true → q c = true) : Ends p rest := fun c first =>
  Bool.eq_false_iff.2 fun pc => Bool.eq_false_iff.1 (h c first) (le c pc)

theorem takeWhile_append_of_ends {p : Char → Bool} {front rest : List Char}
    (all : ∀ x ∈ front, p x = true) (ends : Ends p rest) :
    (front ++ rest).takeWhile p = front := by
  rw [List.takeWhile_append_of_pos all]
  cases rest with
  | nil => exact List.append_nil _
  | cons x rest => rw [List.takeWhile_cons_of_neg (Bool.eq_false_iff.1 (ends x rfl)), List.append_nil]

theorem Ends.append {p : Char → Bool} {front : List Char} (h : Ends p front) (nonempty : front ≠ [])
    (back : List Char) : Ends p (front ++ back) := by
  cases front with
  | nil => exact absurd rfl nonempty
  | cons c cs => exact h

theorem dropWhile_of_ends {p : Char → Bool} {cs : List Char} (ends : Ends p cs) : cs.dropWhile p = cs := by
  cases cs with
  | nil => rfl
  | cons c cs => exact List.dropWhile_cons_of_neg (Bool.eq_false_iff.1 (ends c rfl))

/-- A text with no white space at its ends stays as it is. -/
theorem strip_of_ends {cs : List Char} (first : Ends isBlank cs) (last : Ends isBlank cs.reverse) :
    strip cs = cs := by
  rw [strip, trim, dropWhile_of_ends first, dropWhile_of_ends last, List.reverse_reverse]

/-! ### Numbers -/

/-- The number so far and one more digit. -/
def moreDigit (acc : Option Nat) (c : Char) : Option Nat := do return 10 * (← acc) + (← decimalValue? c)

variable {cs : List Char} {n : Nat}

theorem foldl_moreDigit_none (cs : List Char) : cs.foldl moreDigit none = none := by
  induction cs with
  | nil => rfl
  | cons c cs ih => exact ih

/-- Digits with a value write a number, and it has no more digits than these. -/
theorem exists_foldl_moreDigit (decimal : ∀ c ∈ cs, (decimalValue? c).isSome = true) (acc : Nat) :
    ∃ n, cs.foldl moreDigit (some acc) = some n ∧ n < (acc + 1) * 10 ^ cs.length := by
  induction cs generalizing acc with
  | nil => exact ⟨acc, rfl, by simp⟩
  | cons c cs ih =>
    obtain ⟨d, hd⟩ := Option.isSome_iff_exists.1 (decimal c List.mem_cons_self)
    have lt := (zero_of_decimalValue? hd).1
    obtain ⟨n, read, bound⟩ := ih (fun c hc => decimal c (List.mem_cons_of_mem _ hc)) (10 * acc + d)
    have step : moreDigit (some acc) c = some (10 * acc + d) := by
      simp [moreDigit, hd]
    refine ⟨n, by rw [List.foldl_cons, step, read], ?_⟩
    calc n < (10 * acc + d + 1) * 10 ^ cs.length := bound
      _ ≤ (10 * (acc + 1)) * 10 ^ cs.length := Nat.mul_le_mul_right _ (by omega)
      _ = (acc + 1) * 10 ^ (c :: cs).length := by
        rw [List.length_cons, Nat.pow_succ', ← Nat.mul_assoc, Nat.mul_comm 10 (acc + 1)]

theorem exists_decimalNumber (decimal : ∀ c ∈ cs, (decimalValue? c).isSome = true) :
    ∃ n, decimalNumber? cs = some n ∧ n < 10 ^ cs.length := by
  obtain ⟨n, read, bound⟩ := exists_foldl_moreDigit decimal 0
  exact ⟨n, read, by rwa [Nat.zero_add, Nat.one_mul] at bound⟩

/-- Digits that write a number have a value, each of them. -/
theorem decimal_of_foldl_moreDigit {acc : Option Nat} (h : cs.foldl moreDigit acc = some n) :
    ∀ c ∈ cs, (decimalValue? c).isSome = true := by
  induction cs generalizing acc with
  | nil => exact fun c hc => nomatch hc
  | cons c cs ih =>
    rintro x (_ | ⟨_, hx⟩)
    · cases value : decimalValue? c with
      | some d => rfl
      | none =>
        have step : moreDigit acc c = none := by
          cases acc <;> simp [moreDigit, value]
        rw [List.foldl_cons, step, foldl_moreDigit_none] at h
        cases h
    · exact ih h x hx

/-- A number has no more digits than it is written with. -/
theorem lt_of_decimalNumber? (h : decimalNumber? cs = some n) : n < 10 ^ cs.length := by
  obtain ⟨m, read, bound⟩ := exists_decimalNumber (decimal_of_foldl_moreDigit h)
  obtain rfl := Option.some.inj (read.symm.trans h)
  exact bound

theorem decimalValue?_of_isDigit (h : c.isDigit = true) : decimalValue? c = some (c.toNat - 48) := by
  rw [Char.isDigit, Bool.and_eq_true, decide_eq_true_eq, decide_eq_true_eq] at h
  have low : 48 ≤ c.toNat := UInt32.le_iff_toNat_le.1 h.1
  have high : c.toNat ≤ 57 := UInt32.le_iff_toNat_le.1 h.2
  rw [decimalValue?, if_pos (by omega), if_pos (by simp [low, high])]

theorem foldl_moreDigit_eq (ascii : ∀ c ∈ cs, c.isDigit = true) (acc : Nat) :
    cs.foldl moreDigit (some acc) = some (Nat.ofDigitChars 10 cs acc) := by
  induction cs generalizing acc with
  | nil => rfl
  | cons c cs ih =>
    have step : moreDigit (some acc) c = some (10 * acc + (c.toNat - 48)) := by
      simp [moreDigit, decimalValue?_of_isDigit (ascii c List.mem_cons_self)]
    rw [List.foldl_cons, step, Nat.ofDigitChars_cons]
    exact ih (fun c hc => ascii c (List.mem_cons_of_mem _ hc)) _

/-- The digits of a number write it. -/
theorem decimalNumber?_toDigits (n : Nat) : decimalNumber? (Nat.toDigits 10 n) = some n := by
  have ascii : ∀ c ∈ Nat.toDigits 10 n, c.isDigit = true := fun c =>
    Nat.isDigit_of_mem_toDigits (by decide) (by decide)
  exact (foldl_moreDigit_eq ascii 0).trans (congrArg some Nat.ofDigitChars_ten_toDigits)

end Sweep.Text
