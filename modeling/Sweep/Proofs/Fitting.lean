import Sweep.Child.StatusLine

/-!
# What fits on a status line

A label and a message share the columns that a terminal has besides the spinner.  Both are shown from
their beginning, all columns are used if there is enough to show, and the label gives way first.

* `Text.fit_label_prefix`, `Text.fit_message_prefix` — what is shown are beginnings;
* `Text.length_fit` — how many columns are used;
* `Text.fit_label_of_cut` — a message is cut only when nothing is left of its label;
* `StatusLine.Entry` — what can be written on a status line, one after the other;
* `StatusLine.Holds` — what a line says after some entries; `Holds.write` is the step.

The main statement is `StatusLine.shown_after_entries`: so every line is shown, whatever was written on it.
-/

namespace Sweep

namespace Text

/-! ### Fitting -/

theorem length_cut (s : String) (n : Nat) : (cut s n).length = min n s.length := by
  rw [cut, String.length_ofList, List.length_take, String.length_toList]

theorem cut_prefix (s : String) (n : Nat) : (cut s n).toList <+: s.toList := by
  rw [cut, String.toList_ofList]
  exact List.take_prefix n s.toList

theorem fit_label_prefix (label message : String) (available : Int) :
    (fit label message available).1.toList <+: label.toList := by
  rw [fit]
  by_cases all : label.length + message.length ≤ available.toNat
  · simp [all]
  · by_cases full : available.toNat ≤ message.length
    · simp [all, full]
    · simpa only [if_neg all, if_neg full] using cut_prefix label _

theorem fit_message_prefix (label message : String) (available : Int) :
    (fit label message available).2.toList <+: message.toList := by
  rw [fit]
  by_cases all : label.length + message.length ≤ available.toNat
  · simp [all]
  · by_cases full : available.toNat ≤ message.length
    · simpa only [if_neg all, if_pos full] using cut_prefix message _
    · simp [all, full]

/-- **No column stays empty while something is left out.** -/
theorem length_fit (label message : String) (available : Int) :
    (fit label message available).1.length + (fit label message available).2.length
      = min (label.length + message.length) available.toNat := by
  rw [fit]
  by_cases all : label.length + message.length ≤ available.toNat
  · simp only [if_pos all]
    omega
  · by_cases full : available.toNat ≤ message.length
    · simp only [if_neg all, if_pos full, length_cut, String.length_empty]
      omega
    · simp only [if_neg all, if_neg full, length_cut]
      omega

/-- **The label gives way first.** -/
theorem fit_label_of_cut {label message : String} {available : Int}
    (cut : (fit label message available).2 ≠ message) : (fit label message available).1 = "" := by
  rw [fit] at cut ⊢
  by_cases all : label.length + message.length ≤ available.toNat
  · simp [all] at cut
  · by_cases full : available.toNat ≤ message.length
    · simp only [if_neg all, if_pos full]
    · simp [all, full] at cut

end Text

namespace StatusLine

/-! ### What is written on a line -/

/-- What can be written on a line. -/
inductive Entry where
  /-- A new line of output. -/
  | say (message : String)
  /-- A stream could not be written to its file. -/
  | flag (channel : Channel)
  | settle (status : Status)
  deriving DecidableEq, Repr

namespace Entry

/-- The final state that an entry brings. -/
def final? : Entry → Option Status
  | settle status => if status.isFinal then some status else none
  | _ => none

/-- The output that an entry brings. -/
def output? : Entry → Option String
  | say message => some message
  | _ => none

end Entry

def write (l : StatusLine) : Entry → StatusLine
  | .say message => l.say message
  | .flag channel => l.flag channel
  | .settle status => l.settle status

/-- A line after some entries, the first one first. -/
def writeAll (l : StatusLine) (entries : List Entry) : StatusLine := entries.foldl write l

section write

variable (l : StatusLine) (e : Entry)

theorem label_write : (l.write e).label = l.label := by
  cases e with
  | say message => simp only [write, say]; split <;> rfl
  | flag channel => cases channel <;> rfl
  | settle status => simp only [write, settle]; split <;> rfl

theorem stdoutLost_write : (l.write e).stdoutLost = (l.stdoutLost || e == .flag .stdout) := by
  cases e with
  | say message => simp only [write, say]; split <;> simp
  | flag channel => cases channel <;> simp [write, flag]
  | settle status => simp only [write, settle]; split <;> simp

theorem stderrLost_write : (l.write e).stderrLost = (l.stderrLost || e == .flag .stderr) := by
  cases e with
  | say message => simp only [write, say]; split <;> simp
  | flag channel => cases channel <;> simp [write, flag]
  | settle status => simp only [write, settle]; split <;> simp

/-- The first final state counts. -/
theorem final_write : (l.write e).final = l.final.or e.final? := by
  cases e with
  | say message => simp only [write, say]; split <;> simp [Entry.final?]
  | flag channel => cases channel <;> simp [write, flag, Entry.final?]
  | settle status =>
    cases final : l.final <;> by_cases ends : status.isFinal <;>
      simp [write, settle, Entry.final?, final, ends]

theorem message_write_of_final {l : StatusLine} {status : Status} (final : l.final = some status)
    (e : Entry) : (l.write e).message = l.message := by
  cases e with
  | say message => simp [write, say, final]
  | flag channel => cases channel <;> rfl
  | settle status => simp [write, settle, final]

/-- Until there is a final state, an entry brings a final state, or output, or no message. -/
theorem message_write_of_running {l : StatusLine} (running : l.final = none) (e : Entry) :
    (l.write e).message = ((e.final?.map Status.text).or e.output?).getD l.message := by
  cases e with
  | say message => simp [write, say, running, Entry.final?, Entry.output?]
  | flag channel => cases channel <;> rfl
  | settle status =>
    by_cases ends : status.isFinal <;> simp [write, settle, running, Entry.final?, Entry.output?, ends]

end write

/-- The message after some entries: the first final state, or else the last output. -/
def messageAfter (entries : List Entry) : String :=
  (((entries.findSome? Entry.final?).map Status.text).or
    (entries.reverse.findSome? Entry.output?)).getD ""

/-- What a line says after some entries. -/
structure Holds (label : String) (entries : List Entry) (l : StatusLine) : Prop where
  label : l.label = label
  stdoutLost : l.stdoutLost = decide (.flag .stdout ∈ entries)
  stderrLost : l.stderrLost = decide (.flag .stderr ∈ entries)
  final : l.final = entries.findSome? Entry.final?
  message : l.message = messageAfter entries

variable {label : String} {entries : List Entry} {l : StatusLine}

theorem holds_new (label : String) : Holds label [] { label } := ⟨rfl, by simp, by simp, rfl, rfl⟩

/-- **One more entry.** -/
theorem Holds.write (h : Holds label entries l) (e : Entry) :
    Holds label (entries ++ [e]) (l.write e) where
  label := (label_write l e).trans h.label
  stdoutLost := by
    rw [stdoutLost_write, h.stdoutLost]
    by_cases same : e = .flag .stdout
    · simp [same]
    · simp [same, Ne.symm same]
  stderrLost := by
    rw [stderrLost_write, h.stderrLost]
    by_cases same : e = .flag .stderr
    · simp [same]
    · simp [same, Ne.symm same]
  final := by
    rw [final_write, h.final]
    simp [List.findSome?_append]
  message := by
    cases found : l.final with
    | some status =>
      have was := h.final.symm.trans found
      rw [message_write_of_final found, h.message, messageAfter, messageAfter]
      simp [List.findSome?_append, was]
    | none =>
      have was := h.final.symm.trans found
      rw [message_write_of_running found, h.message, messageAfter, messageAfter]
      cases final : e.final? <;> cases output : e.output? <;>
        simp [List.findSome?_append, was, final, output]

theorem Holds.writeAll (h : Holds label entries l) (more : List Entry) :
    Holds label (entries ++ more) (l.writeAll more) := by
  induction more generalizing entries l with
  | nil => simpa [StatusLine.writeAll] using h
  | cons e more ih => simpa [StatusLine.writeAll] using ih (h.write e)

/-- **What a line shows, whatever was written on it**: beginnings of its label with the flags and of its
message, as much as there is room for, and a message that is cut stands alone.  The message and the flags
are those that the entries brought. -/
theorem shown_after_entries (label : String) (width : Int) (entries : List Entry) :
    let l := ({ label } : StatusLine).writeAll entries
    (l.shown width).1.toList <+: l.flagged.toList ∧
      (l.shown width).2.toList <+: l.message.toList ∧
      (l.shown width).1.length + (l.shown width).2.length
        = min (l.flagged.length + l.message.length) (max (width - 3) 0).toNat ∧
      ((l.shown width).2 = l.message ∨ (l.shown width).1 = "") ∧
      Holds label entries l := by
  intro l
  have room : max width margin - margin = max (width - 3) 0 := by
    show max width 3 - 3 = max (width - 3) 0
    omega
  rw [shown, room]
  refine ⟨Text.fit_label_prefix _ _ _, Text.fit_message_prefix _ _ _, Text.length_fit _ _ _, ?_, ?_⟩
  · by_cases whole : (Text.fit l.flagged l.message (max (width - 3) 0)).2 = l.message
    · exact .inl whole
    · exact .inr (Text.fit_label_of_cut whole)
  · simpa using (holds_new label).writeAll entries

/-- Late output is not shown, and a late flag is. -/
example : (({ label := "ab" } : StatusLine).writeAll
    [.settle .running, .say "x", .settle .killed, .say "y", .flag .stderr]).shown 12
      = ("!st", "Killed") := by decide

end StatusLine

end Sweep
