import Sweep.Path.Reader

/-!
# The grammar of paths

The texts that are paths, by rules alone:

    Path ::= Name Pick | Name Pick '.' Path
    Pick ::= nothing | '[' Digit+ ']' | '[' Path ']'

Brackets may be nested, and the grammar says nothing about how a text is read.  A selection in
brackets is either a position or a path, never both, because a path starts with a character that may
start a name (`IsPath.starts`).
-/

namespace Sweep

/-- A text is a name. -/
inductive IsName : List Char → Prop where
  | mk {c : Char} {cs : List Char} (first : startsName c = true)
      (others : ∀ d ∈ cs, continuesName d = true) : IsName (c :: cs)

mutual

/-- A text is a path. -/
inductive IsPath : List Char → Prop where
  | last {name pick : List Char} (hn : IsName name) (hp : IsPick pick) : IsPath (name ++ pick)
  | dot {name pick field : List Char} (hn : IsName name) (hp : IsPick pick) (hf : IsPath field) :
      IsPath (name ++ pick ++ '.' :: field)

/-- A text is a selection. -/
inductive IsPick : List Char → Prop where
  | whole : IsPick []
  | at {digits : List Char} (nonempty : digits ≠ [])
      (all : ∀ d ∈ digits, Text.isDigit d = true) : IsPick ('[' :: digits ++ [']'])
  | by {key : List Char} (hk : IsPath key) : IsPick ('[' :: key ++ [']'])

end

theorem IsName.starts {cs : List Char} (h : IsName cs) :
    ∃ c rest, cs = c :: rest ∧ startsName c = true := by
  cases h with
  | mk first _ => exact ⟨_, _, rfl, first⟩

theorem IsPath.starts {cs : List Char} (h : IsPath cs) :
    ∃ c rest, cs = c :: rest ∧ startsName c = true := by
  cases h with
  | last hn _ | dot hn _ _ =>
    obtain ⟨c, rest, rfl, first⟩ := hn.starts
    exact ⟨c, _, rfl, first⟩

end Sweep
