import Sweep.Proofs.Hiding
import Sweep.Proofs.Retaining

/-!
# Loops do not get into each other

What a loop walks over is its own.  No path of a bed names a hidden variable, no two loop targets of a
program have the same one, and while a loop goes on nothing but an explicit statement changes the value that
it walks over.  So a loop inside the body of another one, or behind it, may walk over whatever it likes.

* `Statement.Hygienic` — all this for a program and what runs it;
* `Statement.hygienic_of_hides` — it follows from what the reader hides and from what a step can reach.

The main statement is `Bed.hidden_variables_hygienic`.
-/

namespace Sweep

open Machine

variable {κ ω : Type}

/-- The hidden variables of a program are hygienic when some executor runs it. -/
structure Statement.Hygienic (names : NameTable) (C : κ → Prop) (ex : Executor κ ω)
    (ts : List (Statement κ)) : Prop where
  /-- A loop walks over a variable that paths can name, or over a hidden one. -/
  walks : ∀ x ∈ walkedIn ts, names.Knows x ∨ x ∈ hiddenIn names ts
  unnamed : ∀ x ∈ hiddenIn names ts, ¬ names.Knows x
  /-- A hidden variable is bound by one instruction only, and walked over by one loop variable only. -/
  bound_once : (hiddenIn names ts).Nodup
  walked_once : ∀ x ∈ hiddenIn names ts, (walkedIn ts).count x = 1
  /-- A loop walks over a variable in a scope below its own.  From any moment of a run on, for as long as a
  scope lies below others, a variable in it stays bound to the same value, or an explicit statement on the
  way has changed just this. -/
  undisturbed : ∀ (s : Scopes) w cs c, Trail ex (compile ts) ⟨(0 : Nat), s.push, w⟩ cs c →
    ∀ (n : Nat) x v, c.scopes.binding n x = .ok v →
      ∀ ds d, Trail ex (compile ts) c ds d → (∀ m ∈ ds, n + 1 < m.scopes.length) →
        d.scopes.binding n x = .ok v ∨ Overwritten ex C (compile ts) n x ds

theorem Statement.hygienic_of_hides {names : NameTable} {C : κ → Prop} {ex : Executor κ ω}
    {ts : List (Statement κ)} (writes : ex.WritesOnce C) (proper : ProperIn ts)
    (hides : ∃ scope, Hiding scope names ts) : Hygienic names C ex ts where
  walks x hx := by
    obtain ⟨scope, hides⟩ := hides
    exact hides.weaves.knows_or_mem hx
  unnamed x hx := by
    obtain ⟨scope, hides⟩ := hides
    exact hides.weaves.not_knows hx
  bound_once := by
    obtain ⟨scope, hides⟩ := hides
    exact hides.nodup
  walked_once x hx := by
    obtain ⟨scope, hides⟩ := hides
    rw [hides.weaves.count_eq (hides.weaves.not_knows hx)]
    exact List.count_eq_one_of_mem hides.nodup hx
  undisturbed s w cs c reached n x v bound ds d trail covered := by
    rw [← bound]
    exact kept_or_overwritten writes proper reached trail covered x

namespace Bed

/-- **Hidden loop variables are hygienic.**  Take any document that is a bed.  No path in it, however deep,
contains the name of a hidden variable.  In each of its programs a loop target that is no variable of the bed
is a hidden variable, and no two targets have the same one.  And in every run of a program, on any stack, what
a loop walks over stays bound to its value while the loop goes on, since the loop has a scope of its own above
it: no loop in its body rebinds it, whatever that loop walks over and whatever its own variables are called;
only a statement that explicitly overwrites, appends or yields can. -/
theorem hidden_variables_hygienic {here : Whereabouts} {d : Document} {bed : Bed}
    (read : ofDocument here d = .ok bed) :
    (∀ path ∈ bed.paths, ∀ x ∈ path.names, ∀ y ∈ bed.hidden,
      bed.names.nameOf? x ≠ bed.names.nameOf? y) ∧
    (∀ names, Statement.Hygienic bed.names RenderCommand.Binds (Rendering.executor names) bed.globals) ∧
    (∀ e ∈ bed.templates, ∀ names,
      Statement.Hygienic bed.names RenderCommand.Binds (Rendering.executor names) e.2) ∧
    ∀ e ∈ bed.commands, ∀ names patience,
      Statement.Hygienic bed.names (fun _ => True) (Supervision.executor names patience) e.2 := by
  have proper := yields_ofDocument here d
  rw [read] at proper
  obtain ⟨globals, templates, commands⟩ := programs_hide read
  have unnamed : ∀ y ∈ bed.hidden, ¬ bed.names.Knows y := by
    have of_hides {κ : Type} {ts : List (Statement κ)}
        (hides : ∃ scope, Statement.Hiding scope bed.names ts) :
        ∀ y ∈ Statement.hiddenIn bed.names ts, ¬ bed.names.Knows y := by
      obtain ⟨scope, hides⟩ := hides
      exact fun y hy => hides.weaves.not_knows hy
    intro y hy
    rcases List.mem_append.1 hy with hy | hy
    · rcases List.mem_append.1 hy with hy | hy
      · exact of_hides globals y hy
      · obtain ⟨e, he, hy⟩ := List.mem_flatMap.1 hy
        exact of_hides (templates e he) y hy
    · obtain ⟨e, he, hy⟩ := List.mem_flatMap.1 hy
      exact of_hides (commands e he) y hy
  refine ⟨fun path hpath x hx y hy same => ?_, fun names => ?_, fun e he names => ?_,
    fun e he names patience => ?_⟩
  · -- only names that paths can have stand in paths
    obtain ⟨name, named, isName⟩ := path.knows_of_mem_names (sound_paths read path hpath) x hx
    exact unnamed y hy ⟨name, same.symm.trans named, isName⟩
  · exact Statement.hygienic_of_hides (Rendering.writesOnce_executor names) proper.globals globals
  · exact Statement.hygienic_of_hides (Rendering.writesOnce_executor names) (proper.templates e he)
      (templates e he)
  · exact Statement.hygienic_of_hides (Supervision.writesOnce_executor names patience)
      (proper.commands e he) (commands e he)

/-- A bed with a loop over a list, in its body a loop over two lists, and behind that a loop over a path. -/
def layeredBed : Document :=
  .mapping [("commands", .list [.mapping [("for", .text "x"), ("in", .list [.text "a", .text "b"]),
    ("do", .list [
      .mapping [("for", .list [.text "y", .text "z"]),
        ("in", .list [.list [.text "c"], .list [.text "d"]]), ("do", .list [.text "wait"])],
      .mapping [("for", .text "w"), ("in", .text "x.field"), ("do", .list [.text "wait"])]])]])]

/-- The command program of that bed, up to the beginning of the outer loop. -/
def layeredOpening : Program Command :=
  [⟨.create 0 (.list [.struct [.literal "a"] [], .struct [.literal "b"] []]) none, some "commands[0].in"⟩,
    ⟨.pushScope, some "commands[0]"⟩, ⟨.start (.elements 0) 1 31, some "commands[0]"⟩]

/-- The outer loop begins over its hidden variable, which stands in the scope below that of the loop. -/
theorem begins_of_layeredOpening (names : NameTable) (w : Supervision) {p : Program Command}
    (opening : p.take 3 = layeredOpening) :
    ∃ cs c d v, Trail (Supervision.executor names 0) p ⟨(0 : Nat), Scopes.push [], w⟩ cs c ∧
      p.at? c.pc = some ⟨.start (.elements 0) 1 31, some "commands[0]"⟩ ∧
      c.scopes.lookup 0 = .ok (0, v) ∧ 0 + 1 < c.scopes.length ∧
      Step (Supervision.executor names 0) p c d := by
  have line (n : Nat) (hn : n < 3) : p.at? n = layeredOpening[n]? := by
    show p[n]? = layeredOpening[n]?
    rw [← opening, List.getElem?_take, if_pos hn]
  let v := Value.list [.struct "a" [], .struct "b" []]
  have create : Step (Supervision.executor names 0) p ⟨(0 : Nat), Scopes.push [], w⟩
      ⟨(1 : Nat), [[(0, v)]], w⟩ := ⟨_, line 0 (by decide), rfl⟩
  have enter : Step (Supervision.executor names 0) p ⟨(1 : Nat), [[(0, v)]], w⟩
      ⟨(2 : Nat), [[(0, v)], []], w⟩ := ⟨_, line 1 (by decide), rfl⟩
  refine ⟨_, _, ⟨3, _, _⟩, v, .cons create (.cons enter (.nil _)), line 2 (by decide), rfl,
    Nat.lt_succ_self _, _, line 2 (by decide), rfl⟩

theorem hidden_variables_hygienic_layeredBed :
    ∃ bed, ofDocument default layeredBed = .ok bed ∧
      bed.hidden.map bed.names.nameOf? = ["commands[0].in", "commands[0].do[0].in[0]",
        "commands[0].do[0].in[1]", "commands[0].do[1].in"].map some ∧
      bed.paths.length = 1 ∧
      (∀ path ∈ bed.paths, ∀ x ∈ path.names, ∀ y ∈ bed.hidden,
        bed.names.nameOf? x ≠ bed.names.nameOf? y) ∧
      ∃ e ∈ bed.commands, (Statement.walkedIn e.2).length = 4 ∧
        Statement.Hygienic bed.names (fun _ => True) (Supervision.executor bed.names 0) e.2 ∧
        ∀ w, ∃ cs c d v,
          Trail (Supervision.executor bed.names 0) (compile e.2) ⟨(0 : Nat), Scopes.push [], w⟩ cs c ∧
          (compile e.2).at? c.pc = some ⟨.start (.elements 0) 1 31, some "commands[0]"⟩ ∧
          c.scopes.lookup 0 = .ok (0, v) ∧ Step (Supervision.executor bed.names 0) (compile e.2) c d ∧
          d.scopes.binding (0 : Nat) 0 = .ok v := by
  obtain ⟨bed, read, hidden, paths, e, he, walked, opening⟩ :
      ∃ bed, ofDocument default layeredBed = .ok bed ∧
        bed.hidden.map bed.names.nameOf? = ["commands[0].in", "commands[0].do[0].in[0]",
          "commands[0].do[0].in[1]", "commands[0].do[1].in"].map some ∧
        bed.paths.length = 1 ∧ ∃ e ∈ bed.commands, (Statement.walkedIn e.2).length = 4 ∧
          (compile e.2).take 3 = layeredOpening :=
    ⟨_, rfl, rfl, rfl, _, List.mem_cons_self, rfl, rfl⟩
  have hygienic := hidden_variables_hygienic read
  have here := hygienic.2.2.2 e he bed.names 0
  refine ⟨bed, read, hidden, paths, hygienic.1, e, he, walked, here, fun w => ?_⟩
  obtain ⟨cs, c, d, v, reached, line_eq, found, covered, first⟩ :=
    begins_of_layeredOpening bed.names w opening
  refine ⟨cs, c, d, v, reached, line_eq, found, first, ?_⟩
  rcases here.undisturbed [] w cs c reached 0 0 v (Scopes.binding_of_lookup found) [c] d (.single first)
      (List.forall_mem_singleton.2 covered) with kept | ⟨m, hm, line, line_eq', explicit, -⟩
  · exact kept
  · -- the beginning of a loop is no explicit statement
    obtain rfl := List.mem_singleton.1 hm
    obtain rfl := Option.some.inj (line_eq.symm.trans line_eq')
    exact absurd trivial explicit

end Bed

end Sweep
