import Sweep.Proofs.Failing
import Sweep.Render.TemplateEngine

/-!
# Commands that take effect as a whole or not at all

A command of a template program evaluates one part after the other, base and fields, and each part may be a
file that is rendered.  Files that were written stay written when a later part stops; the scopes are touched
only when all parts are there.

* `Rebinds`, `rebinds_bind`, `rebinds_yield` — putting a value somewhere changes one binding;
* `Ingredient`, `RenderCommand.parts`, `Assembles` — what a command evaluates, in order, and how its value is
  put together;
* `Evaluates`, `Stops`, `evaluates_or_stops` — all parts are evaluated, or the first one that stops ends it;
* `run_valueOf_of_evaluates`, `run_valueOf_of_stops` — what that means for the value of a command;
* `Onward`, `GoesOn`, `goesOn_eval` — evaluating a part reports nothing, and a file that is not rendered fails
  under the names of its own template and output.

The main statement is `execute_all_or_nothing`.
-/

namespace Sweep

/-! ### One binding changes -/

namespace Scopes

/-- `Rebinds s n x v s'`: the stack `s` becomes `s'` in that the scope with number `n` binds a variable to a
value, and nothing else changes; an empty stack gets a scope. -/
structure Rebinds (s : Scopes) (n : Nat) (x : NameId) (v : Value) (s' : Scopes) : Prop where
  here : s'.binding n x = .ok v
  others : ∀ (i : Int) (y : NameId), ¬ (i = n ∧ y = x) → s'.binding i y = s.binding i y
  depth : s'.length = max s.length 1

variable {s : Scopes} {x : NameId} {v : Value} {n : Nat}

theorem rebinds_write (h : n < s.length) (x : NameId) (v : Value) : s.Rebinds n x v (s.write n x v) where
  here := binding_write_self h x v
  others _ _ other := binding_write_of_ne other v
  depth := by
    rw [write, List.length_modify]
    omega

/-- On an empty stack there is nothing that could change. -/
theorem rebinds_nil (x : NameId) (v : Value) : Rebinds [] 0 x v [[(x, v)]] where
  here := binding_iff.2 ⟨_, rfl, by simp [Assoc.get?]⟩
  others i y other := by
    cases i with
    | negSucc => rfl
    | ofNat i =>
      show binding [[(x, v)]] (i : Nat) y = binding [] (i : Nat) y
      rw [binding_ofNat, binding_ofNat]
      cases i with
      | zero =>
        have different : x ≠ y := fun same => other ⟨rfl, same.symm⟩
        simp [Assoc.get?, different]
      | succ i => rfl
  depth := rfl

/-- Binding changes the innermost scope. -/
theorem rebinds_bind (s : Scopes) (x : NameId) (v : Value) : s.Rebinds (s.length - 1) x v (s.bind x v) := by
  cases s with
  | nil => exact rebinds_nil x v
  | cons scope inner => exact rebinds_write (by simp) x v

/-- The elements of a list in the outermost scope; none if there is no list. -/
def rootItems (s : Scopes) (x : NameId) : List Value :=
  match s.binding 0 x with
  | .ok (.list items) => items
  | _ => []

/-- Yielding changes the outermost scope. -/
theorem rebinds_yield (s : Scopes) (x : NameId) (v : Value) :
    s.Rebinds 0 x (.list (s.rootItems x ++ [v])) (s.yield x v) := by
  cases s with
  | nil => exact rebinds_nil x _
  | cons root inner =>
    have written : yield (root :: inner) x v
        = write (root :: inner) 0 x (.list (rootItems (root :: inner) x ++ [v])) := by
      have root_binding : binding (root :: inner) 0 x = _ := binding_ofNat (root :: inner) 0 x
      rw [yield, rootItems, root_binding]
      simp only [List.getElem?_cons_zero, Option.bind_some]
      cases Assoc.get? x root with
      | none => rfl
      | some old => cases old <;> rfl
    rw [written]
    exact rebinds_write (by simp) x _

end Scopes

/-! ### Parts -/

/-- What is evaluated for itself when a command builds a value. -/
inductive Ingredient where
  | text (t : Interpolation)
  | value (e : Expr)
  | file (b : Build)

namespace Ingredient

def ofBase : BuiltBase → Ingredient
  | .text t => text t
  | .file b => file b

def ofField : BuiltField → Ingredient
  | .value e => value e
  | .file b => file b

/-- The value of a part; a file that is rendered stands for its path. -/
def eval (names : NameTable) (s : Scopes) : Ingredient → Building Value
  | text t => return .ofText (← Rendering.resolving (t.eval s))
  | value e => Rendering.resolving (e.eval s)
  | file b => return .ofText (← Rendering.buildFile names s b)

/-- The part is a file that is not rendered: the failure names its template, and the file that was to be
written below a directory. -/
def Fails (s : Scopes) (directory : Pathname) (f : RenderFault) : Ingredient → Prop
  | file b => b.template.eval s = .ok f.template ∧
      ∃ output, b.output.eval s = .ok output ∧ f.output = (directory.join (.ofString output)).text
  | _ => False

end Ingredient

def BuiltExpr.parts (b : BuiltExpr) : List Ingredient :=
  .ofBase b.base :: b.fields.map fun f => .ofField f.2

/-- What a command evaluates, in order. -/
def RenderCommand.parts : RenderCommand → List Ingredient
  | bind _ b | yield _ (.built b) => b.parts
  | yield _ (.plain e) => [.value e]

/-- A struct of its base and the values of its fields; of two fields with one name the later one counts. -/
def BuiltExpr.assemble (b : BuiltExpr) (base : String) (values : List Value) : Value :=
  .struct base (Assoc.ofList ((b.fields.map Prod.fst).zip values))

/-- How the value of a command is put together of those of its parts. -/
inductive RenderCommand.Assembles : RenderCommand → List Value → Value → Prop where
  | bind {x : NameId} {b : BuiltExpr} {base : String} {values : List Value} :
      Assembles (.bind x b) (.ofText base :: values) (b.assemble base values)
  | yield {x : NameId} {b : BuiltExpr} {base : String} {values : List Value} :
      Assembles (.yield x (.built b)) (.ofText base :: values) (b.assemble base values)
  | plain {x : NameId} {e : Expr} {v : Value} : Assembles (.yield x (.plain e)) [v] v

namespace Rendering

variable {names : NameTable} {s : Scopes} {v w u : Rendering} {part : Ingredient} {parts : List Ingredient}
  {value : Value} {values : List Value} {stop : BuildStop}

/-- All parts are evaluated, from left to right. -/
inductive Evaluates (names : NameTable) (s : Scopes) :
    List Ingredient → Rendering → List Value → Rendering → Prop where
  | nil {v : Rendering} : Evaluates names s [] v [] v
  | cons {part : Ingredient} {parts : List Ingredient} {v w u : Rendering} {value : Value}
      {values : List Value} (first : (part.eval names s).run v = (.ok value, w))
      (rest : Evaluates names s parts w values u) :
      Evaluates names s (part :: parts) v (value :: values) u

/-- The parts are evaluated from left to right up to the first one that stops. -/
inductive Stops (names : NameTable) (s : Scopes) :
    List Ingredient → Rendering → BuildStop → Rendering → Prop where
  | here {part : Ingredient} {parts : List Ingredient} {v u : Rendering} {stop : BuildStop}
      (stops : (part.eval names s).run v = (.error stop, u)) : Stops names s (part :: parts) v stop u
  | later {part : Ingredient} {parts : List Ingredient} {v w u : Rendering} {value : Value} {stop : BuildStop}
      (first : (part.eval names s).run v = (.ok value, w)) (rest : Stops names s parts w stop u) :
      Stops names s (part :: parts) v stop u

theorem evaluates_or_stops (names : NameTable) (s : Scopes) (parts : List Ingredient) (v : Rendering) :
    (∃ values u, Evaluates names s parts v values u) ∨ ∃ stop u, Stops names s parts v stop u := by
  induction parts generalizing v with
  | nil => exact .inl ⟨[], v, .nil⟩
  | cons part parts ih =>
    rcases first : (part.eval names s).run v with ⟨stop | value, w⟩
    · exact .inr ⟨stop, w, .here first⟩
    · rcases ih w with ⟨values, u, rest⟩ | ⟨stop, u, rest⟩
      · exact .inl ⟨value :: values, u, .cons first rest⟩
      · exact .inr ⟨stop, u, .later first rest⟩

/-! ### Values of commands -/

variable {α β : Type} {m : Building α} {f : α → Building β}

theorem run_bind_of_ok {a : α} (h : m.run v = (.ok a, w)) : (m >>= f).run v = (f a).run w := by
  rw [run_bind, h]

theorem run_bind_of_error (h : m.run v = (.error stop, w)) : (m >>= f).run v = (.error stop, w) := by
  rw [run_bind, h]

theorem of_run_return {g : α → β} (h : (m >>= fun a => pure (g a)).run v = (.error stop, w)) :
    m.run v = (.error stop, w) := by
  rw [run_bind] at h
  rcases hm : m.run v with ⟨e | a, u⟩
  · rw [hm] at h
    obtain ⟨same, rfl⟩ := Prod.mk.inj h
    rw [Except.error.inj same]
  · rw [hm] at h
    cases h

theorem buildField_eq (names : NameTable) (s : Scopes) (f : BuiltField) :
    buildField names s f = (Ingredient.ofField f).eval names s := by
  cases f <;> rfl

theorem run_buildFields_of_evaluates {fields : List (NameId × BuiltField)}
    (h : Evaluates names s (fields.map fun f => .ofField f.2) v values u) :
    (buildFields names s fields).run v = (.ok ((fields.map Prod.fst).zip values), u) := by
  induction fields generalizing v values with
  | nil =>
    cases h
    rfl
  | cons field fields ih =>
    cases h with
    | cons first rest =>
      rw [buildFields, buildField_eq, run_bind_of_ok first, run_bind_of_ok (ih rest)]
      rfl

theorem run_buildFields_of_stops {fields : List (NameId × BuiltField)}
    (h : Stops names s (fields.map fun f => .ofField f.2) v stop u) :
    (buildFields names s fields).run v = (.error stop, u) := by
  induction fields generalizing v with
  | nil => cases h
  | cons field fields ih =>
    rw [buildFields, buildField_eq]
    cases h with
    | here stops => exact run_bind_of_error stops
    | later first rest => rw [run_bind_of_ok first, run_bind_of_error (ih rest)]

/-- The text of a base. -/
def buildBase (names : NameTable) (s : Scopes) : BuiltBase → Building String
  | .text t => resolving (t.eval s)
  | .file b => buildFile names s b

theorem buildObject_eq (names : NameTable) (s : Scopes) (b : BuiltExpr) :
    buildObject names s b = (do
      let base ← buildBase names s b.base
      return .struct base (Assoc.ofList (← buildFields names s b.fields))) := by
  rw [buildObject]
  cases b.base <;> rfl

theorem eval_ofBase (names : NameTable) (s : Scopes) (base : BuiltBase) :
    (Ingredient.ofBase base).eval names s = (do return .ofText (← buildBase names s base)) := by
  cases base <;> rfl

theorem run_buildObject_of_evaluates {b : BuiltExpr} (h : Evaluates names s b.parts v values u) :
    ∃ base others, values = .ofText base :: others ∧
      (buildObject names s b).run v = (.ok (b.assemble base others), u) := by
  cases h with
  | cons first rest =>
    rw [eval_ofBase] at first
    obtain ⟨base, w, base_run, ends⟩ := exists_of_run_bind first
    obtain ⟨same, rfl⟩ := Prod.mk.inj ends
    obtain rfl := Except.ok.inj same
    refine ⟨base, _, rfl, ?_⟩
    rw [buildObject_eq, run_bind_of_ok base_run, run_bind_of_ok (run_buildFields_of_evaluates rest)]
    rfl

theorem run_buildObject_of_stops {b : BuiltExpr} (h : Stops names s b.parts v stop u) :
    (buildObject names s b).run v = (.error stop, u) := by
  rw [buildObject_eq]
  cases h with
  | here stops =>
    rw [eval_ofBase] at stops
    exact run_bind_of_error (of_run_return stops)
  | later first rest =>
    rw [eval_ofBase] at first
    obtain ⟨base, w, base_run, ends⟩ := exists_of_run_bind first
    obtain ⟨-, rfl⟩ := Prod.mk.inj ends
    rw [run_bind_of_ok base_run, run_bind_of_error (run_buildFields_of_stops rest)]

/-- **The value of a command is put together of the values of its parts.** -/
theorem run_valueOf_of_evaluates {c : RenderCommand} (h : Evaluates names s c.parts v values u) :
    ∃ value, c.Assembles values value ∧ (valueOf names s c).run v = (.ok value, u) := by
  cases c with
  | bind x b =>
    obtain ⟨base, others, rfl, built⟩ := run_buildObject_of_evaluates h
    exact ⟨_, .bind, built⟩
  | yield x product =>
    cases product with
    | built b =>
      obtain ⟨base, others, rfl, built⟩ := run_buildObject_of_evaluates h
      exact ⟨_, .yield, built⟩
    | plain e =>
      cases h with
      | cons first rest =>
        cases rest
        exact ⟨_, .plain, first⟩

/-- **What stops a part of a command stops the command.** -/
theorem run_valueOf_of_stops {c : RenderCommand} (h : Stops names s c.parts v stop u) :
    (valueOf names s c).run v = (.error stop, u) := by
  cases c with
  | bind x b => exact run_buildObject_of_stops h
  | yield x product =>
    cases product with
    | built b => exact run_buildObject_of_stops h
    | plain e =>
      cases h with
      | here stops => exact stops
      | later _ rest => cases rest

/-! ### What building leaves alone -/

/-- The renderer goes on: it reports nothing, its output directory stays, and what it has rendered stays on
record. -/
structure Onward (v u : Rendering) : Prop where
  faults : u.renderer.faults = v.renderer.faults
  output : u.renderer.output = v.renderer.output
  rendered : v.renderer.rendered <+: u.renderer.rendered

theorem onward_of_renderer_eq (same : u.renderer = v.renderer) : v.Onward u :=
  ⟨congrArg _ same, congrArg _ same, same ▸ List.prefix_refl _⟩

theorem Onward.refl (v : Rendering) : v.Onward v := onward_of_renderer_eq rfl

theorem Onward.trans (first : v.Onward w) (rest : w.Onward u) : v.Onward u where
  faults := rest.faults.trans first.faults
  output := rest.output.trans first.output
  rendered := first.rendered.trans rest.rendered

theorem upheld_onward (v : Rendering) : Upheld v.Onward where
  disk _ onward := onward.trans (onward_of_renderer_eq rfl)
  ask _ onward := onward.trans ⟨rfl, rfl, List.prefix_refl _⟩
  render _ _ _ onward := onward.trans ⟨rfl, rfl, List.prefix_append _ _⟩

/-- Whether or not building stops, the renderer has gone on, and a file that is not rendered fails in some
ways only. -/
def GoesOn (F : RenderFault → Prop) (m : Building α) (v : Rendering) : Prop :=
  Ensures v.Onward (fun stop => ∀ f, stop = .fault f → F f) m v

theorem goesOn_buildFile (names : NameTable) (s : Scopes) (b : Build) (v : Rendering) :
    GoesOn (fun f => (Ingredient.file b).Fails s v.renderer.output f) (buildFile names s b) v := by
  have here := Onward.refl v
  refine ensures_resolving_bind here (fun _ _ => nofun) (fun _ => nofun) fun template template_eq => ?_
  refine ensures_resolving_bind here (fun _ _ => nofun) (fun _ => nofun) fun output output_eq => ?_
  refine ensures_build (upheld_onward v) (fun _ _ => nofun) (fun _ _ _ => nofun) names s
    template output ?_ here
  intro stage cause f same
  obtain rfl := BuildStop.fault.inj same
  exact ⟨template_eq, output, output_eq, rfl⟩

/-- **Evaluating a part reports nothing**, and fails only if the part is a file that is not rendered. -/
theorem goesOn_eval (names : NameTable) (s : Scopes) (part : Ingredient) (v : Rendering) :
    GoesOn (fun f => part.Fails s v.renderer.output f) (part.eval names s) v := by
  have here := Onward.refl v
  cases part with
  | text t => exact ensures_resolving_bind here (fun _ _ => nofun) (fun _ => nofun) fun _ _ => ensures_pure _ here
  | value e =>
    rw [Ingredient.eval]
    cases e.eval s with
    | ok value => exact ensures_pure value here
    | error e => cases e <;> exact ensures_throw here nofun
  | file b => exact (goesOn_buildFile names s b v).bind fun _ u onward => ensures_pure _ onward

theorem onward_of_eval {r : Except BuildStop Value} (h : (part.eval names s).run v = (r, u)) :
    v.Onward u := by
  have onward := (goesOn_eval names s part v).state
  rwa [h] at onward

theorem onward_of_evaluates (h : Evaluates names s parts v values u) : v.Onward u := by
  induction h with
  | nil => exact .refl _
  | cons first _ ih => exact (onward_of_eval first).trans ih

theorem onward_of_stops (h : Stops names s parts v stop u) : v.Onward u := by
  induction h with
  | here stops => exact onward_of_eval stops
  | later first _ ih => exact (onward_of_eval first).trans ih

/-- The failure that stops the parts is that of one of them. -/
theorem exists_fails_of_stops {f : RenderFault} (h : Stops names s parts v (.fault f) u) :
    ∃ part ∈ parts, part.Fails s v.renderer.output f := by
  generalize at_ : BuildStop.fault f = stop at h
  induction h with
  | @here part _ v u _ stops =>
    subst at_
    exact ⟨part, List.mem_cons_self, (goesOn_eval names s part v).stop _ (by rw [stops]) f rfl⟩
  | @later part _ v w u _ _ first _ ih =>
    obtain ⟨failing, mem, fails⟩ := ih at_
    exact ⟨failing, List.mem_cons_of_mem part mem, (onward_of_eval first).output ▸ fails⟩

/-! ### Commands -/

/-- Where a command puts its value: in the innermost scope, or behind the elements of a list in the outermost
one. -/
def Puts (s : Scopes) (value : Value) (s' : Scopes) : RenderCommand → Prop
  | .bind x _ => s.Rebinds (s.length - 1) x value s'
  | .yield x _ => s.Rebinds 0 x (.list (s.rootItems x ++ [value])) s'

theorem puts_place (s : Scopes) (value : Value) (c : RenderCommand) : Puts s value (place s value c) c := by
  cases c with
  | bind x b => exact s.rebinds_bind x value
  | yield x product => exact s.rebinds_yield x value

/-- **A command of a template program takes effect as a whole or not at all.**  Its parts, base and fields,
are evaluated from left to right until one of them stops, whatever files there are and whatever the engine
says of templates.  If none does, the value that is put together of theirs is bound in the innermost scope or
appended in the outermost one, no other binding changes and nothing is reported.  If a file is not rendered, the scopes are as they were, its failure
is reported and nothing else, and the program goes on.  If something does not resolve, or the program crashes,
the scopes and the reports are as they were.  Files that were rendered before stay on record. -/
theorem execute_all_or_nothing (names : NameTable) (c : RenderCommand) (s : Scopes) (v : Rendering) :
    (∀ values u, Evaluates names s c.parts v values u →
      ∃ value s', c.Assembles values value ∧ execute names c s v = (.ok (), s', u) ∧ Puts s value s' c ∧
        u.renderer.faults = v.renderer.faults) ∧
    (∀ f u, Stops names s c.parts v (.fault f) u →
      ∃ u', execute names c s v = (.ok (), s, u') ∧ u'.renderer.faults = v.renderer.faults ++ [f] ∧
        u'.renderer.rendered = u.renderer.rendered ∧
        ∃ part ∈ c.parts, part.Fails s v.renderer.output f) ∧
    (∀ e u, Stops names s c.parts v (.access e) u →
      execute names c s v = (.error (.access e), s, u) ∧ u.renderer.faults = v.renderer.faults) ∧
    (∀ crash u, Stops names s c.parts v (.crash crash) u →
      execute names c s v = (.error (.crash crash), s, u) ∧ u.renderer.faults = v.renderer.faults) ∧
    ((∃ values u, Evaluates names s c.parts v values u) ∨ ∃ stop u, Stops names s c.parts v stop u) := by
  refine ⟨fun values u all => ?_, fun f u fails => ?_, fun e u fails => ?_, fun crash u fails => ?_,
    evaluates_or_stops names s c.parts v⟩
  · obtain ⟨value, assembles, built⟩ := run_valueOf_of_evaluates all
    refine ⟨value, place s value c, assembles, ?_, puts_place s value c, (onward_of_evaluates all).faults⟩
    rw [execute, built]
  · refine ⟨report f u, ?_, ?_, rfl, exists_fails_of_stops fails⟩
    · rw [execute, run_valueOf_of_stops fails]
    · exact congrArg (· ++ [f]) (onward_of_stops fails).faults
  · refine ⟨?_, (onward_of_stops fails).faults⟩
    rw [execute, run_valueOf_of_stops fails]
  · refine ⟨?_, (onward_of_stops fails).faults⟩
    rw [execute, run_valueOf_of_stops fails]

/-- A file that is rendered, a copy of a variable, and another file. -/
def reportOn (template : String) : BuiltExpr where
  base := .file ⟨[.literal "t"], [.literal "o"]⟩
  fields := [(1, .value (.copy (.last 2 .whole))), (3, .file ⟨[.literal template], [.literal "p"]⟩)]

/-- A renderer with one template, which is empty. -/
def withOneTemplate : Rendering where
  renderer := { output := ⟨.relative, ["out"]⟩, includes := [⟨.relative, []⟩], engine := .plain }
  world := { (default : World) with disk := [(⟨.workspace, ["t"]⟩, .file [])] }

/-- Everything can be evaluated, and the value is appended; then the last file has no template. -/
theorem execute_all_or_nothing_reportOn :
    let s : Scopes := [[(0, .list [.ofText "a"]), (2, .ofText "c")], []]
    let c (template : String) : RenderCommand := .yield 0 (.built (reportOn template))
    (∃ u, Evaluates default s (c "t").parts withOneTemplate
        [.ofText "out/o", .ofText "c", .ofText "out/p"] u ∧
      ∃ s', execute default (c "t") s withOneTemplate = (.ok (), s', u) ∧ s'.binding 0 0
          = .ok (.list [.ofText "a", .struct "out/o" [(1, .ofText "c"), (3, .ofText "out/p")]]) ∧
        u.renderer.faults = []) ∧
    ∃ f u, Stops default s (c "x").parts withOneTemplate (.fault f) u ∧ f.output = "out/p" ∧
      ∃ u', execute default (c "x") s withOneTemplate = (.ok (), s, u') ∧ u'.renderer.faults = [f] ∧
        u'.renderer.rendered = ["out/o"] := by
  intro s c
  constructor
  · have all : ∃ u, Evaluates default s (c "t").parts withOneTemplate
        [.ofText "out/o", .ofText "c", .ofText "out/p"] u := ⟨_, .cons rfl (.cons rfl (.cons rfl .nil))⟩
    obtain ⟨u, all⟩ := all
    obtain ⟨value, s', assembles, ran, puts, quiet⟩ := (execute_all_or_nothing default _ s _).1 _ u all
    cases assembles with
    | yield => exact ⟨u, all, s', ran, puts.here, quiet⟩
  · obtain ⟨f, u, fails, at_, rendered⟩ : ∃ f u, Stops default s (c "x").parts withOneTemplate (.fault f) u ∧
        f.output = "out/p" ∧ u.renderer.rendered = ["out/o"] :=
      ⟨_, _, .later rfl (.later rfl (.here rfl)), rfl, rfl⟩
    obtain ⟨u', ran, reported, kept, -⟩ := (execute_all_or_nothing default _ s _).2.1 f u fails
    exact ⟨f, u, fails, at_, u', ran, reported, kept.trans rendered⟩

end Rendering

end Sweep
