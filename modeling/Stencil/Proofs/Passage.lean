import Stencil.Proofs.CivilHosts

/-!
# What requests carry through

Many things that hold between an engine and a later state of it hold of any stretch of work: that
an invariant is kept, or that the later state can be reached by steps of some kind. `Passage P` says
of a relation `P` what it takes for that. It holds where the tables of templates stay as they are,
it goes on from state to state, and a render carries it when the evaluation inside the render does.

* `Passage.evaluate`, `Passage.resolve`: evaluating a template and resolving a path then carry it,
  as long as the hosts do;
* `Passage.perform`: so every request carries it when its hosts are civil, with all the requests
  they nest;
* `Reachable`: the states an engine can be in, in the midst of requests too. In all of them it has
  the configuration it started with (`Reachable.config`); `invariant_reachable` says what else holds.
-/

namespace Stencil

namespace Engine

/-! ## 1. Passages -/

/-- A relation between an engine and later states of it that requests carry through. -/
structure Passage (P : Engine → Engine → Prop) : Prop where
  kept : ∀ {e s}, Kept e s → P e s
  trans : ∀ {e s t}, P e s → P s t → P e t
  render : ∀ {values}, (∀ items e, P e (evaluate values items e).2) →
    ∀ template e, P e (e.render template values).2

/-- Reading from the value carries the relation through, and so it is with the values it answers
with. -/
inductive Steady (P : Engine → Engine → Prop) : Value → Prop where
  | null : Steady P .null
  | bool (b : Bool) : Steady P (.bool b)
  | number (n : Number) : Steady P (.number n)
  | string (s : String) : Steady P (.string s)
  | object (o : Object Value) (reads : ∀ a e, P e (o.invoke a e).2)
      (answers : ∀ a e v, (o.invoke a e).1 = .ok v → Steady P v) : Steady P (.object o)

theorem kept_lookup (r : Object Value) (token name : String) (kind : AccessKind) (e : Engine) :
    Kept e (e.lookup r token name kind).2 := by
  unfold lookup
  dsimp only
  cases e.accessors.find? ⟨r.typeKey, token⟩ with
  | some a => exact ⟨rfl, rfl, rfl⟩
  | none =>
    dsimp only
    cases r.resolve name kind with
    | none => exact ⟨rfl, rfl, rfl⟩
    | some a => exact ⟨rfl, rfl, rfl⟩

namespace Passage

variable {P : Engine → Engine → Prop} (passage : Passage P)
include passage

theorem refl (e : Engine) : P e e := passage.kept (.refl e)

/-- Where a step reads from a steady value, the reading carries the relation through. -/
theorem receiver {v : Value} (steady : Steady P v) {r : Object Value} (hr : v.receiver? = some r) :
    (∀ a e, P e (r.invoke a e).2) ∧ ∀ a e w, (r.invoke a e).1 = .ok w → Steady P w := by
  cases steady with
  | null | bool | number => cases hr
  | string s =>
    cases hr
    exact ⟨fun a e => passage.refl e, fun a e w hw => of_readText .bool .number .string hw⟩
  | object o reads answers =>
    cases hr
    exact ⟨reads, answers⟩

/-- From one start, an engine and itself go on in step with what is carried through. -/
theorem simulation (e₀ : Engine) :
    Simulation (fun e e' => e' = e ∧ P e₀ e) (Steady P) where
  rights := by
    rintro _ e ⟨rfl, -⟩
    exact rfl
  lookup := by
    rintro v r token name kind _ e - - - ⟨rfl, through⟩
    exact ⟨rfl, trivial, rfl, passage.trans through (passage.kept (kept_lookup ..))⟩
  invoke := by
    rintro v r _ e steady hr ⟨rfl, through⟩ a
    obtain ⟨reads, answers⟩ := passage.receiver steady hr
    have noted : P e₀ (e.note (.invoke r.typeKey r.identity a)) :=
      passage.trans through (passage.kept ⟨rfl, rfl, rfl⟩)
    exact ⟨rfl, fun w hw => answers a _ w hw, rfl, passage.trans noted (reads a _)⟩

/-! ## 2. Requests -/

variable {values : ValueMap} (steady : values.All (Steady P))
include steady

theorem evaluate (items : Scan) (e : Engine) : P e (Engine.evaluate values items e).2 :=
  ((passage.simulation e).evaluate steady items ⟨rfl, passage.refl e⟩).state.2

theorem resolve (expression : String) (e : Engine) : P e (e.resolve expression values).2 :=
  ((passage.simulation e).resolve steady expression ⟨rfl, passage.refl e⟩).state.2

omit steady in
theorem perform_steady {c : Call} (steady : c.values.All (Steady P)) (e : Engine) :
    P e (c.perform e).2 := by
  rcases c.perform_cases with ⟨template, -, hp⟩ | ⟨-, hp⟩ | ⟨-, expression, hp⟩
  · rw [hp]
    exact passage.render (passage.evaluate steady) template e
  · rw [hp]
    exact passage.refl e
  · rw [hp]
    exact passage.resolve steady expression e

omit steady in
theorem performAll_steady {calls : List Call} (steady : ∀ c ∈ calls, c.values.All (Steady P))
    (e : Engine) : P e (e.performAll calls) := by
  induction calls generalizing e with
  | nil => exact passage.refl e
  | cons c calls ih =>
    obtain ⟨first, rest⟩ := List.forall_mem_cons.mp steady
    exact passage.trans (passage.perform_steady first e) (ih rest _)

omit steady in
/-- **Civil hosts carry through what requests do**, by induction over the requests they nest. -/
theorem steady_of_civil {v : Value} (h : v.Civil) : Steady P v := by
  induction h with
  | null => exact .null
  | bool b => exact .bool b
  | number n => exact .number n
  | string s => exact .string s
  | object o requests reads _ _ brings answers =>
    refine .object o (fun a e => ?_) answers
    rw [reads]
    exact passage.performAll_steady (brings a e) e

omit steady in
theorem evaluate_civil (civil : values.All Value.Civil) (items : Scan) (e : Engine) :
    P e (Engine.evaluate values items e).2 :=
  passage.evaluate (civil.mono fun _ => passage.steady_of_civil) items e

omit steady in
/-- **With civil hosts every request carries the relation through.** -/
theorem perform {c : Call} (civil : c.Civil) (e : Engine) : P e (c.perform e).2 :=
  passage.perform_steady (civil.mono fun _ => passage.steady_of_civil) e

end Passage

/-! ## 3. Reachable states -/

/-- The states that an engine of a configuration can be in: at the start, behind a request with
civil hosts, and in the midst of one, where only accessors and the journal have changed since. -/
inductive Reachable (config : Config) : Engine → Prop where
  | start : Reachable config (ofConfig config)
  | request {e : Engine} (before : Reachable config e) {c : Call} (civil : c.Civil) :
      Reachable config (c.perform e).2
  | midst {e s : Engine} (before : Reachable config e) (kept : Kept e s) : Reachable config s

/-- No request changes the configuration. -/
theorem Reachable.config {config : Config} {e : Engine} (reachable : Reachable config e) :
    e.config = config := by
  induction reachable with
  | start => rfl
  | request _ civil same => exact (perform_leads civil _).config.trans same
  | midst _ kept same => exact kept.config.trans same

/-- **What holds at the start and is carried through holds in every reachable state.** -/
theorem invariant_reachable {Inv : Engine → Prop} (passage : Passage fun e s => Inv e → Inv s)
    {config : Config} (start : Inv (ofConfig config)) {e : Engine}
    (reachable : Reachable config e) : Inv e := by
  induction reachable with
  | start => exact start
  | request _ civil holds => exact passage.perform civil _ holds
  | midst _ kept holds => exact passage.kept kept holds

end Engine

end Stencil
