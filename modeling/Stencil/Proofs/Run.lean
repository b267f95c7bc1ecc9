import Mathlib.Data.List.Forall2
import Stencil.Engine.Render

/-!
# Runs of an engine

A program puts requests to one engine, one after the other. A run is the list of its turns: each
request with the engine before it, the answer, and the engine after it.

`mem_turns` says what a turn is. `history_turns` and `invariant_turns` carry what one turn keeps to
all turns of a run, with a look at the turns before it or without; `forall₂_turns` does so for the
runs of two engines.
-/

namespace Stencil

/-! ## 1. Requests -/

/-- A request to an engine. -/
inductive Call where
  | render (template : String) (values : ValueMap)
  | renderOpt (template : Option String) (values : Option ValueMap)
  | resolve (expression : String) (values : ValueMap)

/-- What an engine gives when a request succeeds. -/
inductive Reply where
  | text (s : String)
  /-- There was no template, so there is no text. -/
  | absent
  | value (v : Value)

/-- What an engine answers to a request. -/
abbrev Answer := Except RenderError Reply

namespace Call

/-- The answer to a request, and the engine after it. -/
def perform : Call → Engine → Answer × Engine
  | render template values, e => ((e.render template values).1.map .text, (e.render template values).2)
  | renderOpt template values, e =>
    ((e.renderOpt template values).1.map (·.elim .absent .text), (e.renderOpt template values).2)
  | resolve expression values, e =>
    ((e.resolve expression values).1.map .value, (e.resolve expression values).2)

/-- The template and the values a request renders, if it renders. -/
def request? : Call → Option (String × ValueMap)
  | render template values => some (template, values)
  | renderOpt template values => template.map (·, values.getD .empty)
  | resolve .. => none

/-- The values that come with a request. -/
def values : Call → ValueMap
  | render _ values | resolve _ values => values
  | renderOpt _ values => values.getD .empty

/-- **A request renders a template with its values, or does nothing, or resolves a path in its
values.** -/
theorem perform_cases (c : Call) :
    (∃ template, c.request? = some (template, c.values) ∧ ∀ e, c.perform e =
      ((e.render template c.values).1.map .text, (e.render template c.values).2)) ∨
    (c.request? = none ∧ ∀ e, c.perform e = (.ok .absent, e)) ∨
    (c.request? = none ∧ ∃ expression, ∀ e, c.perform e =
      ((e.resolve expression c.values).1.map .value, (e.resolve expression c.values).2)) := by
  cases c with
  | render template values => exact Or.inl ⟨template, rfl, fun e => rfl⟩
  | resolve expression values => exact Or.inr (Or.inr ⟨rfl, expression, fun e => rfl⟩)
  | renderOpt template values =>
    cases template with
    | none => exact Or.inr (Or.inl ⟨rfl, fun e => rfl⟩)
    | some template =>
      refine Or.inl ⟨template, rfl, fun e => ?_⟩
      simp only [perform, Engine.renderOpt, Call.values]
      rcases e.render template (values.getD .empty) with ⟨_ | _, _⟩ <;> rfl

/-- A request that renders answers what the render answers. -/
theorem perform_of_request? {c : Call} {template : String} {values : ValueMap}
    (h : c.request? = some (template, values)) : values = c.values ∧ ∀ e, c.perform e =
      ((e.render template values).1.map .text, (e.render template values).2) := by
  rcases c.perform_cases with ⟨t, hc, hp⟩ | ⟨hc, -⟩ | ⟨hc, -⟩
  · rw [hc] at h
    cases h
    exact ⟨rfl, hp⟩
  · rw [hc] at h
    cases h
  · rw [hc] at h
    cases h

end Call

/-! ## 2. Turns -/

/-- One request of a run. -/
structure Turn where
  call : Call
  before : Engine
  answer : Answer
  after : Engine

/-- The turns of a run that starts from an engine. -/
def turns : List Call → Engine → List Turn
  | [], _ => []
  | c :: calls, e => ⟨c, e, (c.perform e).1, (c.perform e).2⟩ :: turns calls (c.perform e).2

namespace Turn

/-- The turn is what the engine before it makes of its request. -/
def Faithful (t : Turn) : Prop := t.call.perform t.before = (t.answer, t.after)

end Turn

theorem mem_turns {calls : List Call} {e : Engine} {t : Turn} (h : t ∈ turns calls e) :
    t.call ∈ calls ∧ t.Faithful := by
  induction calls generalizing e with
  | nil => cases h
  | cons c calls ih =>
    rcases List.mem_cons.mp h with rfl | h
    · exact ⟨List.mem_cons_self, rfl⟩
    · obtain ⟨hc, ht⟩ := ih h
      exact ⟨List.mem_cons_of_mem _ hc, ht⟩

/-- **What holds of the past and the engine at the start, and goes on to hold with every turn, holds
around every turn of a run.** -/
theorem history_turns (Inv : List Turn → Engine → Prop) {calls : List Call}
    (step : ∀ past t, t.call ∈ calls → t.Faithful → Inv past t.before → Inv (past ++ [t]) t.after)
    {e : Engine} (start : Inv [] e) {earlier later : List Turn} {t : Turn}
    (run : turns calls e = earlier ++ t :: later) :
    Inv earlier t.before ∧ Inv (earlier ++ [t]) t.after := by
  -- the induction is on what is still to be asked, behind any past
  suffices general : ∀ rest, rest ⊆ calls → ∀ past s, Inv past s → ∀ earlier,
      turns rest s = earlier ++ t :: later →
        Inv (past ++ earlier) t.before ∧ Inv (past ++ earlier ++ [t]) t.after from
    general calls (List.Subset.refl calls) [] e start earlier run
  intro rest
  induction rest with
  | nil =>
    intro _ past s _ earlier run
    rw [turns] at run
    cases earlier <;> cases run
  | cons c rest ih =>
    intro sub past s holds earlier run
    rw [turns] at run
    have next := step past ⟨c, s, (c.perform s).1, (c.perform s).2⟩ (sub List.mem_cons_self) rfl holds
    cases earlier with
    | nil =>
      obtain ⟨rfl, -⟩ := List.cons.inj run
      rw [List.append_nil]
      exact ⟨holds, next⟩
    | cons first earlier =>
      obtain ⟨rfl, tail⟩ := List.cons.inj run
      rw [List.append_cons]
      exact ih (List.subset_of_cons_subset sub) _ _ next earlier tail

/-- **What every request keeps holds before and after every turn.** -/
theorem invariant_turns (Inv : Engine → Prop) {calls : List Call}
    (step : ∀ c ∈ calls, ∀ e, Inv e → Inv (c.perform e).2) {e : Engine} (start : Inv e) {t : Turn}
    (h : t ∈ turns calls e) : Inv t.before ∧ Inv t.after := by
  obtain ⟨earlier, later, run⟩ := List.append_of_mem h
  refine history_turns (fun _ => Inv) (fun past t hc faithful holds => ?_) start run
  have next := step t.call hc t.before holds
  rw [faithful] at next
  exact next

/-- **What one request gives two related engines, and keeps them related by, holds turn by turn of
the runs of both.** -/
theorem forall₂_turns (R : Engine → Engine → Prop) {S : Turn → Turn → Prop} {calls : List Call}
    (step : ∀ c ∈ calls, ∀ e d, R e d →
      S ⟨c, e, (c.perform e).1, (c.perform e).2⟩ ⟨c, d, (c.perform d).1, (c.perform d).2⟩ ∧
        R (c.perform e).2 (c.perform d).2)
    {e d : Engine} (start : R e d) : List.Forall₂ S (turns calls e) (turns calls d) := by
  induction calls generalizing e d with
  | nil => exact .nil
  | cons c calls ih =>
    obtain ⟨first, rest⟩ := List.forall_mem_cons.mp step
    obtain ⟨now, next⟩ := first e d start
    exact .cons now (ih rest next)

end Stencil
