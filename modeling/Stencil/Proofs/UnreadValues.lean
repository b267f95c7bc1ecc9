import Stencil.Proofs.ConstantValues
import Stencil.Proofs.Escaping

/-!
# Values that are not read

Without remembered outputs a render sees nothing of a value map but the values under the roots of the
placeholders. Two maps that agree there cannot be told apart, whatever else they hold and however they
came about.

* `render_sameRoots`: two such maps give one render, the engine behind it included;
* `turns_sameReads`: two runs whose requests read the same are in the same states all along;
* `unread_values_unseen`: so it is in every state an engine can be in.
-/

namespace Stencil

namespace Engine

variable {e : Engine} {values values' : ValueMap} {template : String}

/-! ## 1. Renders -/

/-- Remembered segments are those of the reading, so they have the same roots. -/
theorem renderCompiled_sameRoots (sound : e.CompiledSound)
    (same : (scan template).SameRoots values values') :
    e.renderCompiled template values' = e.renderCompiled template values := by
  unfold renderCompiled
  cases found : e.compiled.find? ⟨template⟩ with
  | some segments =>
    dsimp only
    rw [← sound.scan_eq found, evaluate_sameRoots same]
  | none =>
    dsimp only
    cases complete : (scan template).complete with
    | error fault =>
      dsimp only
      rw [evaluate_sameRoots same]
    | ok segments =>
      have whole := Scan.eq_map_ok_of_complete complete
      dsimp only
      rw [← whole, evaluate_sameRoots same]

/-- **Two maps that agree under the roots of a template give one render of it**, the engine behind it
included. -/
theorem render_sameRoots (mode : e.config.renderCache ≠ .output) (sound : e.CompiledSound)
    (same : (scan template).SameRoots values values') :
    e.render template values' = e.render template values := by
  unfold render
  cases kind : e.config.renderCache with
  | output => exact absurd kind mode
  | compiled => exact renderCompiled_sameRoots sound same
  | disabled => exact evaluate_sameRoots same e

end Engine

/-! ## 2. Runs -/

/-- Two requests that read the same: they are alike but for the values, and these agree under the roots
of what is read. -/
inductive Call.SameReads : Call → Call → Prop where
  | render {template : String} {values values' : ValueMap}
      (same : (scan template).SameRoots values values') :
      SameReads (.render template values) (.render template values')
  | renderOpt {template : Option String} {values values' : Option ValueMap}
      (same : ∀ t ∈ template, (scan t).SameRoots (values.getD .empty) (values'.getD .empty)) :
      SameReads (.renderOpt template values) (.renderOpt template values')
  | resolve {expression : String} {values values' : ValueMap}
      (same : ∀ path, Path.parse? expression = some path →
        values'.find? path.root = values.find? path.root) :
      SameReads (.resolve expression values) (.resolve expression values')

namespace Engine

variable {e : Engine}

theorem perform_sameReads (mode : e.config.renderCache ≠ .output) (sound : e.CompiledSound)
    {c c' : Call} (same : c.SameReads c') : c'.perform e = c.perform e := by
  cases same with
  | render same => rw [Call.perform, Call.perform, render_sameRoots mode sound same]
  | @renderOpt template values values' same =>
    cases template with
    | none => rfl
    | some template =>
      rw [Call.perform, Call.perform, renderOpt, renderOpt, render_sameRoots mode sound (same _ rfl)]
  | resolve same => rw [Call.perform, Call.perform, resolve_sameRoot same]

/-- **Two runs whose requests read the same are in the same states and answer the same all along**, by
induction over the requests: behind each of them both runs are in one state. -/
theorem turns_sameReads {config : Config} (mode : config.renderCache ≠ .output)
    (reachable : e.Reachable config) {calls calls' : List Call}
    (same : List.Forall₂ Call.SameReads calls calls') (civil : ∀ c ∈ calls, c.Civil) :
    List.Forall₂ (fun t u => u.before = t.before ∧ u.answer = t.answer ∧ u.after = t.after)
      (turns calls e) (turns calls' e) := by
  induction same generalizing e with
  | nil => exact .nil
  | @cons c c' calls calls' reads rest ih =>
    obtain ⟨first, others⟩ := List.forall_mem_cons.mp civil
    have once := perform_sameReads (reachable.config ▸ mode) reachable.literally.templates reads
    rw [turns, turns, once]
    exact .cons ⟨rfl, rfl, rfl⟩ (ih (reachable.request first) others)

end Engine

/-- **Values that no placeholder starts from are not seen.** Let an engine that does not remember outputs
be in any state that it can be in, and let two value maps hold the same, or both nothing, under every
root of a template's placeholders. Then rendering the template with either is one and the same: the text
or the error, the questions put to hosts, what is remembered behind it and what is reported. -/
theorem unread_values_unseen {config : Config} (mode : config.renderCache ≠ .output) {e : Engine}
    (reachable : e.Reachable config) {template : String} {values values' : ValueMap}
    (same : (scan template).SameRoots values values') :
    e.render template values' = e.render template values :=
  Engine.render_sameRoots (reachable.config ▸ mode) reachable.literally.templates same

/-- The door came in behind another value and over an earlier one. -/
def lobbyValues : ValueMap :=
  ((ValueMap.empty.insert "c" .null).insert "a" (.bool true)).insert "a" (door 0 "left")

theorem civil_hallValues : (hallValues .null).All Value.Civil := by
  have civil : (door 0 "left").Civil := by
    refine Value.civil_ofTable ?_ ..
    simp only [doorTable, List.forall_mem_cons]
    exact ⟨TableEntry.civil_holding (.string "left") .., TableEntry.civil_holding (.bool true) ..,
      List.forall_mem_nil _⟩
  exact (ValueMap.all_empty.insert civil "a").insert .null "b"

/-- An engine behind a render that remembers the template. -/
def hallEngine : Engine :=
  ((Call.render "{a.name}" (hallValues .null)).perform
    (.ofConfig (Config.default.withRenderCache .compiled))).2

theorem unread_values_unseen_hall :
    (Config.default.withRenderCache .compiled).renderCache ≠ .output ∧
    hallEngine.Reachable (Config.default.withRenderCache .compiled) ∧
    (scan "{a.name}").SameRoots (hallValues .null) lobbyValues ∧
    hallEngine.render "{a.name}" lobbyValues = hallEngine.render "{a.name}" (hallValues .null) := by
  have mode : (Config.default.withRenderCache .compiled).renderCache ≠ .output := by decide
  have reachable : hallEngine.Reachable (Config.default.withRenderCache .compiled) :=
    .request .start civil_hallValues
  have same : (scan "{a.name}").SameRoots (hallValues .null) lobbyValues := by
    intro root reads
    rw [Scan.root_of_eq scan_name rfl reads]
    rfl
  exact ⟨mode, reachable, same, unread_values_unseen mode reachable same⟩

end Stencil
