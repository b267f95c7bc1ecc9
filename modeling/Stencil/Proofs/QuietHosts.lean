import Stencil.Proofs.Contract
import Stencil.Proofs.Simulation

/-!
# Hosts that leave the engine alone

With quiet hosts all that evaluation takes from an engine is what paths may access and which
accessors are remembered, and all that it changes is the accessors and the journal:

* `evaluate_quiet`, `resolve_quiet`: engines that are `Alike` answer alike, put the same questions
  to the same hosts and stay alike, and each keeps its configuration and the tables of templates.

Nothing is asked of how a host resolves names: two hosts of one type may differ in it.
-/

namespace Stencil

namespace Engine

/-! ## 1. Engines alike -/

/-- Two engines allow the same accesses, remember the same accessors and have put the same
questions to hosts. -/
structure Alike (e e' : Engine) : Prop where
  rights : SameRights e e'
  accessors : e'.accessors = e.accessors
  calls : e'.calls = e.calls

namespace Alike

theorem refl (e : Engine) : Alike e e := ⟨rfl, rfl, rfl⟩

theorem symm {e e' : Engine} (h : Alike e e') : Alike e' e :=
  ⟨h.rights.symm, h.accessors.symm, h.calls.symm⟩

theorem trans {e e' e'' : Engine} (h : Alike e e') (h' : Alike e' e'') : Alike e e'' :=
  ⟨h'.rights.trans h.rights, h'.accessors.trans h.accessors, h'.calls.trans h.calls⟩

theorem report (e : Engine) (event : Event) : Alike e (e.report event) := ⟨rfl, rfl, rfl⟩

end Alike

/-- The engine has the configuration and the tables of templates of another one. -/
structure Kept (e₀ e : Engine) : Prop where
  config : e.config = e₀.config
  rendered : e.rendered = e₀.rendered
  compiled : e.compiled = e₀.compiled

theorem Kept.refl (e : Engine) : Kept e e := ⟨rfl, rfl, rfl⟩

theorem Kept.trans {e₀ e s : Engine} (h : Kept e₀ e) (h' : Kept e s) : Kept e₀ s :=
  ⟨h'.config.trans h.config, h'.rendered.trans h.rendered, h'.compiled.trans h.compiled⟩

theorem Kept.report (e : Engine) (event : Event) : Kept e (e.report event) := ⟨rfl, rfl, rfl⟩

/-- Alike, and each with what it keeps. -/
def InStep (e₀ e₀' e e' : Engine) : Prop := Alike e e' ∧ Kept e₀ e ∧ Kept e₀' e'

/-- Two engines stay in step when they change their accessors and their questions alike and
nothing that they keep. -/
theorem InStep.next {e₀ e₀' e e' s s' : Engine} (h : InStep e₀ e₀' e e') (kept : Kept e s)
    (kept' : Kept e' s') (accessors : s'.accessors = s.accessors) (calls : s'.calls = s.calls) :
    InStep e₀ e₀' s s' := by
  have rights := h.1.rights.of_config kept.config kept'.config
  exact ⟨⟨rights, accessors, calls⟩, h.2.1.trans kept, h.2.2.trans kept'⟩

theorem agree_lookup {e₀ e₀' e e' : Engine} (h : InStep e₀ e₀' e e') (r : Object Value)
    (token name : String) (kind : AccessKind) :
    Agree (InStep e₀ e₀') (fun _ => True) (e.lookup r token name kind)
      (e'.lookup r token name kind) := by
  have accessors := h.1.accessors
  have calls := h.1.calls
  have noted : e'.calls.cons (.resolve r.typeKey r.identity kind name) =
      e.calls.cons (.resolve r.typeKey r.identity kind name) := by rw [calls]
  unfold lookup
  dsimp only
  rw [accessors]
  cases e.accessors.find? ⟨r.typeKey, token⟩ with
  | some a => exact ⟨rfl, trivial, h.next ⟨rfl, rfl, rfl⟩ ⟨rfl, rfl, rfl⟩ accessors calls⟩
  | none =>
    dsimp only
    cases r.resolve name kind with
    | none => exact ⟨rfl, trivial, h.next ⟨rfl, rfl, rfl⟩ ⟨rfl, rfl, rfl⟩ accessors noted⟩
    | some a =>
      refine ⟨rfl, trivial, h.next ⟨rfl, rfl, rfl⟩ ⟨rfl, rfl, rfl⟩ ?_ noted⟩
      exact congrArg (fun t => (t.insertIfAbsent ⟨r.typeKey, token⟩ a).2) accessors

/-- With quiet hosts, alike engines go in step. -/
theorem simulation_quiet (e₀ e₀' : Engine) : Simulation (InStep e₀ e₀') Value.Quiet where
  rights h := h.1.rights
  lookup _ _ _ h := agree_lookup h _ _ _ _
  invoke := by
    intro v r e e' quiet hr h a
    obtain ⟨read, reads, answers⟩ := quiet.receiver hr
    have noted : (e'.note (.invoke r.typeKey r.identity a)).calls =
        (e.note (.invoke r.typeKey r.identity a)).calls := congrArg (List.cons _) h.1.calls
    unfold invoke
    rw [reads, reads, noted]
    exact ⟨rfl, answers _ a, h.next ⟨rfl, rfl, rfl⟩ ⟨rfl, rfl, rfl⟩ h.1.accessors noted⟩

/-! ## 2. Evaluation and resolution -/

variable {values : ValueMap} {e e' : Engine}

/-- **Evaluation answers alike on engines that are alike, and touches no table of templates.** -/
theorem evaluate_quiet (quiet : values.All Value.Quiet) (items : Scan) (h : Alike e e') :
    Agree (InStep e e') (fun _ => True) (evaluate values items e) (evaluate values items e') :=
  (simulation_quiet e e').evaluate quiet items ⟨h, .refl e, .refl e'⟩

/-- **Resolution answers alike on engines that are alike, and touches no table of templates.** -/
theorem resolve_quiet (quiet : values.All Value.Quiet) (expression : String) (h : Alike e e') :
    Agree (InStep e e') (fun x => ∀ w, x = .ok w → w.Quiet) (e.resolve expression values)
      (e'.resolve expression values) :=
  (simulation_quiet e e').resolve quiet expression ⟨h, .refl e, .refl e'⟩

theorem kept_evaluate (quiet : values.All Value.Quiet) (items : Scan) (e : Engine) :
    Kept e (evaluate values items e).2 :=
  (evaluate_quiet quiet items (.refl e)).state.2.1

theorem kept_resolve (quiet : values.All Value.Quiet) (expression : String) (e : Engine) :
    Kept e (e.resolve expression values).2 :=
  (resolve_quiet quiet expression (.refl e)).state.2.1

end Engine

end Stencil
