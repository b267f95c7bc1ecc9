import Stencil.Proofs.Contract
import Stencil.Proofs.PathGrammar

/-!
# Engines in step

Rendering and resolving touch an engine in two places only: where an accessor is looked up and
where one is read. So two engines that are related before a render are related after it, and
answer the same, as soon as those two keep the relation:

* `Asked` lists the look-ups there are: a step of a path asks for its own name, as a field or as a
  method, or for the getter of its name, and each only with the right to it;
* `Simulation R Good` says that look-ups and readings keep `R`, for receivers that are `Good`;
* `Simulation.evaluate` and `Simulation.resolve` carry it to whole templates and whole paths.

Taking for `R` a relation that holds only between an engine and itself gives invariants.
-/

namespace Stencil

open Text

/-! ## 1. Rights -/

theorem Config.allowsName_of_checkName {c : Config} {name : String}
    (h : c.checkName name = .ok ()) : c.allowsName name = true := by
  unfold Config.checkName at h
  split at h
  · assumption
  · cases h

theorem Config.allowMethodCalls_of_checkCall {c : Config} {token : String}
    (h : c.checkCall token = .ok ()) : c.allowMethodCalls = true := by
  unfold Config.checkCall at h
  split at h
  · assumption
  · cases h

namespace Engine

/-! ## 2. Look-ups -/

/-- The look-ups that a step of a path leads to under a configuration: token, name and kind. -/
inductive Asked (c : Config) : String → String → AccessKind → Prop where
  | field {name : String} (spelled : isIdentifier name.toList = true)
      (allowed : c.allowsName name = true) : Asked c name name .field
  | call {name : String} (spelled : isIdentifier name.toList = true)
      (allowed : c.allowsName name = true) (calls : c.allowMethodCalls = true) :
      Asked c (callToken name) name .method
  | getter {name : String} (spelled : isIdentifier name.toList = true)
      (allowed : c.allowsName name = true) (calls : c.allowMethodCalls = true) :
      Asked c (callToken (getterOf name)) (getterOf name) .method

/-- Two engines allow the same accesses. -/
def SameRights (e e' : Engine) : Prop :=
  e'.config.withRenderCache .disabled = e.config.withRenderCache .disabled

theorem SameRights.checkName {e e' : Engine} (h : SameRights e e') (name : String) :
    e'.config.checkName name = e.config.checkName name := by
  show (e'.config.withRenderCache .disabled).checkName name = _
  rw [h]
  rfl

theorem SameRights.checkCall {e e' : Engine} (h : SameRights e e') (token : String) :
    e'.config.checkCall token = e.config.checkCall token := by
  show (e'.config.withRenderCache .disabled).checkCall token = _
  rw [h]
  rfl

theorem SameRights.of_config {e e' s s' : Engine} (h : SameRights e e')
    (config : s.config = e.config) (config' : s'.config = e'.config) : SameRights s s' := by
  rw [SameRights, config, config', h]

@[simp] theorem lookup_config (r : Object Value) (token name : String) (kind : AccessKind)
    (e : Engine) : (e.lookup r token name kind).2.config = e.config := by
  unfold lookup
  dsimp only
  split
  · rfl
  · split <;> rfl

/-! ## 3. Agreement -/

/-- Two outcomes agree: they have one answer, it meets `P`, and the engines are related. -/
structure Agree {α : Type} (R : Engine → Engine → Prop) (P : α → Prop) (x y : α × Engine) : Prop where
  answer : y.1 = x.1
  good : P x.1
  state : R x.2 y.2

theorem Agree.split {α : Type} {R : Engine → Engine → Prop} {P : α → Prop} {x y : α × Engine}
    (h : Agree R P x y) : ∃ a s s', x = (a, s) ∧ y = (a, s') ∧ P a ∧ R s s' :=
  ⟨x.1, x.2, y.2, rfl, Prod.ext h.answer rfl, h.good, h.state⟩

/-- **Look-ups and readings keep a relation**, for receivers that are `Good`, and what is read is
`Good` again. Related engines have the same rights. -/
structure Simulation (R : Engine → Engine → Prop) (Good : Value → Prop) : Prop where
  rights : ∀ {e e'}, R e e' → SameRights e e'
  lookup : ∀ {v r token name kind e e'}, Good v → v.receiver? = some r →
    Asked e.config token name kind → R e e' →
    Agree R (fun _ => True) (e.lookup r token name kind) (e'.lookup r token name kind)
  invoke : ∀ {v r e e'}, Good v → v.receiver? = some r → R e e' → ∀ a,
    Agree R (fun x => ∀ w, x = .ok w → Good w) (e.invoke r a) (e'.invoke r a)

namespace Simulation

variable {R : Engine → Engine → Prop} {Good : Value → Prop} (sim : Simulation R Good)
include sim

/-! ## 4. Steps -/

theorem findMethod {v : Value} {r : Object Value} {name : String} {missing : AccessError}
    {e e' : Engine} (good : Good v) (hr : v.receiver? = some r)
    (asked : e.config.allowMethodCalls = true → Asked e.config (callToken name) name .method)
    (h : R e e') :
    Agree R (fun _ => True) (e.findMethod r name missing) (e'.findMethod r name missing) := by
  unfold Engine.findMethod
  rw [(sim.rights h).checkCall]
  cases hc : e.config.checkCall (callToken name) with
  | error denied => exact ⟨rfl, trivial, h⟩
  | ok u =>
    have calls := Config.allowMethodCalls_of_checkCall hc
    obtain ⟨a, s, s', hx, hy, -, hs⟩ := (sim.lookup good hr (asked calls) h).split
    simp only [hx, hy]
    cases a with
    | none => exact ⟨rfl, trivial, hs⟩
    | some a => exact ⟨rfl, trivial, hs⟩

theorem findAccessor {v : Value} {r : Object Value} {s : Step} {e e' : Engine} (good : Good v)
    (hr : v.receiver? = some r) (spelled : isIdentifier s.name.toList = true)
    (allowed : e.config.allowsName s.name = true) (h : R e e') :
    Agree R (fun _ => True) (e.findAccessor r s) (e'.findAccessor r s) := by
  unfold Engine.findAccessor
  split
  · exact sim.findMethod good hr (fun calls => .call spelled allowed calls) h
  · have found := sim.lookup good hr (.field spelled allowed) h
    have config := lookup_config r s.name s.name .field e
    obtain ⟨a, t, t', hx, hy, -, ht⟩ := found.split
    rw [hx] at config
    dsimp only at config
    simp only [hx, hy]
    cases a with
    | some a => exact ⟨rfl, trivial, ht⟩
    | none =>
      -- the getter is asked for after the field, so its right is the one of the later engine
      rw [← config] at allowed
      exact sim.findMethod good hr (fun calls => .getter spelled allowed calls) ht

theorem readStep {v : Value} {s : Step} {e e' : Engine} (good : Good v)
    (spelled : isIdentifier s.name.toList = true) (h : R e e') :
    Agree R (fun x => ∀ w, x = .ok w → Good w) (e.readStep v s) (e'.readStep v s) := by
  unfold Engine.readStep
  rw [(sim.rights h).checkName]
  cases hc : e.config.checkName s.name with
  | error denied => exact ⟨rfl, nofun, h⟩
  | ok u =>
    have allowed := Config.allowsName_of_checkName hc
    cases hr : v.receiver? with
    | none => exact ⟨rfl, nofun, h⟩
    | some r =>
      obtain ⟨a, t, t', hx, hy, -, ht⟩ := (sim.findAccessor good hr spelled allowed h).split
      simp only [hx, hy]
      cases a with
      | error failure => exact ⟨rfl, nofun, ht⟩
      | ok a => exact sim.invoke good hr ht a

theorem readSteps {v : Value} {steps : List Step} {e e' : Engine} (good : Good v)
    (spelled : ∀ s ∈ steps, isIdentifier s.name.toList = true) (h : R e e') :
    Agree R (fun x => ∀ w, x = .ok w → Good w) (e.readSteps v steps) (e'.readSteps v steps) := by
  induction steps generalizing v e e' with
  | nil => exact ⟨rfl, fun w hw => by cases hw; exact good, h⟩
  | cons s steps ih =>
    unfold Engine.readSteps
    split
    · exact ⟨rfl, fun w hw => by cases hw; exact good, h⟩
    · obtain ⟨x, t, t', hx, hy, hgood, ht⟩ :=
        (sim.readStep good (spelled s List.mem_cons_self) h).split
      simp only [hx, hy]
      cases x with
      | error failure => exact ⟨rfl, nofun, ht⟩
      | ok w => exact ih (hgood w rfl) (fun s hs => spelled s (List.mem_cons_of_mem _ hs)) ht

/-! ## 5. Paths and templates -/

variable {values : ValueMap} (good : values.All Good)
include good

theorem resolve (expression : String) {e e' : Engine} (h : R e e') :
    Agree R (fun x => ∀ w, x = .ok w → Good w) (e.resolve expression values)
      (e'.resolve expression values) := by
  unfold Engine.resolve
  cases hp : Path.parse? expression with
  | none => exact ⟨rfl, nofun, h⟩
  | some path =>
    simp only [Engine.resolvePath]
    cases hroot : values.find? path.root with
    | none => exact ⟨rfl, nofun, h⟩
    | some root =>
      have spelled : ∀ s ∈ path.steps, isIdentifier s.name.toList = true :=
        fun s hs => Path.isIdentifier_of_parse? hp hs
      obtain ⟨x, t, t', hx, hy, hgood, ht⟩ :=
        (sim.readSteps (good _ _ hroot) spelled h).split
      simp only [hx, hy]
      cases x with
      | error failure => exact ⟨rfl, nofun, ht⟩
      | ok w => exact ⟨rfl, fun w' hw => by cases hw; exact hgood w rfl, ht⟩

theorem fillIn (p : Placeholder) {e e' : Engine} (h : R e e') :
    Agree R (fun _ => True) (e.fillIn values p) (e'.fillIn values p) := by
  unfold Engine.fillIn
  obtain ⟨x, t, t', hx, hy, -, ht⟩ := (sim.resolve good p.path h).split
  simp only [hx, hy]
  cases x with
  | error failure => exact ⟨rfl, trivial, ht⟩
  | ok w =>
    cases p.format with
    | none => exact ⟨rfl, trivial, ht⟩
    | some format => exact ⟨rfl, trivial, ht⟩

theorem evaluateSegment (segment : Segment) {e e' : Engine} (h : R e e') :
    Agree R (fun _ => True) (e.evaluateSegment values segment)
      (e'.evaluateSegment values segment) := by
  cases segment with
  | literal text => exact ⟨rfl, trivial, h⟩
  | placeholder p => exact sim.fillIn good p h

/-- **A relation that look-ups and readings keep is kept by evaluation**, and the answers agree. -/
theorem evaluate (items : Scan) {e e' : Engine} (h : R e e') :
    Agree R (fun _ => True) (Engine.evaluate values items e) (Engine.evaluate values items e') := by
  induction items generalizing e e' with
  | nil => exact ⟨rfl, trivial, h⟩
  | cons item items ih =>
    cases item with
    | error error => exact ⟨rfl, trivial, h⟩
    | ok segment =>
      obtain ⟨x, t, t', hx, hy, -, ht⟩ := (sim.evaluateSegment good segment h).split
      simp only [Engine.evaluate, hx, hy]
      cases x with
      | error error => exact ⟨rfl, trivial, ht⟩
      | ok text =>
        obtain ⟨x, u, u', hx, hy, -, hu⟩ := (ih ht).split
        simp only [hx, hy]
        cases x with
        | error error => exact ⟨rfl, trivial, hu⟩
        | ok rest => exact ⟨rfl, trivial, hu⟩

end Simulation

end Engine

end Stencil
