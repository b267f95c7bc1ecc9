import Stencil.Proofs.CompiledMode

/-!
# Remembered accessors change nothing but the work

Hosts keep the contract of accessors when what they resolve depends on their type alone, and what
they read on themselves and the accessor (`Value.Lawful`). Texts and documents keep it.

* `HostTypes.Gives`: an accessor stands rightly under a type and a token when it is what the type
  resolves for the name and the kind that the token spells. A token spells one step only
  (`Step.eq_of_token_eq`), so a field, a call and a getter never share one;
* `HostTypes.Fills`: all remembered accessors stand rightly. Look-ups keep it, and then answer what
  the receiver would (`lookup_lawful`);
* `accessor_cache_transparent`: so every request of a run is answered as by an engine that has done
  nothing yet.
-/

namespace Stencil

open Text

/-! ## 1. Tokens -/

/-- Whether a step reads a field or calls a method. -/
def Step.kind (s : Step) : AccessKind := if s.call then .method else .field

/-- What is asked of a type is what a step spells: its token, its name and its kind. -/
theorem Engine.Asked.exists_step {c : Config} {token name : String} {kind : AccessKind}
    (h : Asked c token name kind) : ∃ s : Step, isIdentifier s.name.toList = true ∧
      s.token = token ∧ s.name = name ∧ s.kind = kind := by
  cases h with
  | field spelled => exact ⟨⟨token, false⟩, spelled, rfl, rfl, rfl⟩
  | call spelled => exact ⟨⟨name, true⟩, spelled, rfl, rfl, rfl⟩
  | @getter field spelled =>
    refine ⟨⟨getterOf field, true⟩, ?_, rfl, rfl, rfl⟩
    rw [getterOf, String.toList_ofList]
    exact isIdentifier_getterName spelled

/-! ## 2. What stands under a token -/

/-- The accessor is what the type resolves for the name and the kind that the token spells. -/
def HostTypes.Gives (hosts : HostTypes) (key : AccessorKey) (a : Accessor) : Prop :=
  ∃ s : Step, isIdentifier s.name.toList = true ∧ s.token = key.token ∧
    hosts.resolve key.receiver s.name s.kind = some a

/-- Every remembered accessor is what its type resolves for what its token spells. -/
def HostTypes.Fills (hosts : HostTypes) (t : ShardedTable AccessorKey Accessor) : Prop :=
  ∀ entry ∈ t.entries, hosts.Gives entry.1 entry.2

variable {hosts : HostTypes}

theorem HostTypes.fills_empty : hosts.Fills .empty := by
  intro entry h
  rw [ShardedTable.entries_empty] at h
  cases h

namespace Engine

variable {e e' : Engine}

/-- **A look-up answers what the receiver resolves**, remembered or not, and what it remembers stands
rightly. -/
theorem lookup_lawful (fills : hosts.Fills e.accessors) {r : Object Value}
    (resolves : r.resolve = hosts.resolve r.typeKey) {c : Config} {token name : String}
    {kind : AccessKind} (asked : Asked c token name kind) :
    (e.lookup r token name kind).1 = r.resolve name kind ∧
      hosts.Fills (e.lookup r token name kind).2.accessors := by
  obtain ⟨s, spelled, hs, rfl, rfl⟩ := asked.exists_step
  unfold lookup
  dsimp only
  cases hf : e.accessors.find? ⟨r.typeKey, token⟩ with
  | some a =>
    obtain ⟨s', spelled', hs', given⟩ := fills _ (ShardedTable.mem_entries_of_find? hf)
    -- the token spells one step only, so the entry is about the name and kind that are asked for
    obtain rfl := Step.eq_of_token_eq spelled' spelled (hs'.trans hs.symm)
    rw [resolves]
    exact ⟨given.symm, fills⟩
  | none =>
    dsimp only
    cases hr : r.resolve s.name s.kind with
    | none => exact ⟨rfl, fills⟩
    | some a =>
      refine ⟨rfl, fun entry he => ?_⟩
      rcases ShardedTable.mem_entries_insertIfAbsent.mp he with he | ⟨-, rfl⟩
      · exact fills entry he
      · exact ⟨s, spelled, hs, by rw [← resolves]; exact hr⟩

/-- Two engines allow the same accesses, and what each remembers of accessors stands rightly. -/
structure Faithful (hosts : HostTypes) (e e' : Engine) : Prop where
  rights : SameRights e e'
  left : hosts.Fills e.accessors
  right : hosts.Fills e'.accessors

/-- With hosts that keep the contract, no difference in what is remembered of accessors shows. -/
theorem simulation_lawful (hosts : HostTypes) :
    Simulation (Faithful hosts) (Value.Lawful hosts) where
  rights h := h.rights
  lookup := by
    intro v r token name kind e e' lawful hr asked h
    obtain ⟨resolves, -⟩ := lawful.receiver hr
    obtain ⟨answer, fills⟩ := lookup_lawful h.left resolves asked
    obtain ⟨answer', fills'⟩ := lookup_lawful h.right resolves asked
    refine ⟨answer'.trans answer.symm, trivial, ?_, fills, fills'⟩
    exact h.rights.of_config (lookup_config ..) (lookup_config ..)
  invoke := by
    intro v r e e' lawful hr h a
    obtain ⟨-, read, reads, answers⟩ := lawful.receiver hr
    unfold invoke
    rw [reads]
    exact ⟨rfl, answers a, h.rights, h.left, h.right⟩

/-! ## 3. Requests -/

variable {values : ValueMap}

theorem evaluate_lawful (lawful : values.All (Value.Lawful hosts)) (items : Scan)
    (h : Faithful hosts e e') :
    Agree (Faithful hosts) (fun _ => True) (evaluate values items e) (evaluate values items e') :=
  (simulation_lawful hosts).evaluate lawful items h

theorem resolve_lawful (lawful : values.All (Value.Lawful hosts)) (expression : String)
    (h : Faithful hosts e e') :
    Agree (Faithful hosts) (fun x => ∀ w, x = .ok w → w.Lawful hosts)
      (e.resolve expression values) (e'.resolve expression values) :=
  (simulation_lawful hosts).resolve lawful expression h

/-- **Without remembered outputs a request is answered alike by engines that allow the same
accesses**, whatever either remembers of accessors and templates, as long as it stands rightly. -/
theorem perform_lawful {c : Call} (lawful : c.Lawful hosts)
    (mode : e.config.renderCache ≠ .output) (mode' : e'.config.renderCache ≠ .output)
    (sound : e.CompiledSound) (sound' : e'.CompiledSound) (h : Faithful hosts e e') :
    (c.perform e').1 = (c.perform e).1 ∧ hosts.Fills (c.perform e).2.accessors := by
  rcases c.perform_cases with ⟨template, -, hp⟩ | ⟨-, hp⟩ | ⟨-, expression, hp⟩
  · rw [hp, hp]
    have rendered := agree_render mode lawful.quiet sound template
    have rendered' := agree_render mode' lawful.quiet sound' template
    have agree := evaluate_lawful lawful (scan template) h
    constructor
    · show (e'.render template c.values).1.map _ = (e.render template c.values).1.map _
      rw [rendered.answer, rendered'.answer, agree.answer]
    · show hosts.Fills (e.render template c.values).2.accessors
      rw [rendered.state.1.accessors]
      exact agree.state.left
  · rw [hp, hp]
    exact ⟨rfl, h.left⟩
  · rw [hp, hp]
    have agree := resolve_lawful lawful expression h
    exact ⟨congrArg (Except.map Reply.value) agree.answer, agree.state.left⟩

end Engine

/-! ## 4. Runs -/

/-- On a run without remembered outputs every remembered accessor stands rightly. -/
theorem fills_turns {config : Config} (mode : config.renderCache ≠ .output) {calls : List Call}
    (lawful : ∀ c ∈ calls, c.Lawful hosts) {t : Turn} (ht : t ∈ turns calls (.ofConfig config)) :
    hosts.Fills t.before.accessors ∧ hosts.Fills t.after.accessors := by
  have inv := invariant_turns
    (fun e => (e.config = config ∧ e.CompiledSound) ∧ hosts.Fills e.accessors) ?_
    ⟨⟨rfl, .ofConfig config⟩, HostTypes.fills_empty⟩ ht
  · exact ⟨inv.1.2, inv.2.2⟩
  · rintro c hc e ⟨⟨rfl, sound⟩, fills⟩
    have faithful : Engine.Faithful hosts e e := ⟨rfl, fills, fills⟩
    exact ⟨Engine.sound_perform mode sound (lawful c hc).quiet,
      (Engine.perform_lawful (lawful c hc) mode mode sound sound faithful).2⟩

/-- **Remembering accessors is not observable.** When hosts keep the contract of accessors, every
request of a run without remembered outputs is answered as an engine of the same configuration
answers it that has done nothing yet, whatever types, templates, values and failures came before.
Every accessor remembered on the way is what its type resolves for the name and the kind its token
spells, so every look-up, of a field, a call or a getter, answers what the receiver resolves. -/
theorem accessor_cache_transparent (hosts : HostTypes) (config : Config)
    (mode : config.renderCache ≠ .output) (calls : List Call)
    (lawful : ∀ c ∈ calls, c.Lawful hosts) :
    ∀ t ∈ turns calls (.ofConfig config),
      t.answer = (t.call.perform (.ofConfig config)).1 ∧
      (∀ entry ∈ t.after.accessors.entries, hosts.Gives entry.1 entry.2) ∧
      ∀ (v : Value) r token name kind, v.Lawful hosts → v.receiver? = some r →
        Engine.Asked config token name kind →
        (t.after.lookup r token name kind).1 = r.resolve name kind := by
  intro t ht
  obtain ⟨hc, faithful⟩ := mem_turns ht
  obtain ⟨⟨config_eq, sound⟩, -⟩ := sound_turns mode (fun c hc => (lawful c hc).quiet) ht
  obtain ⟨fills, fills'⟩ := fills_turns mode lawful ht
  refine ⟨?_, fills', fun v r token name kind hv hr asked => ?_⟩
  · have fresh : Engine.Faithful hosts (.ofConfig config) t.before :=
      ⟨by rw [Engine.SameRights, config_eq]; rfl, HostTypes.fills_empty, fills⟩
    have answer := (Engine.perform_lawful (lawful _ hc) mode (by rw [config_eq]; exact mode)
      (.ofConfig config) sound fresh).1
    rw [faithful] at answer
    exact answer
  · exact (Engine.lookup_lawful fills' (hv.receiver hr).1 asked).1

/-- Doors are hosts of one type with a field `name` and the getter of a field `open`. -/
def doorTable (name : String) : List TableEntry :=
  [.holding .field "name" 0 (.string name), .holding .method "getOpen" 1 (.bool true)]

/-- What doors resolve, whatever they are called. -/
def doorTypes : HostTypes := fun _ => resolveIn (doorTable "")

def door (n : Nat) (name : String) : Value :=
  .object (.ofTable "Door" (.numbered n) "Door" "door" (doorTable name))

theorem lawful_door (n : Nat) (name : String) : (door n name).Lawful doorTypes := by
  have headings : (doorTable "").map TableEntry.heading = (doorTable name).map TableEntry.heading :=
    rfl
  refine Value.lawful_ofTable ?_ (resolveIn_congr headings) ..
  simp only [doorTable, List.forall_mem_cons]
  exact ⟨TableEntry.answers_holding (.string name) ..,
    TableEntry.answers_holding (.bool true) .., nofun⟩

def doorValues : ValueMap := (ValueMap.empty.insert "a" (door 0 "left")).insert "b" (door 1 "right")

/-- A field, the getter of another, and both as calls, on two doors and on a text. -/
def doorRun : List Call :=
  [.render "{a.name} {a.open}" doorValues, .render "{b.name.len()} {b.name()}" doorValues,
    .resolve "b.getOpen()" doorValues]

theorem lawful_doorRun : ∀ c ∈ doorRun, c.Lawful doorTypes := by
  have lawful : doorValues.All (Value.Lawful doorTypes) :=
    (ValueMap.all_empty.insert (lawful_door 0 "left") "a").insert (lawful_door 1 "right") "b"
  intro c hc
  simp only [doorRun, List.mem_cons, List.not_mem_nil, or_false] at hc
  rcases hc with rfl | rfl | rfl <;> exact lawful

theorem accessor_cache_transparent_doorRun :
    (∀ c ∈ doorRun, c.Lawful doorTypes) ∧
    ∀ t ∈ turns doorRun (.ofConfig (Config.default.withRenderCache .compiled)),
      t.answer = (t.call.perform (.ofConfig (Config.default.withRenderCache .compiled))).1 :=
  ⟨lawful_doorRun, fun t ht =>
    (accessor_cache_transparent doorTypes _ (by decide) doorRun lawful_doorRun t ht).1⟩

end Stencil
