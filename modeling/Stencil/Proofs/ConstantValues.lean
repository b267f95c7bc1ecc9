import Stencil.Proofs.AccessorCache
import Stencil.Proofs.OutputMode
import Stencil.Proofs.Roots
import Stencil.Proofs.Trail

/-!
# Remembered outputs and values that stay the same

An output is remembered for a template and the names of the values, not for the values. That does
not show as long as renders that share a key find the same values under the roots of the template
(`ConstantPerTemplate`), with hosts that keep the contract of accessors:

* `Alongside e d`: an engine that remembers outputs beside one that remembers nothing. What they
  remember of accessors drifts apart, since a remembered output asks no host, but it stands rightly
  on both; and every remembered output is what its template evaluates to, for the values of each
  request that has its key;
* `Alongside.perform`: a request is answered alike by both, and they stay so related;
* `output_cache_safe`: so they answer alike all along a run.
-/

namespace Stencil

/-- Requests that render one template with values under the same names find the same values under
the roots of the template. -/
def ConstantPerTemplate (calls : List Call) : Prop :=
  ∀ c ∈ calls, ∀ d ∈ calls, ∀ template values values', c.request? = some (template, values) →
    d.request? = some (template, values') →
    (∀ name, values.contains name = values'.contains name) →
    (scan template).SameRoots values values'

namespace Engine

variable {hosts : HostTypes} {calls : List Call} {e d : Engine} {template : String}
  {values : ValueMap}

/-! ## 1. Accessors that drift apart -/

/-- What an engine remembers of accessors stands rightly behind an evaluation. -/
theorem fills_evaluate (lawful : values.All (Value.Lawful hosts)) (items : Scan)
    (fills : hosts.Fills e.accessors) : hosts.Fills (evaluate values items e).2.accessors :=
  (evaluate_lawful lawful items (e := e) ⟨rfl, fills, fills⟩).state.left

theorem fills_renderOutput (lawful : values.All (Value.Lawful hosts)) (template : String)
    (fills : hosts.Fills e.accessors) :
    hosts.Fills (e.renderOutput template values).2.accessors := by
  have missed : hosts.Fills (e.missed template values).accessors := fills
  have behind := fills_evaluate lawful (scan template) missed
  rcases renderOutput_cases template values e with
    ⟨text, -, h⟩ | ⟨-, ⟨error, s, hx, h⟩ | ⟨text, s, hx, h⟩⟩
  · rw [h]
    exact fills
  · rw [hx] at behind
    rw [h]
    exact behind
  · rw [hx] at behind
    rw [h, (Aside.keepOutput (renderKey template values) text).same.2.1]
    exact behind

/-- An engine and a later one of the same configuration stand rightly side by side when what each
remembers of accessors does. -/
theorem faithful_of_kept {s : Engine} (kept : Kept d s) (fills : hosts.Fills d.accessors)
    (fills' : hosts.Fills s.accessors) : Faithful hosts d s :=
  ⟨by rw [SameRights, kept.config], fills, fills'⟩

/-! ## 2. Two engines side by side -/

/-- An engine that remembers outputs and one that remembers nothing of templates: every remembered
output is what the other engine evaluates for each of these requests that has its key. -/
structure Alongside (hosts : HostTypes) (calls : List Call) (e d : Engine) : Prop where
  output : e.config.renderCache = .output
  disabled : d.config.renderCache = .disabled
  faithful : Faithful hosts e d
  outputs : ∀ c ∈ calls, ∀ template values, c.request? = some (template, values) → ∀ text,
    e.rendered.find? (renderKey template values) = some text →
    (evaluate values (scan template) d).1 = .ok text

namespace Alongside

theorem start (config : Config) : Alongside hosts calls (.ofConfig (config.withRenderCache .output))
    (.ofConfig (config.withRenderCache .disabled)) where
  output := rfl
  disabled := rfl
  faithful := ⟨rfl, HostTypes.fills_empty, HostTypes.fills_empty⟩
  outputs := by
    intro c _ template values _ text found
    rw [show (Engine.ofConfig (config.withRenderCache .output)).rendered = .empty from rfl,
      ShardedTable.find?_empty] at found
    cases found

variable (lawful : ∀ c ∈ calls, c.Lawful hosts) (constant : ConstantPerTemplate calls)
include lawful

/-- Where nothing is remembered of templates, going on shows in no evaluation. -/
theorem mono (h : Alongside hosts calls e d) {s : Engine} (kept : Kept d s)
    (fills : hosts.Fills s.accessors) : Alongside hosts calls e s where
  output := h.output
  disabled := kept.config ▸ h.disabled
  faithful := ⟨h.faithful.rights.of_config rfl kept.config, h.faithful.left, fills⟩
  outputs := by
    intro c mem template values request text found
    obtain ⟨rfl, -⟩ := Call.perform_of_request? request
    have behind := faithful_of_kept kept h.faithful.right fills
    rw [(evaluate_lawful (lawful c mem) (scan template) behind).answer]
    exact h.outputs c mem template _ request text found

/-- An output that is given is the one that the template evaluates to. -/
theorem answer (h : Alongside hosts calls e d) {c : Call} (mem : c ∈ calls)
    (request : c.request? = some (template, values)) :
    (e.renderOutput template values).1 = (evaluate values (scan template) d).1 := by
  obtain ⟨rfl, -⟩ := Call.perform_of_request? request
  cases hf : e.rendered.find? (renderKey template c.values) with
  | some text =>
    rw [renderOutput_hit hf, h.outputs c mem template c.values request text hf]
  | none =>
    rw [(renderOutput_miss (lawful c mem).quiet hf).1]
    exact (evaluate_lawful (lawful c mem) (scan template) h.faithful).answer.symm

include constant in
/-- What a render remembers is what its template evaluates to, for every request with its key. -/
theorem renderOutput (h : Alongside hosts calls e d) {c : Call} (mem : c ∈ calls)
    (request : c.request? = some (template, values)) :
    Alongside hosts calls (e.renderOutput template values).2 d := by
  have answer := h.answer lawful mem request
  obtain ⟨rfl, -⟩ := Call.perform_of_request? request
  have quiet : c.values.All Value.Quiet := (lawful c mem).quiet
  have config : (e.renderOutput template c.values).2.config = e.config := config_renderOutput quiet
  refine ⟨config ▸ h.output, h.disabled, ?_, ?_⟩
  · exact ⟨h.faithful.rights.of_config config rfl,
      fills_renderOutput (lawful c mem) template h.faithful.left, h.faithful.right⟩
  · intro c' mem' template' values' request' text found
    rw [rendered_renderOutput quiet] at found
    rcases Option.or_eq_some_iff.mp found with known | ⟨-, new⟩
    · exact h.outputs c' mem' template' values' request' text known
    · -- a new output was evaluated for a request with the same key
      obtain ⟨keys, gave⟩ := Option.ite_none_right_eq_some.mp new
      obtain ⟨rfl, names⟩ := renderKey_eq_iff.mp keys
      have same := constant c mem c' mem' _ _ _ request request' fun name => (names name).symm
      rw [evaluate_sameRoots same, ← answer]
      cases gives : (e.renderOutput template' c.values).1 with
      | error error =>
        rw [gives] at gave
        cases gave
      | ok first =>
        rw [gives] at gave
        exact congrArg _ (Option.some.inj gave)

include constant in
/-- **A request is answered alike** with remembered outputs and with none. -/
theorem perform (h : Alongside hosts calls e d) {c : Call} (mem : c ∈ calls) :
    (c.perform d).1 = (c.perform e).1 ∧ Alongside hosts calls (c.perform e).2 (c.perform d).2 := by
  have good : c.values.All (Value.Lawful hosts) := lawful c mem
  have quiet : c.values.All Value.Quiet := (lawful c mem).quiet
  rcases c.perform_cases with ⟨template, request, hp⟩ | ⟨-, hp⟩ | ⟨-, expression, hp⟩
  · have answer := h.answer lawful mem request
    have remembers := h.renderOutput lawful constant mem request
    have left : e.render template c.values = e.renderOutput template c.values := by
      rw [Engine.render, h.output]
    have right : d.render template c.values = evaluate c.values (scan template) d := by
      rw [Engine.render, h.disabled]
    rw [hp, hp, left, right, answer]
    refine ⟨rfl, remembers.mono lawful (kept_evaluate quiet (scan template) d) ?_⟩
    exact fills_evaluate good (scan template) h.faithful.right
  · rw [hp, hp]
    exact ⟨rfl, h⟩
  · have agree := resolve_lawful good expression h.faithful
    have kept := kept_resolve quiet expression e
    rw [hp, hp, agree.answer]
    refine ⟨rfl, ?_⟩
    have behind := h.mono lawful (kept_resolve quiet expression d) agree.state.right
    refine ⟨kept.config ▸ h.output, behind.disabled, agree.state, ?_⟩
    intro c' mem' template values request text found
    rw [show (e.resolve expression c.values).2.rendered = e.rendered from kept.rendered] at found
    exact behind.outputs c' mem' template values request text found

end Alongside

end Engine

/-! ## 3. Runs -/

/-- **Remembered outputs do not show while values are constant per template.** When hosts keep the
contract of accessors, and any two renders of a template with values under the same names find the
same values under the roots of its placeholders, every request of a run is answered alike by an
engine that remembers outputs and by one of the same settings that remembers nothing of templates.
The values under other names are free to change, and so are those of other templates. -/
theorem output_cache_safe (hosts : HostTypes) (config : Config) (calls : List Call)
    (lawful : ∀ c ∈ calls, c.Lawful hosts) (constant : ConstantPerTemplate calls) :
    List.Forall₂ (fun t u => u.call = t.call ∧ u.answer = t.answer)
      (turns calls (.ofConfig (config.withRenderCache .output)))
      (turns calls (.ofConfig (config.withRenderCache .disabled))) := by
  refine forall₂_turns (Engine.Alongside hosts calls) ?_ (.start config)
  intro c mem e d alongside
  obtain ⟨answer, next⟩ := alongside.perform lawful constant mem
  exact ⟨⟨rfl, answer⟩, next⟩

/-- A door, and beside it a value that the templates do not read. -/
def hallValues (unread : Value) : ValueMap :=
  (ValueMap.empty.insert "a" (door 0 "left")).insert "b" unread

/-- A render, the same one while the value that is not read has changed, a resolution that reads it,
and a render that fails each time. -/
def hallRun : List Call :=
  [.render "{a.name}" (hallValues .null), .render "{a.name}" (hallValues (.bool true)),
    .resolve "b" (hallValues (.bool false)), .render "{a.key}" (hallValues .null),
    .render "{a.key}" (hallValues (.bool true))]

theorem lawful_hallRun : ∀ c ∈ hallRun, c.Lawful doorTypes := by
  have lawful : ∀ {v : Value}, v.Lawful doorTypes → (hallValues v).All (Value.Lawful doorTypes) :=
    fun good => (ValueMap.all_empty.insert (lawful_door 0 "left") "a").insert good "b"
  intro c hc
  simp only [hallRun, List.mem_cons, List.not_mem_nil, or_false] at hc
  rcases hc with rfl | rfl | rfl | rfl | rfl
  · exact lawful .null
  · exact lawful (.bool true)
  · exact lawful (.bool false)
  · exact lawful .null
  · exact lawful (.bool true)

theorem scan_name : scan "{a.name}" = [.ok (.placeholder ⟨"a.name", none, 0⟩)] := by
  have first : (Scanner.start "{a.name}").next? =
      some (.ok (.placeholder ⟨"a.name", none, 0⟩), ⟨[], 8, false⟩) := rfl
  have last : (⟨[], 8, false⟩ : Scanner).next? = none := rfl
  rw [scan, Scanner.items_of_ok first, Scanner.items_of_none last]

theorem scan_key : scan "{a.key}" = [.ok (.placeholder ⟨"a.key", none, 0⟩)] := by
  have first : (Scanner.start "{a.key}").next? =
      some (.ok (.placeholder ⟨"a.key", none, 0⟩), ⟨[], 7, false⟩) := rfl
  have last : (⟨[], 7, false⟩ : Scanner).next? = none := rfl
  rw [scan, Scanner.items_of_ok first, Scanner.items_of_none last]

theorem constant_hallRun : ConstantPerTemplate hallRun := by
  -- every render brings the door, and every template reads the door only
  have brings : ∀ c ∈ hallRun, ∀ template values, c.request? = some (template, values) →
      (∃ v, values = hallValues v) ∧ ∀ root, (scan template).Root root → root = "a" := by
    intro c hc template values request
    simp only [hallRun, List.mem_cons, List.not_mem_nil, or_false] at hc
    rcases hc with rfl | rfl | rfl | rfl | rfl <;> cases request
    · exact ⟨⟨_, rfl⟩, fun root => Scan.root_of_eq scan_name rfl⟩
    · exact ⟨⟨_, rfl⟩, fun root => Scan.root_of_eq scan_name rfl⟩
    · exact ⟨⟨_, rfl⟩, fun root => Scan.root_of_eq scan_key rfl⟩
    · exact ⟨⟨_, rfl⟩, fun root => Scan.root_of_eq scan_key rfl⟩
  intro c hc d hd template values values' request request' _ root reads
  obtain ⟨⟨v, rfl⟩, roots⟩ := brings c hc template values request
  obtain ⟨⟨v', rfl⟩, -⟩ := brings d hd template values' request'
  rw [roots root reads]
  rfl

theorem output_cache_safe_hallRun :
    (∀ c ∈ hallRun, c.Lawful doorTypes) ∧ ConstantPerTemplate hallRun ∧
    List.Forall₂ (fun t u => u.call = t.call ∧ u.answer = t.answer)
      (turns hallRun (.ofConfig (Config.default.withRenderCache .output)))
      (turns hallRun (.ofConfig (Config.default.withRenderCache .disabled))) :=
  ⟨lawful_hallRun, constant_hallRun,
    output_cache_safe doorTypes .default hallRun lawful_hallRun constant_hallRun⟩

end Stencil
