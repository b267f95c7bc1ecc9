import Stencil.Proofs.QuietHosts
import Stencil.Proofs.Tables
import Mathlib.Data.List.Forall2

/-!
# Remembered templates change nothing but the work

An engine that remembers templates and one that remembers nothing go through every run in lock
step, when hosts are quiet:

* `CompiledSound`: every remembered template is its own reading, free of errors. Rendering keeps it;
* `agree_renderCompiled`: whether a template is remembered, read to its end or faulty, rendering it
  is evaluating its reading;
* `compiled_lockstep_disabled`: so both engines give the same answers, put the same questions to
  the same hosts and remember the same accessors, turn by turn.
-/

namespace Stencil

namespace Engine

/-! ## 1. What is remembered of templates -/

/-- Every remembered template is its own reading, free of errors. -/
def CompiledSound (e : Engine) : Prop :=
  ∀ entry ∈ e.compiled.entries, scan entry.1.template = entry.2.map .ok

theorem CompiledSound.ofConfig (config : Config) : (ofConfig config).CompiledSound := by
  intro entry h
  rw [show (Engine.ofConfig config).compiled = .empty from rfl, ShardedTable.entries_empty] at h
  cases h

theorem CompiledSound.of_kept {e₀ e : Engine} (h : e₀.CompiledSound) (kept : Kept e₀ e) :
    e.CompiledSound := by
  intro entry he
  rw [kept.compiled] at he
  exact h entry he

theorem CompiledSound.scan_eq {e : Engine} (h : e.CompiledSound) {template : String}
    {segments : List Segment} (hf : e.compiled.find? ⟨template⟩ = some segments) :
    scan template = segments.map .ok :=
  h _ (ShardedTable.mem_entries_of_find? hf)

/-- A template is kept with the segments of its reading, or not at all. -/
theorem keepTemplate_spec (template : String) (segments : List Segment) (e : Engine) :
    Alike e (e.keepTemplate template segments) ∧
      (e.keepTemplate template segments).config = e.config ∧
      (e.CompiledSound → scan template = segments.map .ok →
        (e.keepTemplate template segments).CompiledSound) := by
  have stored := @ShardedTable.mem_entries_insertIfAbsent _ _ _ _ e.compiled ⟨template⟩ segments
  unfold keepTemplate
  rcases hi : e.compiled.insertIfAbsent ⟨template⟩ segments with ⟨_ | _, table⟩
  · exact ⟨.report e _, rfl, fun h _ => h⟩
  · refine ⟨⟨rfl, rfl, rfl⟩, rfl, fun h hs entry he => ?_⟩
    rw [hi] at stored
    rcases stored.mp he with he | ⟨-, rfl⟩
    · exact h entry he
    · exact hs

end Engine

namespace Engine

/-! ## 2. Rendering is evaluation -/

variable {values : ValueMap} {e : Engine}

/-- **Rendering with remembered templates is evaluating the reading of the template**, whether it
is remembered, read to its end now, or cannot be read to its end. -/
theorem agree_renderCompiled (quiet : values.All Value.Quiet) (sound : e.CompiledSound)
    (template : String) :
    Agree (fun s s' => Alike s s' ∧ s'.config = e.config ∧ s'.CompiledSound) (fun _ => True)
      (evaluate values (scan template) e) (e.renderCompiled template values) := by
  have missed := evaluate_quiet quiet (scan template) (.report e (.templateMiss template))
  rcases renderCompiled_cases template values e with
    ⟨segments, found, h⟩ | ⟨-, ⟨error, s, hx, h⟩ | ⟨segments, text, s, whole, hx, h⟩⟩
  · have hit := evaluate_quiet quiet (scan template) (.report e (.templateHit template))
    have kept := (Kept.report e _).trans hit.state.2.2
    rw [h, ← sound.scan_eq found]
    exact ⟨hit.answer, trivial, hit.state.1, kept.config, sound.of_kept kept⟩
  · have kept := (Kept.report e _).trans missed.state.2.2
    rw [h, ← hx]
    exact ⟨missed.answer, trivial, missed.state.1, kept.config, sound.of_kept kept⟩
  · have answer := missed.answer
    obtain ⟨alike, -, later⟩ := missed.state
    have kept := (Kept.report e _).trans later
    rw [hx] at answer alike kept
    obtain ⟨alike', config, keeps⟩ := keepTemplate_spec template segments s
    rw [h]
    exact ⟨answer, trivial, alike.trans alike', config.trans kept.config,
      keeps (sound.of_kept kept) whole⟩

/-- Rendering without remembered outputs is evaluating the reading of the template. -/
theorem agree_render (mode : e.config.renderCache ≠ .output) (quiet : values.All Value.Quiet)
    (sound : e.CompiledSound) (template : String) :
    Agree (fun s s' => Alike s s' ∧ s'.config = e.config ∧ s'.CompiledSound) (fun _ => True)
      (evaluate values (scan template) e) (e.render template values) := by
  unfold render
  cases hm : e.config.renderCache with
  | output => exact absurd hm mode
  | compiled => exact agree_renderCompiled quiet sound template
  | disabled =>
    have kept := kept_evaluate quiet (scan template) e
    exact ⟨rfl, trivial, .refl _, kept.config, sound.of_kept kept⟩

/-- A placeholder that fails ends the evaluation, whatever is still to be read: the reading may
end with an error of its own. -/
theorem evaluate_placeholder_error {segments : List Segment} {p : Placeholder} {items : Scan}
    {text : String} {error : RenderError} {s s' : Engine}
    (before : evaluate values (segments.map .ok) e = (.ok text, s))
    (fails : s.fillIn values p = (.error error, s')) :
    evaluate values (segments.map .ok ++ .ok (.placeholder p) :: items) e = (.error error, s') := by
  rw [evaluate_append before]
  simp only [evaluate, evaluateSegment, fails]
  rfl

/-! ## 3. Lock step -/

/-- An engine that remembers templates and one that remembers nothing, and are alike otherwise. -/
structure Lockstep (e d : Engine) : Prop where
  alike : Alike e d
  compiled : e.config.renderCache = .compiled
  disabled : d.config.renderCache = .disabled
  sound : e.CompiledSound

theorem Lockstep.render {d : Engine} (h : Lockstep e d) (quiet : values.All Value.Quiet)
    (template : String) :
    (d.render template values).1 = (e.render template values).1 ∧
      Lockstep (e.render template values).2 (d.render template values).2 := by
  have evaluated : d.render template values = evaluate values (scan template) d := by
    unfold Engine.render
    rw [h.disabled]
  have mode : e.config.renderCache ≠ .output := by
    rw [h.compiled]
    decide
  have rendered := agree_render mode quiet h.sound template
  have agree := evaluate_quiet quiet (scan template) h.alike
  obtain ⟨alike, config, sound⟩ := rendered.state
  rw [evaluated]
  refine ⟨agree.answer.trans rendered.answer.symm, alike.symm.trans agree.state.1, ?_, ?_, sound⟩
  · rw [config, h.compiled]
  · rw [agree.state.2.2.config, h.disabled]

theorem Lockstep.resolve {d : Engine} (h : Lockstep e d) (quiet : values.All Value.Quiet)
    (expression : String) :
    (d.resolve expression values).1 = (e.resolve expression values).1 ∧
      Lockstep (e.resolve expression values).2 (d.resolve expression values).2 := by
  obtain ⟨answer, -, alike, kept, kept'⟩ := resolve_quiet quiet expression h.alike
  refine ⟨answer, alike, ?_, ?_, h.sound.of_kept kept⟩
  · rw [kept.config, h.compiled]
  · rw [kept'.config, h.disabled]

theorem Lockstep.perform {d : Engine} (h : Lockstep e d) {c : Call} (quiet : c.Quiet) :
    (c.perform d).1 = (c.perform e).1 ∧ Lockstep (c.perform e).2 (c.perform d).2 := by
  rcases c.perform_cases with ⟨template, -, hp⟩ | ⟨-, hp⟩ | ⟨-, expression, hp⟩
  · rw [hp, hp]
    obtain ⟨answer, next⟩ := h.render quiet template
    exact ⟨congrArg (Except.map Reply.text) answer, next⟩
  · rw [hp, hp]
    exact ⟨rfl, h⟩
  · rw [hp, hp]
    obtain ⟨answer, next⟩ := h.resolve quiet expression
    exact ⟨congrArg (Except.map Reply.value) answer, next⟩

/-- Without remembered outputs every request keeps the configuration and the soundness of what is
remembered of templates. -/
theorem sound_perform (mode : e.config.renderCache ≠ .output) (sound : e.CompiledSound) {c : Call}
    (quiet : c.Quiet) : (c.perform e).2.config = e.config ∧ (c.perform e).2.CompiledSound := by
  rcases c.perform_cases with ⟨template, -, hp⟩ | ⟨-, hp⟩ | ⟨-, expression, hp⟩
  · rw [hp]
    exact (agree_render mode quiet sound template).state.2
  · rw [hp]
    exact ⟨rfl, sound⟩
  · rw [hp]
    have kept := kept_resolve quiet expression e
    exact ⟨kept.config, sound.of_kept kept⟩

end Engine

/-! ## 4. Runs -/

/-- Two turns in lock step: one request, one answer, the same questions to the same hosts before
and after it, and the same accessors remembered after it. -/
structure Turn.InLockstep (x y : Turn) : Prop where
  call : y.call = x.call
  answer : y.answer = x.answer
  callsBefore : y.before.calls = x.before.calls
  callsAfter : y.after.calls = x.after.calls
  accessors : y.after.accessors = x.after.accessors

/-- A placeholder that is reached and fails is what the turn reports, whatever comes after it in
the reading of the template. -/
def Turn.PlaceholderFirst (x : Turn) : Prop :=
  ∀ template values, x.call.request? = some (template, values) →
    ∀ (segments : List Segment) p items text error s s',
      scan template = segments.map .ok ++ .ok (.placeholder p) :: items →
      Engine.evaluate values (segments.map .ok) x.before = (.ok text, s) →
      s.fillIn values p = (.error error, s') → x.answer = .error error

theorem forall₂_turns_of_lockstep {calls : List Call} (quiet : ∀ c ∈ calls, c.Quiet)
    {e d : Engine} (h : Engine.Lockstep e d) :
    List.Forall₂ Turn.InLockstep (turns calls e) (turns calls d) := by
  refine forall₂_turns Engine.Lockstep (fun c mem e d lockstep => ?_) h
  obtain ⟨answer, next⟩ := lockstep.perform (quiet c mem)
  exact ⟨⟨rfl, answer, lockstep.alike.calls, next.alike.calls, next.alike.accessors⟩, next⟩

/-- On a run without remembered outputs the configuration stays and every remembered template is
its own reading. -/
theorem sound_turns {config : Config} (mode : config.renderCache ≠ .output) {calls : List Call}
    (quiet : ∀ c ∈ calls, c.Quiet) {t : Turn} (ht : t ∈ turns calls (.ofConfig config)) :
    (t.before.config = config ∧ t.before.CompiledSound) ∧
      (t.after.config = config ∧ t.after.CompiledSound) := by
  refine invariant_turns (fun e => e.config = config ∧ e.CompiledSound) ?_
    ⟨rfl, .ofConfig config⟩ ht
  rintro c hc e ⟨rfl, sound⟩
  exact Engine.sound_perform mode sound (quiet c hc)

theorem placeholderFirst_turns {config : Config} (mode : config.renderCache ≠ .output)
    {calls : List Call} (quiet : ∀ c ∈ calls, c.Quiet) {t : Turn}
    (ht : t ∈ turns calls (.ofConfig config)) : t.PlaceholderFirst := by
  intro template values request segments p items text error s s' reading before fails
  obtain ⟨hc, faithful⟩ := mem_turns ht
  obtain ⟨⟨rfl, sound⟩, -⟩ := sound_turns mode quiet ht
  obtain ⟨rfl, hp⟩ := Call.perform_of_request? request
  have rendered := (Engine.agree_render mode (quiet _ hc) sound template).answer
  rw [reading, Engine.evaluate_placeholder_error before fails] at rendered
  rw [Turn.Faithful, hp, rendered] at faithful
  exact (Prod.ext_iff.mp faithful).1.symm

/-- **Remembering templates is not observable.** An engine that remembers templates and one that
remembers nothing go through any run of requests in lock step, with any rights and any quiet hosts:
turn by turn they give the same answer, put the same questions to the same hosts and remember the
same accessors. Every template remembered on the way is its own reading, free of errors; and on
both a placeholder that fails is reported before a fault further on in the template. -/
theorem compiled_lockstep_disabled (config : Config) (calls : List Call)
    (quiet : ∀ c ∈ calls, c.Quiet) :
    List.Forall₂ Turn.InLockstep (turns calls (.ofConfig (config.withRenderCache .compiled)))
      (turns calls (.ofConfig (config.withRenderCache .disabled))) ∧
    (∀ t ∈ turns calls (.ofConfig (config.withRenderCache .compiled)),
      ∀ entry ∈ t.after.compiled.entries, scan entry.1.template = entry.2.map .ok) ∧
    ∀ mode, mode ≠ .output → ∀ t ∈ turns calls (.ofConfig (config.withRenderCache mode)),
      t.PlaceholderFirst := by
  have compiled : (config.withRenderCache .compiled).renderCache ≠ .output := nofun
  refine ⟨?_, ?_, ?_⟩
  · exact forall₂_turns_of_lockstep quiet ⟨⟨rfl, rfl, rfl⟩, rfl, rfl, .ofConfig _⟩
  · exact fun t ht => (sound_turns compiled quiet ht).2.2
  · exact fun mode hm t ht => placeholderFirst_turns hm quiet ht

/-- Hosts of one type that keep `x` in different slots: an accessor that one resolved misses on the
others. -/
def slotHost (slot : Nat) : Value :=
  .object (.ofTable "Slots" (.numbered slot) "Slots" "slots" [.holding .field "x" slot (.bool true)])

theorem quiet_slotHost (slot : Nat) : (slotHost slot).Quiet :=
  Value.quiet_ofTable (List.forall_mem_singleton.mpr (TableEntry.answers_holding (.bool true) ..)) ..

/-- Two such hosts under two names. -/
def slotValues : ValueMap := (ValueMap.empty.insert "a" (slotHost 0)).insert "b" (slotHost 1)

theorem quiet_slotValues : slotValues.All Value.Quiet :=
  (ValueMap.all_empty.insert (quiet_slotHost 0) "a").insert (quiet_slotHost 1) "b"

/-- A host is read, a placeholder fails before a stray brace, and the type is asked again. -/
def slotRun : List Call :=
  [.render "{a.x}" slotValues, .render "{b.x} \x7d" slotValues, .render "{a.x}" slotValues,
    .resolve "b.x" slotValues]

theorem quiet_slotRun : ∀ c ∈ slotRun, c.Quiet := by
  intro c hc
  simp only [slotRun, List.mem_cons, List.not_mem_nil, or_false] at hc
  rcases hc with rfl | rfl | rfl | rfl <;> exact quiet_slotValues

theorem compiled_lockstep_disabled_slotRun :
    (∀ c ∈ slotRun, c.Quiet) ∧
    List.Forall₂ Turn.InLockstep
      (turns slotRun (.ofConfig (Config.default.withRenderCache .compiled)))
      (turns slotRun (.ofConfig (Config.default.withRenderCache .disabled))) :=
  ⟨quiet_slotRun, (compiled_lockstep_disabled .default slotRun quiet_slotRun).1⟩

end Stencil
