import Stencil.Proofs.CivilHosts
import Stencil.Proofs.CompiledMode

/-!
# Requests that fail

A request that fails leaves an engine as it was, but for accessors it learnt on its way, with quiet
hosts:

* `evaluate_eq_error`: evaluation fails at the leftmost item that fails: what stands before it is
  evaluated to a text, and what stands behind it is not reached;
* `render_eq_error`: whatever is remembered of templates, a render that fails does what this
  evaluation does, and keeps both tables of templates;
* `Leads.learns`: an accessor that is new was resolved, when it was asked, by a host that the values
  lead to, for a step that was taken;
* `failure_changes_nothing`: so it is with every turn of a run that fails.
-/

namespace Stencil

/-! ## 1. What is learnt -/

/-- The values that a map holds, and those that hosts among them answer with. -/
inductive ValueMap.Offers (values : ValueMap) : Value → Prop where
  | root {name : String} {v : Value} (found : values.find? name = some v) : values.Offers v
  | answer {v w : Value} {r : Object Value} {a : Accessor} {e : Engine} (offered : values.Offers v)
      (receiver : v.receiver? = some r) (given : (r.invoke a e).1 = .ok w) : values.Offers w

/-- The token, the name and the kind that a step looks up: those of its field or its method, or
those of the getter of its field. -/
inductive Step.Seeks : Step → String → String → AccessKind → Prop where
  | field {name : String} : Seeks ⟨name, false⟩ name name .field
  | call {name : String} : Seeks ⟨name, true⟩ (callToken name) name .method
  | getter {name : String} :
      Seeks ⟨name, false⟩ (callToken (Engine.getterOf name)) (Engine.getterOf name) .method

namespace Engine

/-- Every accessor that is new in the later state is the answer of a host that the values lead to:
it was asked on the way, and resolved what one of the steps seeks. -/
def Learns (values : ValueMap) (taken : Step → Prop) (e s : Engine) : Prop :=
  ∃ asked, s.calls = asked ++ e.calls ∧ ∀ key a, e.accessors.find? key = none →
    s.accessors.find? key = some a → ∃ v r step name kind, values.Offers v ∧
      v.receiver? = some r ∧ r.typeKey = key.receiver ∧ taken step ∧
      step.Seeks key.token name kind ∧ r.resolve name kind = some a ∧
      .resolve r.typeKey r.identity kind name ∈ asked

/-- A taken step, from a receiver that the values lead to. -/
def stepsOn (values : ValueMap) (taken : Step → Prop) (r : Object Value) (s : Step) : Prop :=
  (∃ v, values.Offers v ∧ v.receiver? = some r) ∧ taken s

/-- A quiet value that the values lead to. -/
def QuietOffer (values : ValueMap) (v : Value) : Prop := v.Quiet ∧ values.Offers v

variable {values : ValueMap} {taken : Step → Prop} {e s : Engine}

theorem realm_quiet (values : ValueMap) (taken : Step → Prop) :
    Realm (stepsOn values taken) (QuietOffer values) where
  reads := by
    rintro v r ⟨quiet, -⟩ hr a e
    obtain ⟨read, reads, -⟩ := quiet.receiver hr
    rw [reads]
    exact .refl e
  answers := by
    rintro v r ⟨quiet, offered⟩ hr a e w hw
    obtain ⟨read, reads, answers⟩ := quiet.receiver hr
    refine ⟨?_, .answer offered hr hw⟩
    rw [reads] at hw
    exact answers _ a w hw

theorem covers_stepsOn (values : ValueMap) (taken : Step → Prop) :
    Covers (stepsOn values taken) (QuietOffer values) taken :=
  fun _ hs {v _} good hr => ⟨⟨v, good.2, hr⟩, hs⟩

theorem quietOffer_all (quiet : values.All Value.Quiet) : values.All (QuietOffer values) :=
  fun name v hv => ⟨quiet name v hv, .root hv⟩

/-- A look-up that is due is for what one of the steps seeks. -/
theorem Due.seeks {c : Config} {steps : Object Value → Step → Prop} {past : List Deed}
    {r : Object Value} {token name : String} {kind : AccessKind} {answer : Option Accessor}
    (h : Due c steps past (.look r token name kind answer)) :
    ∃ s, steps r s ∧ s.Seeks token name kind := by
  cases h with
  | field mem => exact ⟨_, mem, .field⟩
  | call mem => exact ⟨_, mem, .call⟩
  | getter mem => exact ⟨_, mem, .getter⟩

/-- **What is new at the end of a course was learnt from a host on it.** -/
theorem Leads.learns (h : Leads (stepsOn values taken) e s) : Learns values taken e s := by
  obtain ⟨deeds, trail, course⟩ := h
  obtain ⟨asked, accounts⟩ := trail.accounts
  refine ⟨asked, accounts.calls, fun key a absent found => ?_⟩
  rcases accounts.accessors key a found with known | ⟨d, hd, r, name, kind, rfl, type, given, mem⟩
  · rw [absent] at known
    cases known
  · obtain ⟨newer, older, rfl⟩ := List.append_of_mem hd
    obtain ⟨step, ⟨⟨v, offered, hr⟩, hs⟩, seeks⟩ := course.due.seeks
    exact ⟨v, r, step, name, kind, offered, hr, type, hs, seeks, given, mem⟩

theorem Leads.find?_of_some {steps : Object Value → Step → Prop} (h : Leads steps e s)
    {key : AccessorKey} {a : Accessor} (found : e.accessors.find? key = some a) :
    s.accessors.find? key = some a := by
  obtain ⟨_, trail, -⟩ := h
  exact trail.find?_of_some found

theorem evaluate_leads (quiet : values.All Value.Quiet) (items : Scan) (e : Engine) :
    Leads (stepsOn values items.Takes) e (evaluate values items e).2 :=
  (realm_quiet values items.Takes).evaluate (quietOffer_all quiet) (covers_stepsOn _ _) e

theorem resolve_leads (quiet : values.All Value.Quiet) (expression : String) (e : Engine) :
    Leads (stepsOn values (Path.Takes expression)) e (e.resolve expression values).2 :=
  ((realm_quiet values (Path.Takes expression)).resolve (quietOffer_all quiet)
    (covers_stepsOn _ _) e).1

/-! ## 2. Where evaluation fails -/

/-- An item fails: it is a fault of the template, or a placeholder that cannot be filled in. -/
inductive Fails (values : ValueMap) (e : Engine) :
    Except ScanError Segment → RenderError → Engine → Prop where
  | fault (error : ScanError) : Fails values e (.error error) (.scan error) e
  | placeholder {p : Placeholder} {error : RenderError} {s : Engine}
      (fails : e.fillIn values p = (.error error, s)) :
      Fails values e (.ok (.placeholder p)) error s

theorem Fails.evaluate {item : Except ScanError Segment} {error : RenderError}
    (h : Fails values e item error s) (items : Scan) :
    Engine.evaluate values (item :: items) e = (.error error, s) := by
  cases h with
  | fault error => rfl
  | placeholder fails =>
    rw [Engine.evaluate, evaluateSegment, fails]

/-- **Evaluation fails at the leftmost item that fails**: what stands before it gives a text. -/
theorem evaluate_eq_error {items : Scan} {error : RenderError}
    (h : evaluate values items e = (.error error, s)) :
    ∃ (done : List Segment) (failing : Except ScanError Segment) (rest : Scan) (text : String)
      (t : Engine), items = done.map .ok ++ failing :: rest ∧
      evaluate values (done.map .ok) e = (.ok text, t) ∧ Fails values t failing error s := by
  induction items generalizing e with
  | nil => cases h
  | cons item items ih =>
    cases item with
    | error fault =>
      cases h
      exact ⟨[], .error fault, items, "", _, rfl, rfl, .fault fault⟩
    | ok segment =>
      rcases hx : e.evaluateSegment values segment with ⟨other | first, t⟩
      · rw [evaluate, hx] at h
        cases h
        cases segment with
        | literal text => cases hx
        | placeholder p =>
          exact ⟨[], .ok (.placeholder p), items, "", e, rfl, rfl, .placeholder hx⟩
      · rcases hy : evaluate values items t with ⟨other | rest, u⟩
        · rw [evaluate, hx] at h
          simp only [hy] at h
          cases h
          obtain ⟨done, failing, rest, text, u, rfl, before, fails⟩ := ih hy
          refine ⟨segment :: done, failing, rest, first ++ text, u, rfl, ?_, fails⟩
          rw [List.map_cons, evaluate, hx]
          simp only [before]
        · rw [evaluate, hx] at h
          simp only [hy] at h
          cases h

/-! ## 3. Renders that fail -/

/-- What is reported before an evaluation does not show in it. -/
theorem evaluate_report (quiet : values.All Value.Quiet) (items : Scan) (event : Event)
    (e : Engine) : ∃ answer t t', evaluate values items e = (answer, t) ∧
      evaluate values items (e.report event) = (answer, t') ∧ Alike t t' ∧ Kept e t' := by
  obtain ⟨answer, t, t', h, h', -, alike, -, kept⟩ :=
    (evaluate_quiet quiet items (Alike.report e event)).split
  exact ⟨answer, t, t', h, h', alike, (Kept.report e event).trans kept⟩

/-- A render has failed as the evaluation of the template does, and changed no table of
templates. -/
def FailsAs (values : ValueMap) (template : String) (e : Engine) (error : RenderError)
    (s : Engine) : Prop :=
  ∃ t, evaluate values (scan template) e = (.error error, t) ∧ Alike t s ∧ Kept e s

variable {template : String} {error : RenderError}

theorem renderOutput_eq_error (quiet : values.All Value.Quiet)
    (h : e.renderOutput template values = (.error error, s)) :
    FailsAs values template e error s := by
  obtain ⟨answer, t, t', before, after, alike, kept⟩ := evaluate_report quiet (scan template)
    (.renderMiss template (renderKey template values).names.length) e
  rcases renderOutput_cases template values e with
    ⟨text, -, h'⟩ | ⟨-, ⟨other, u, hx, h'⟩ | ⟨text, u, -, h'⟩⟩
  · rw [h'] at h
    cases h
  · rw [h'] at h
    cases h
    obtain ⟨rfl, rfl⟩ := Prod.mk.inj (hx.symm.trans after)
    exact ⟨t, before, alike, kept⟩
  · rw [h'] at h
    cases h

theorem renderCompiled_eq_error (quiet : values.All Value.Quiet) (sound : e.CompiledSound)
    (h : e.renderCompiled template values = (.error error, s)) :
    FailsAs values template e error s := by
  rcases renderCompiled_cases template values e with
    ⟨segments, found, h'⟩ | ⟨-, ⟨other, u, hx, h'⟩ | ⟨segments, text, u, -, -, h'⟩⟩
  · obtain ⟨answer, t, t', before, after, alike, kept⟩ :=
      evaluate_report quiet (scan template) (.templateHit template) e
    rw [h', ← sound.scan_eq found, after] at h
    cases h
    exact ⟨t, before, alike, kept⟩
  · obtain ⟨answer, t, t', before, after, alike, kept⟩ :=
      evaluate_report quiet (scan template) (.templateMiss template) e
    rw [h', ← hx, after] at h
    cases h
    exact ⟨t, before, alike, kept⟩
  · rw [h'] at h
    cases h

/-- **A render that fails does what the evaluation of its template does**, whatever is remembered
of templates, and changes no table of templates. -/
theorem render_eq_error (quiet : values.All Value.Quiet)
    (sound : e.config.renderCache = .compiled → e.CompiledSound)
    (h : e.render template values = (.error error, s)) : FailsAs values template e error s := by
  unfold render at h
  cases hm : e.config.renderCache with
  | output =>
    rw [hm] at h
    exact renderOutput_eq_error quiet h
  | compiled =>
    rw [hm] at h
    exact renderCompiled_eq_error quiet (sound hm) h
  | disabled =>
    rw [hm] at h
    have h : evaluate values (scan template) e = (.error error, s) := h
    have kept := kept_evaluate quiet (scan template) e
    rw [h] at kept
    exact ⟨s, h, .refl s, kept⟩

/-- What is learnt shows in the questions and in the remembered accessors only. -/
theorem Learns.congr {t : Engine} (h : Learns values taken e t) (calls : s.calls = t.calls)
    (accessors : s.accessors = t.accessors) : Learns values taken e s := by
  unfold Learns
  rw [calls, accessors]
  exact h

/-- **A render that fails stops at the leftmost item that fails**, with nothing learnt but for the
placeholders up to there. -/
theorem FailsAs.stop (h : FailsAs values template e error s) (quiet : values.All Value.Quiet) :
    ∃ (done : List Segment) (failing : Except ScanError Segment) (rest : Scan) (text : String)
      (t u : Engine), scan template = done.map .ok ++ failing :: rest ∧
        evaluate values (done.map .ok) e = (.ok text, t) ∧ Fails values t failing error u ∧
        s.calls = u.calls ∧ s.accessors = u.accessors ∧
        Learns values (Scan.Takes (done.map .ok ++ [failing])) e s := by
  obtain ⟨u, evaluated, alike, -⟩ := h
  obtain ⟨done, failing, rest, text, t, items, before, fails⟩ := evaluate_eq_error evaluated
  refine ⟨done, failing, rest, text, t, u, items, before, fails, alike.calls, alike.accessors, ?_⟩
  -- the evaluation of the items up to the failing one ends where that of the whole template does
  have reached : evaluate values (done.map .ok ++ [failing]) e = (.error error, u) := by
    rw [evaluate_append before, fails.evaluate]
    rfl
  have leads := evaluate_leads quiet (done.map .ok ++ [failing]) e
  rw [reached] at leads
  exact leads.learns.congr alike.calls alike.accessors

end Engine

/-! ## 4. Runs -/

theorem map_reply_eq_error {α : Type} {x : Except RenderError α} {f : α → Reply}
    {error : RenderError} (h : x.map f = .error error) : x = .error error := by
  cases x with
  | error other =>
    cases h
    rfl
  | ok v => cases h

/-- A turn with a render that fails has failed as the evaluation of its template does. -/
theorem Turn.failsAs {t : Turn} {template : String} {values : ValueMap} {error : RenderError}
    (faithful : t.Faithful) (failed : t.answer = .error error)
    (request : t.call.request? = some (template, values)) (quiet : values.All Value.Quiet)
    (sound : t.before.config.renderCache = .compiled → t.before.CompiledSound) :
    Engine.FailsAs values template t.before error t.after := by
  obtain ⟨-, performs⟩ := Call.perform_of_request? request
  rw [Turn.Faithful, performs] at faithful
  obtain ⟨answer, after⟩ := Prod.mk.inj faithful
  exact Engine.render_eq_error quiet sound
    (Prod.ext (map_reply_eq_error (answer.trans failed)) after)

/-- A turn that resolves a path ends as the resolution does. -/
theorem Turn.after_resolve {t : Turn} {expression : String} {values : ValueMap}
    (faithful : t.Faithful) (call : t.call = .resolve expression values) :
    t.after = (t.before.resolve expression values).2 := by
  rw [Turn.Faithful, call] at faithful
  exact (Prod.mk.inj faithful).2.symm

/-- A request that fails renders a template or resolves a path. -/
theorem Turn.request_of_error {t : Turn} {error : RenderError} (faithful : t.Faithful)
    (failed : t.answer = .error error) :
    (∃ template, t.call.request? = some (template, t.call.values)) ∨
      ∃ expression, t.call = .resolve expression t.call.values := by
  cases hc : t.call with
  | render template values => exact Or.inl ⟨template, rfl⟩
  | resolve expression values => exact Or.inr ⟨expression, rfl⟩
  | renderOpt template values =>
    cases template with
    | some template => exact Or.inl ⟨template, rfl⟩
    | none =>
      rw [Turn.Faithful, hc] at faithful
      rw [← (Prod.mk.inj faithful).1] at failed
      cases failed

/-- **A request that fails leaves the engine as it was.** In any run with quiet hosts, whatever the
engine remembers, a turn that ends with an error

* changes no output and no template that is remembered, and keeps every remembered accessor;
* if it renders, reports the leftmost item of the template that fails: the items before it give a
  text, the error is that of the item, and no question is put to a host after it;
* learns an accessor only from a host that resolved it for a step of a placeholder up to the failing
  one or, if it resolves a path, for a step of that path. -/
theorem failure_changes_nothing (config : Config) (calls : List Call)
    (quiet : ∀ c ∈ calls, c.Quiet) (t : Turn) (ht : t ∈ turns calls (.ofConfig config))
    (error : RenderError) (failed : t.answer = .error error) :
    t.after.rendered = t.before.rendered ∧ t.after.compiled = t.before.compiled ∧
    (∀ key a, t.before.accessors.find? key = some a → t.after.accessors.find? key = some a) ∧
    (∀ template values, t.call.request? = some (template, values) →
      ∃ (done : List Segment) (failing : Except ScanError Segment) (rest : Scan) (text : String)
        (s s' : Engine), scan template = done.map .ok ++ failing :: rest ∧
          Engine.evaluate values (done.map .ok) t.before = (.ok text, s) ∧
          Engine.Fails values s failing error s' ∧
          t.after.calls = s'.calls ∧ t.after.accessors = s'.accessors ∧
          Engine.Learns values (Scan.Takes (done.map .ok ++ [failing])) t.before t.after) ∧
    ∀ expression values, t.call = .resolve expression values →
      Engine.Learns values (Path.Takes expression) t.before t.after := by
  obtain ⟨hc, faithful⟩ := mem_turns ht
  obtain ⟨same, leads⟩ := leads_turns (fun c hc => (quiet c hc).civil) ht
  have sound : t.before.config.renderCache = .compiled → t.before.CompiledSound := by
    intro mode
    rw [same] at mode
    have other : config.renderCache ≠ .output := fun output => nomatch mode.symm.trans output
    exact (sound_turns other quiet ht).1.2
  have stops : ∀ template values, t.call.request? = some (template, values) →
      values.All Value.Quiet ∧ Engine.FailsAs values template t.before error t.after := by
    intro template values request
    have quiet : values.All Value.Quiet := by
      rw [(Call.perform_of_request? request).1]
      exact quiet _ hc
    exact ⟨quiet, Turn.failsAs faithful failed request quiet sound⟩
  have kept : Engine.Kept t.before t.after := by
    rcases Turn.request_of_error faithful failed with ⟨template, request⟩ | ⟨expression, call⟩
    · obtain ⟨-, _, -, -, kept⟩ := stops _ _ request
      exact kept
    · rw [Turn.after_resolve faithful call]
      exact Engine.kept_resolve (quiet _ hc) expression t.before
  refine ⟨kept.rendered, kept.compiled, fun key a => leads.find?_of_some, ?_, ?_⟩
  · intro template values request
    obtain ⟨quiet, fails⟩ := stops template values request
    exact fails.stop quiet
  · intro expression values call
    have quiet : values.All Value.Quiet := by
      have := quiet _ hc
      rw [call] at this
      exact this
    rw [Turn.after_resolve faithful call]
    exact (Engine.resolve_leads quiet expression t.before).learns

/-- The second placeholder fails, on an accessor that the first one learnt, before a brace that is
never closed. -/
def stopTemplate : String := "{a.x}{b.x}\x7bc"

theorem scan_stopTemplate : scan stopTemplate = [.ok (.placeholder ⟨"a.x", none, 0⟩),
    .ok (.placeholder ⟨"b.x", none, 5⟩), .error (.unmatchedBrace 10)] := by
  have first : (Scanner.start stopTemplate).next? = some (.ok (.placeholder ⟨"a.x", none, 0⟩),
      ⟨"{b.x}\x7bc".toList, 5, false⟩) := rfl
  have second : (⟨"{b.x}\x7bc".toList, 5, false⟩ : Scanner).next? =
      some (.ok (.placeholder ⟨"b.x", none, 5⟩), ⟨"\x7bc".toList, 10, false⟩) := rfl
  have third : (⟨"\x7bc".toList, 10, false⟩ : Scanner).next? =
      some (.error (.unmatchedBrace 10), ⟨"\x7bc".toList, 10, true⟩) := rfl
  rw [scan, Scanner.items_of_ok first, Scanner.items_of_ok second, Scanner.items_of_error third]

def stopCall : Call := .render stopTemplate slotValues

def stopEngine : Engine := .ofConfig (Config.default.withRenderCache .compiled)

/-- The one turn of a run with this request. -/
def stopTurn : Turn :=
  ⟨stopCall, stopEngine, (stopCall.perform stopEngine).1, (stopCall.perform stopEngine).2⟩

/-- What the placeholder reports. -/
def stopError : RenderError := .access "b.x" "x" (.unknownSlot "Slots" 0)

theorem performed_stopTurn :
    stopTurn.answer = .error stopError ∧ stopTurn.after.accessors.size = 1 := by
  show (Engine.renderCompiled ..).1.map _ = _ ∧ (Engine.renderCompiled ..).2.accessors.size = 1
  unfold Engine.renderCompiled
  rw [scan_stopTemplate]
  exact ⟨rfl, rfl⟩

theorem failure_changes_nothing_stopTurn :
    (∀ c ∈ [stopCall], c.Quiet) ∧ stopTurn ∈ turns [stopCall] stopEngine ∧
    stopTurn.answer = .error stopError ∧ stopTurn.after.accessors.size = 1 ∧
    stopTurn.after.compiled = stopTurn.before.compiled ∧
    ∃ (done : List Segment) (failing : Except ScanError Segment) (rest : Scan) (text : String)
      (s s' : Engine), scan stopTemplate = done.map .ok ++ failing :: rest ∧
        Engine.evaluate slotValues (done.map .ok) stopEngine = (.ok text, s) ∧
        Engine.Fails slotValues s failing stopError s' ∧ stopTurn.after.calls = s'.calls := by
  have quiet : ∀ c ∈ [stopCall], c.Quiet := List.forall_mem_singleton.mpr quiet_slotValues
  have member : stopTurn ∈ turns [stopCall] stopEngine := List.mem_singleton_self stopTurn
  obtain ⟨answer, size⟩ := performed_stopTurn
  obtain ⟨-, compiled, -, stops, -⟩ :=
    failure_changes_nothing _ _ quiet stopTurn member stopError answer
  obtain ⟨done, failing, rest, text, s, s', items, before, fails, calls, -⟩ := stops _ _ rfl
  exact ⟨quiet, member, answer, size, compiled, done, failing, rest, text, s, s', items, before,
    fails, calls⟩

end Stencil
