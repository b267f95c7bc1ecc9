import Stencil.Proofs.CompiledMode
import Stencil.Proofs.Lookups
import Stencil.Proofs.OutputMode
import Mathlib.Data.Set.Card

/-!
# What the tables count

The sizes an engine reports are those of its tables, and a table spreads its entries over shards.
They are numbers of distinct keys all the same, and the keys are what a run did:

* `Grows new t t'`: the table came from the other one by insertions, under the keys `new` besides;
  such a table is as large as the set of its keys is (`Counted`);
* `History.grows`: the accessors grow by the keys of the look-ups that got one;
* `stored_render`, `stored_turns`: with quiet hosts the outputs and the templates grow by the keys of
  the renders that gave a text, each in its mode;
* `stats_count`: so the three sizes count what was rendered and what was resolved.
-/

namespace Stencil

/-! ## 1. Keys of a table -/

namespace ShardedTable

variable {κ ν : Type} [DecidableEq κ] [Hashable κ]

/-- The keys that have a value. -/
def keys (t : ShardedTable κ ν) : Set κ := {key | (t.find? key).isSome}

/-- The table is as large as the set of its keys is. -/
def Counted (t : ShardedTable κ ν) : Prop := (t.size : ℕ∞) = t.keys.encard

theorem keys_empty : (empty : ShardedTable κ ν).keys = ∅ := by
  simp [keys]

theorem counted_empty : (empty : ShardedTable κ ν).Counted := by
  rw [Counted, size_empty, keys_empty, Set.encard_empty]
  rfl

theorem keys_insertIfAbsent (t : ShardedTable κ ν) (key : κ) (value : ν) :
    (t.insertIfAbsent key value).2.keys = insert key t.keys := by
  ext x
  rw [Set.mem_insert_iff]
  show (find? _ x).isSome ↔ _
  rw [find?_insertIfAbsent]
  split
  · exact iff_of_true rfl (Or.inl ‹_›)
  · exact (or_iff_right ‹_›).symm

theorem Counted.insertIfAbsent {t : ShardedTable κ ν} (h : t.Counted) (key : κ) (value : ν) :
    (t.insertIfAbsent key value).2.Counted := by
  rw [Counted, keys_insertIfAbsent, size_insertIfAbsent]
  by_cases known : key ∈ t.keys
  · rw [if_pos (show (t.find? key).isSome from known), Set.insert_eq_of_mem known]
    exact h
  · rw [if_neg (show ¬ (t.find? key).isSome from known), Set.encard_insert_of_notMem known, ← h]
    exact Nat.cast_succ _

/-- The table `t'` came from `t` by insertions, and has values under the keys `new` besides. -/
structure Grows (new : Set κ) (t t' : ShardedTable κ ν) : Prop where
  keys : t'.keys = t.keys ∪ new
  counted : t.Counted → t'.Counted

namespace Grows

variable {new new' : Set κ} {t t' t'' : ShardedTable κ ν}

theorem refl (t : ShardedTable κ ν) : Grows ∅ t t := ⟨(Set.union_empty _).symm, id⟩

theorem insert (t : ShardedTable κ ν) (key : κ) (value : ν) :
    Grows {key} t (t.insertIfAbsent key value).2 :=
  ⟨by rw [keys_insertIfAbsent, Set.union_singleton], fun h => h.insertIfAbsent key value⟩

theorem trans (h : Grows new t t') (h' : Grows new' t' t'') : Grows (new ∪ new') t t'' :=
  ⟨by rw [h'.keys, h.keys, Set.union_assoc], fun c => h'.counted (h.counted c)⟩

/-- A table that is counted does not shrink. -/
theorem size_le (h : Grows new t t') (counted : t.Counted) : t.size ≤ t'.size := by
  have sub : t.keys ⊆ t'.keys := by
    rw [h.keys]
    exact Set.subset_union_left
  rw [← Nat.cast_le (α := ℕ∞), counted, h.counted counted]
  exact Set.encard_le_encard sub

/-- A table that began empty counts the keys that it grew by. -/
theorem size_eq (h : Grows new .empty t) : (t.size : ℕ∞) = new.encard := by
  rw [h.counted counted_empty, h.keys, keys_empty, Set.empty_union]

end Grows

end ShardedTable

open ShardedTable (Grows)

namespace Engine

/-! ## 2. Accessors -/

/-- The types and tokens that look-ups got an accessor for. -/
def resolvedKeys (looks : List Lookup) : Set AccessorKey :=
  {key | ∃ l ∈ looks, l.key = key ∧ ∃ a, l.Gets a}

theorem grows_look (l : Lookup) : Grows (resolvedKeys [l]) l.engine.accessors l.after.accessors := by
  rcases l.remembered_or_asked with
    ⟨a, found, -, -, table⟩ | ⟨absent, asks, ⟨missing, -, table⟩ | ⟨a, given, -, table⟩⟩
  · have none : resolvedKeys [l] = ∅ := by
      simp [resolvedKeys, Lookup.Gets, Lookup.asks_iff, found]
    rw [table, none]
    exact .refl _
  · have none : resolvedKeys [l] = ∅ := by
      simp [resolvedKeys, Lookup.Gets, missing]
    rw [table, none]
    exact .refl _
  · have one : resolvedKeys [l] = {l.key} := by
      ext key
      simp [resolvedKeys, Lookup.Gets, asks, given, eq_comm]
    rw [table, one]
    exact .insert ..

theorem resolvedKeys_append (looks more : List Lookup) :
    resolvedKeys (looks ++ more) = resolvedKeys looks ∪ resolvedKeys more := by
  ext key
  simp [resolvedKeys, or_and_right, exists_or]

/-- **The accessors grow by the keys of the look-ups that got one.** -/
theorem History.grows {e s : Engine} {looks : List Lookup} (h : History e looks s) :
    Grows (resolvedKeys looks) e.accessors s.accessors := by
  induction h with
  | start =>
    have none : resolvedKeys [] = ∅ := by simp [resolvedKeys]
    rw [none]
    exact .refl _
  | aside _ besides ih =>
    rw [besides.same.2.1]
    exact ih
  | read _ _ _ ih => exact ih
  | @look past l _ _ ih =>
    rw [resolvedKeys_append]
    exact ih.trans (grows_look l)

/-! ## 3. Outputs and templates -/

/-- The configuration stays, and the outputs and the templates grow by these keys. -/
structure Stored (outputs : Set RenderKey) (templates : Set TemplateKey) (e s : Engine) : Prop where
  config : s.config = e.config
  rendered : Grows outputs e.rendered s.rendered
  compiled : Grows templates e.compiled s.compiled

theorem Stored.of_kept {e s : Engine} (kept : Kept e s) : Stored ∅ ∅ e s := by
  refine ⟨kept.config, ?_, ?_⟩
  · rw [kept.rendered]
    exact .refl _
  · rw [kept.compiled]
    exact .refl _

theorem Stored.trans {outputs outputs' : Set RenderKey} {templates templates' : Set TemplateKey}
    {e s u : Engine} (h : Stored outputs templates e s) (h' : Stored outputs' templates' s u) :
    Stored (outputs ∪ outputs') (templates ∪ templates') e u :=
  ⟨h'.config.trans h.config, h.rendered.trans h'.rendered, h.compiled.trans h'.compiled⟩

theorem compiled_keepTemplate (template : String) (segments : List Segment) (e : Engine) :
    (e.keepTemplate template segments).rendered = e.rendered ∧
      (e.keepTemplate template segments).compiled =
        (e.compiled.insertIfAbsent ⟨template⟩ segments).2 := by
  have same := @ShardedTable.insertIfAbsent_snd_of_false _ _ _ _ e.compiled ⟨template⟩ segments
  unfold keepTemplate
  rcases hi : e.compiled.insertIfAbsent ⟨template⟩ segments with ⟨_ | _, table⟩
  · rw [hi] at same
    exact ⟨rfl, (same rfl).symm⟩
  · exact ⟨rfl, rfl⟩

/-- The key, if there is a text to file under it. -/
def keyOf {κ : Type} (answer : Except RenderError String) (key : κ) : Set κ :=
  {k | (∃ text, answer = .ok text) ∧ k = key}

@[simp] theorem keyOf_ok {κ : Type} (text : String) (key : κ) : keyOf (.ok text) key = {key} := by
  simp [keyOf]

@[simp] theorem keyOf_error {κ : Type} (error : RenderError) (key : κ) :
    keyOf (.error error) key = ∅ := by
  simp [keyOf]

variable {values : ValueMap}

/-- An engine that remembers outputs files the text of a render. -/
theorem stored_renderOutput (quiet : values.All Value.Quiet) (template : String) (e : Engine) :
    Stored (keyOf (e.renderOutput template values).1 (renderKey template values)) ∅ e
      (e.renderOutput template values).2 := by
  have kept := (Kept.report e (.renderMiss template (renderKey template values).names.length)).trans
    (kept_evaluate quiet (scan template) (e.missed template values))
  rcases renderOutput_cases template values e with
    ⟨text, found, h⟩ | ⟨-, ⟨error, s, hx, h⟩ | ⟨text, s, hx, h⟩⟩
  · -- the output is there already, so to insert it again changes nothing
    have again := Grows.insert e.rendered (renderKey template values) text
    rw [ShardedTable.insertIfAbsent_of_some found] at again
    rw [h, keyOf_ok]
    exact ⟨rfl, again, .refl _⟩
  · rw [hx] at kept
    rw [h, keyOf_error]
    exact .of_kept kept
  · rw [hx] at kept
    obtain ⟨config, compiled, -⟩ := keepOutput_spec (renderKey template values) text s
    have stored : Stored {renderKey template values} ∅ s
        (s.keepOutput (renderKey template values) text) := by
      refine ⟨config, ?_, ?_⟩
      · rw [rendered_keepOutput]
        exact .insert ..
      · rw [compiled]
        exact .refl _
    rw [h, keyOf_ok]
    simpa using (Stored.of_kept kept).trans stored

/-- An engine that remembers templates files the template of a render that gives a text. -/
theorem stored_renderCompiled (quiet : values.All Value.Quiet) (template : String) (e : Engine) :
    Stored ∅ (keyOf (e.renderCompiled template values).1 ⟨template⟩) e
      (e.renderCompiled template values).2 := by
  have kept := (Kept.report e (.templateMiss template)).trans
    (kept_evaluate quiet (scan template) (e.report (.templateMiss template)))
  rcases renderCompiled_cases template values e with
    ⟨segments, found, h⟩ | ⟨-, ⟨error, s, hx, h⟩ | ⟨segments, text, s, -, hx, h⟩⟩
  · have kept := (Kept.report e (.templateHit template)).trans
      (kept_evaluate quiet (segments.map .ok) (e.report (.templateHit template)))
    have again := Grows.insert e.compiled ⟨template⟩ segments
    rw [ShardedTable.insertIfAbsent_of_some found] at again
    rw [h]
    cases (evaluate values (segments.map .ok) (e.report (.templateHit template))).1 with
    | error error =>
      rw [keyOf_error]
      exact .of_kept kept
    | ok text =>
      rw [keyOf_ok]
      refine ⟨kept.config, (Stored.of_kept kept).rendered, ?_⟩
      rw [kept.compiled]
      exact again
  · rw [hx] at kept
    rw [h, keyOf_error]
    exact .of_kept kept
  · rw [hx] at kept
    obtain ⟨rendered, compiled⟩ := compiled_keepTemplate template segments s
    have stored : Stored ∅ {⟨template⟩} s (s.keepTemplate template segments) := by
      refine ⟨(keepTemplate_spec template segments s).2.1, ?_, ?_⟩
      · rw [rendered]
        exact .refl _
      · rw [compiled]
        exact .insert ..
    rw [h, keyOf_ok]
    simpa using (Stored.of_kept kept).trans stored

/-- **A render files a text or a template when it gives a text**, as the engine remembers the one,
the other or nothing. -/
theorem stored_render (quiet : values.All Value.Quiet) (template : String) (e : Engine) :
    Stored (if e.config.renderCache = .output then
          keyOf (e.render template values).1 (renderKey template values) else ∅)
      (if e.config.renderCache = .compiled then keyOf (e.render template values).1 ⟨template⟩ else ∅)
      e (e.render template values).2 := by
  unfold render
  cases e.config.renderCache with
  | output => simpa using stored_renderOutput quiet template e
  | compiled => simpa using stored_renderCompiled quiet template e
  | disabled => simpa using Stored.of_kept (kept_evaluate quiet (scan template) e)

end Engine

/-! ## 4. Runs -/

/-- The turn rendered a template with values to a text. -/
def Turn.Renders (t : Turn) (template : String) (values : ValueMap) : Prop :=
  t.call.request? = some (template, values) ∧ ∃ text, t.answer = .ok (.text text)

/-- What turns rendered to a text. -/
def rendersOf (past : List Turn) : Set (String × ValueMap) :=
  {r | ∃ t ∈ past, t.Renders r.1 r.2}

/-- The outputs that turns gave: each template with the names of the values it was rendered with. -/
def outputsGiven (past : List Turn) : Set (String × Set String) :=
  (fun r => (r.1, {name | r.2.contains name})) '' rendersOf past

/-- The templates that turns rendered to a text. -/
def templatesGiven (past : List Turn) : Set String := Prod.fst '' rendersOf past

/-- What the outputs that turns gave are filed under. -/
def outputKeys (past : List Turn) : Set RenderKey :=
  (fun r => Engine.renderKey r.1 r.2) '' rendersOf past

/-- What the templates that turns rendered are filed under. -/
def templateKeys (past : List Turn) : Set TemplateKey := TemplateKey.mk '' templatesGiven past

/-- **There are as many keys as outputs**: outputs with different templates or with a name that one
of them lacks are filed under different keys. -/
theorem encard_outputKeys (past : List Turn) :
    (outputKeys past).encard = (outputsGiven past).encard := by
  let output : RenderKey → String × Set String := fun key =>
    (key.template, {name | key.names.contains name})
  have output_renderKey : ∀ template values, output (Engine.renderKey template values) =
      (template, {name | values.contains name}) := by
    intro template values
    refine congrArg (Prod.mk template) (Set.ext fun name => ?_)
    exact iff_of_eq (congrArg (· = true) (values.contains_names name))
  have image : outputsGiven past = output '' outputKeys past := by
    rw [outputKeys, Set.image_image, outputsGiven]
    exact Set.image_congr fun r _ => (output_renderKey r.1 r.2).symm
  rw [image, Set.InjOn.encard_image]
  rintro _ ⟨r, -, rfl⟩ _ ⟨r', -, rfl⟩ same
  rw [output_renderKey, output_renderKey, Prod.mk.injEq] at same
  exact Engine.renderKey_eq_iff.mpr ⟨same.1, fun name => Bool.eq_iff_iff.mpr (Set.ext_iff.mp same.2 name)⟩

theorem encard_templateKeys (past : List Turn) :
    (templateKeys past).encard = (templatesGiven past).encard :=
  Function.Injective.encard_image (fun _ _ => congrArg TemplateKey.template) _

namespace Engine

/-- The outputs and the templates that turns filed, as the engine remembers the one, the other or
nothing. -/
def StoredBy (past : List Turn) (e s : Engine) : Prop :=
  Stored (if e.config.renderCache = .output then outputKeys past else ∅)
    (if e.config.renderCache = .compiled then templateKeys past else ∅) e s

theorem StoredBy.refl (e : Engine) : StoredBy [] e e := by
  have none : rendersOf [] = ∅ := by simp [rendersOf]
  simp [StoredBy, outputKeys, templateKeys, templatesGiven, none]
  exact .of_kept (.refl e)

theorem StoredBy.trans {past more : List Turn} {e s u : Engine} (h : StoredBy past e s)
    (h' : StoredBy more s u) : StoredBy (past ++ more) e u := by
  have both : rendersOf (past ++ more) = rendersOf past ∪ rendersOf more := by
    ext r
    simp [rendersOf, or_and_right, exists_or]
  have outputs : outputKeys (past ++ more) = outputKeys past ∪ outputKeys more := by
    rw [outputKeys, both, Set.image_union]
    rfl
  have templates : templateKeys (past ++ more) = templateKeys past ∪ templateKeys more := by
    rw [templateKeys, templatesGiven, both, Set.image_union, Set.image_union]
    rfl
  have stored := Stored.trans h h'
  rw [h.config] at stored
  unfold StoredBy
  cases mode : e.config.renderCache with
  | output => simpa [outputs, mode] using stored
  | compiled => simpa [templates, mode] using stored
  | disabled => simpa [mode] using stored

end Engine

/-- **A turn files what it renders.** -/
theorem Turn.stored {t : Turn} (faithful : t.Faithful) (quiet : t.call.Quiet) :
    Engine.StoredBy [t] t.before t.after := by
  have nothing : t.call.request? = none → Engine.Kept t.before t.after →
      Engine.StoredBy [t] t.before t.after := by
    intro request kept
    have none : rendersOf [t] = ∅ := by simp [rendersOf, Turn.Renders, request]
    simpa [Engine.StoredBy, outputKeys, templateKeys, templatesGiven, none] using
      Engine.Stored.of_kept kept
  rcases t.call.perform_cases with ⟨template, request, performs⟩ | ⟨request, performs⟩ |
    ⟨request, expression, performs⟩
  · rw [Faithful, performs] at faithful
    obtain ⟨answer, after⟩ := Prod.mk.inj faithful
    have stored := Engine.stored_render quiet template t.before
    rw [after] at stored
    cases given : (t.before.render template t.call.values).1 with
    | error error =>
      have none : rendersOf [t] = ∅ := by
        simp [rendersOf, Turn.Renders, ← answer, given, Except.map]
      rw [given] at stored
      simpa [Engine.StoredBy, outputKeys, templateKeys, templatesGiven, none] using stored
    | ok text =>
      have one : rendersOf [t] = {(template, t.call.values)} := by
        ext r
        simp [rendersOf, Turn.Renders, ← answer, given, Except.map, request, Prod.ext_iff, eq_comm]
      rw [given] at stored
      simpa [Engine.StoredBy, outputKeys, templateKeys, templatesGiven, one] using stored
  · rw [Faithful, performs] at faithful
    obtain ⟨-, after⟩ := Prod.mk.inj faithful
    exact nothing request (after ▸ .refl _)
  · rw [Faithful, performs] at faithful
    obtain ⟨-, after⟩ := Prod.mk.inj faithful
    exact nothing request (after ▸ Engine.kept_resolve quiet expression t.before)

/-- With quiet hosts the turns of a run file what they render. -/
theorem storedBy_turns {calls : List Call} (quiet : ∀ c ∈ calls, c.Quiet) (e : Engine) :
    Engine.StoredBy (turns calls e) e (e.performAll calls) :=
  history_performAll (fun past s => Engine.StoredBy past e s)
    (fun _ _ hc faithful before => before.trans (Turn.stored faithful (quiet _ hc))) (.refl e)

/-! ## 5. The sizes -/

/-- Sizes are compared table by table. -/
instance : LE CacheStats :=
  ⟨fun s t => s.rendered ≤ t.rendered ∧ s.compiled ≤ t.compiled ∧ s.accessors ≤ t.accessors⟩

/-- Every table of the engine is as large as the set of its keys is. -/
structure Engine.Counted (e : Engine) : Prop where
  rendered : e.rendered.Counted
  compiled : e.compiled.Counted
  accessors : e.accessors.Counted

/-- **A request takes nothing away.** -/
theorem Engine.Counted.perform {e : Engine} (h : e.Counted) {c : Call} (quiet : c.Quiet) :
    e.stats ≤ (c.perform e).2.stats ∧ (c.perform e).2.Counted := by
  have stored := Turn.stored (t := ⟨c, e, (c.perform e).1, (c.perform e).2⟩) rfl quiet
  obtain ⟨looks, history⟩ := (perform_leads quiet.civil e).exists_history
  have accessors := history.grows
  refine ⟨⟨stored.rendered.size_le h.rendered, stored.compiled.size_le h.compiled,
    accessors.size_le h.accessors⟩, ?_⟩
  exact ⟨stored.rendered.counted h.rendered, stored.compiled.counted h.compiled,
    accessors.counted h.accessors⟩

/-- **The sizes of the tables count what a run did.** After any requests with quiet hosts, and so at
every point of a run, the number of outputs is that of the templates and sets of names that were
rendered to a text so far, if outputs are remembered, and zero otherwise; the number of templates is
that of the templates that were, if templates are remembered, and zero otherwise; and the number of
accessors is that of the types and tokens for which a look-up got an accessor, whatever became of the
request that it was made for. No turn lowers one of them, and to render no template changes
nothing. -/
theorem stats_count (config : Config) (calls : List Call) (quiet : ∀ c ∈ calls, c.Quiet) :
    let past := turns calls (.ofConfig config)
    let now := (Engine.ofConfig config).performAll calls
    (now.stats.rendered : ℕ∞) =
        (if config.renderCache = .output then (outputsGiven past).encard else 0) ∧
      (now.stats.compiled : ℕ∞) =
        (if config.renderCache = .compiled then (templatesGiven past).encard else 0) ∧
      (∃ looks, Engine.History (.ofConfig config) looks now) ∧
      (∀ looks, Engine.History (.ofConfig config) looks now →
        (now.stats.accessors : ℕ∞) = (Engine.resolvedKeys looks).encard) ∧
      ∀ t ∈ past, t.before.stats ≤ t.after.stats ∧
        ∀ values, t.call = .renderOpt none values → t.after = t.before := by
  have stored := storedBy_turns quiet (.ofConfig config)
  have start : (Engine.ofConfig config).Counted :=
    ⟨ShardedTable.counted_empty, ShardedTable.counted_empty, ShardedTable.counted_empty⟩
  refine ⟨?_, ?_, ?_, fun looks history => history.grows.size_eq, fun t ht => ⟨?_, ?_⟩⟩
  · rw [← encard_outputKeys, ← Set.encard_empty, ← apply_ite]
    exact stored.rendered.size_eq
  · rw [← encard_templateKeys, ← Set.encard_empty, ← apply_ite]
    exact stored.compiled.size_eq
  · exact (Engine.performAll_leads (fun c hc => (quiet c hc).civil) _).exists_history
  · obtain ⟨hc, faithful⟩ := mem_turns ht
    have before := (invariant_turns Engine.Counted
      (fun c hc e counted => (counted.perform (quiet c hc)).2) start ht).1
    have le := (before.perform (quiet _ hc)).1
    rw [faithful] at le
    exact le
  · intro values none
    have faithful := (mem_turns ht).2
    rw [Turn.Faithful, none] at faithful
    exact (Prod.mk.inj faithful).2.symm

/-- A template with a field of a host, a path that fails behind the field, and the field of another
host of the type. -/
def sizeRun : List Call :=
  [.render "{a.x}" slotValues, .resolve "a.x.z" slotValues, .resolve "b.x" slotValues]

theorem quiet_sizeRun : ∀ c ∈ sizeRun, c.Quiet := by
  intro c hc
  simp only [sizeRun, List.mem_cons, List.not_mem_nil, or_false] at hc
  rcases hc with rfl | rfl | rfl <;> exact quiet_slotValues

/-- An engine that remembers templates. -/
def sizeConfig : Config := Config.default.withRenderCache .compiled

theorem scan_slotField : scan "{a.x}" = [.ok (.placeholder ⟨"a.x", none, 0⟩)] := by
  have first : (Scanner.start "{a.x}").next? =
      some (.ok (.placeholder ⟨"a.x", none, 0⟩), ⟨[], 5, false⟩) := rfl
  have last : (⟨[], 5, false⟩ : Scanner).next? = none := rfl
  rw [scan, Scanner.items_of_ok first, Scanner.items_of_none last]

theorem stats_sizeRun :
    ((Engine.ofConfig sizeConfig).performAll sizeRun).stats = ⟨0, 1, 1⟩ := by
  show (Engine.resolve "b.x" slotValues (Engine.resolve "a.x.z" slotValues
    (Engine.renderCompiled "{a.x}" slotValues (.ofConfig sizeConfig)).2).2).2.stats = _
  unfold Engine.renderCompiled
  rw [scan_slotField]
  rfl

/-- The template counts, and the field counts once for both hosts. -/
theorem stats_count_sizeRun :
    (∀ c ∈ sizeRun, c.Quiet) ∧
    ((Engine.ofConfig sizeConfig).performAll sizeRun).stats = ⟨0, 1, 1⟩ ∧
    (templatesGiven (turns sizeRun (.ofConfig sizeConfig))).encard = 1 ∧
    ∃ looks, Engine.History (.ofConfig sizeConfig) looks
        ((Engine.ofConfig sizeConfig).performAll sizeRun) ∧
      (Engine.resolvedKeys looks).encard = 1 := by
  obtain ⟨-, templates, ⟨looks, history⟩, accessors, -⟩ := stats_count sizeConfig sizeRun quiet_sizeRun
  rw [stats_sizeRun] at templates accessors
  exact ⟨quiet_sizeRun, stats_sizeRun, templates.symm, looks, history, (accessors looks history).symm⟩

end Stencil
