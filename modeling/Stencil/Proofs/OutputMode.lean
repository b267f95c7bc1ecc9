import Stencil.Proofs.QuietHosts
import Stencil.Proofs.Tables

/-!
# Remembered outputs

An engine that remembers outputs files each of them under the template and the set of the names of
the values. With quiet hosts, over any run of requests:

* `Call.sameKey_iff`: requests share a key when they render one template with values under the same
  names, whatever the values and however their maps were put together;
* `renderOutput_hit`, `renderOutput_miss`: a render gives the output that is remembered, and without
  one it is evaluated and a success remembered;
* `rendered_turns`: the outputs remembered before a turn are the first ones of the turns before it;
* `first_output_wins`: so a request is answered by the first success with its key, if there was one.
-/

namespace Stencil

/-! ## 1. Keys -/

namespace Call

/-- Two requests render one template with values under the same names. -/
def SameKey (c d : Call) : Prop :=
  ∃ template values values', c.request? = some (template, values) ∧
    d.request? = some (template, values') ∧ ∀ name, values.contains name = values'.contains name

/-- What the output of a request is filed under, if it renders. -/
def key? (c : Call) : Option RenderKey := c.request?.map fun r => Engine.renderKey r.1 r.2

end Call

/-- **Outputs share a key just when template and set of names are the same.** -/
theorem Engine.renderKey_eq_iff {template template' : String} {values values' : ValueMap} :
    renderKey template values = renderKey template' values' ↔
      template = template' ∧ ∀ name, values.contains name = values'.contains name := by
  constructor
  · intro h
    obtain ⟨rfl, names⟩ := RenderKey.mk.inj h
    refine ⟨rfl, fun name => ?_⟩
    rw [← values.contains_names, ← values'.contains_names]
    exact congrArg (List.contains · name) names
  · rintro ⟨rfl, same⟩
    have names : values.names = values'.names := by
      refine Text.NameSet.ext_contains fun name => ?_
      rw [values.contains_names, values'.contains_names, same]
    rw [renderKey, names, renderKey]

theorem Call.sameKey_iff {c d : Call} :
    c.SameKey d ↔ ∃ key, c.key? = some key ∧ d.key? = some key := by
  constructor
  · rintro ⟨template, values, values', hc, hd, same⟩
    refine ⟨Engine.renderKey template values, ?_, ?_⟩
    · rw [key?, hc]
      rfl
    · rw [key?, hd, Engine.renderKey_eq_iff.mpr ⟨rfl, same⟩]
      rfl
  · rintro ⟨key, hc, hd⟩
    obtain ⟨⟨template, values⟩, first, rfl⟩ := Option.map_eq_some_iff.mp hc
    obtain ⟨⟨template', values'⟩, second, keys⟩ := Option.map_eq_some_iff.mp hd
    obtain ⟨rfl, same⟩ := Engine.renderKey_eq_iff.mp keys
    exact ⟨_, values, values', first, second, fun name => (same name).symm⟩

namespace Engine

/-! ## 2. One render -/

variable {template : String} {values : ValueMap} {e : Engine}

/-- To keep an output is to insert it, whether or not there is one already. -/
theorem rendered_keepOutput (key : RenderKey) (text : String) (e : Engine) :
    (e.keepOutput key text).rendered = (e.rendered.insertIfAbsent key text).2 := by
  have same := @ShardedTable.insertIfAbsent_snd_of_false _ _ _ _ e.rendered key text
  unfold keepOutput
  rcases hi : e.rendered.insertIfAbsent key text with ⟨_ | _, table⟩
  · rw [hi] at same
    exact (same rfl).symm
  · rfl

/-- An output is kept under its key when there is none, and nothing else is changed. -/
theorem keepOutput_spec (key : RenderKey) (text : String) (e : Engine) :
    (e.keepOutput key text).config = e.config ∧
      (e.keepOutput key text).compiled = e.compiled ∧
      ∀ x, (e.keepOutput key text).rendered.find? x =
        if x = key then some ((e.rendered.find? key).getD text) else e.rendered.find? x := by
  have rest : (e.keepOutput key text).config = e.config ∧
      (e.keepOutput key text).compiled = e.compiled := by
    unfold keepOutput
    split <;> exact ⟨rfl, rfl⟩
  refine ⟨rest.1, rest.2, fun x => ?_⟩
  rw [rendered_keepOutput, ShardedTable.find?_insertIfAbsent]

/-- **A remembered output is given again**, and nothing happens besides. -/
theorem renderOutput_hit {text : String}
    (h : e.rendered.find? (renderKey template values) = some text) :
    e.renderOutput template values = (.ok text, e.report (.renderHit template)) := by
  rw [renderOutput, h]

/-- **Without a remembered output a template is evaluated.** A success is remembered, a failure is
not. -/
theorem renderOutput_miss (quiet : values.All Value.Quiet)
    (h : e.rendered.find? (renderKey template values) = none) :
    (e.renderOutput template values).1 = (evaluate values (scan template) e).1 ∧
      (e.renderOutput template values).2.config = e.config ∧
      (e.renderOutput template values).2.compiled = e.compiled ∧
      (∀ error, (e.renderOutput template values).1 = .error error →
        (e.renderOutput template values).2.rendered = e.rendered) ∧
      ∀ text, (e.renderOutput template values).1 = .ok text → ∀ x,
        (e.renderOutput template values).2.rendered.find? x =
          if x = renderKey template values then some text else e.rendered.find? x := by
  have missed := Kept.report e (.renderMiss template (renderKey template values).names.length)
  have alike := Alike.report e (.renderMiss template (renderKey template values).names.length)
  obtain ⟨a, s, s', hx, hy, -, -, -, kept⟩ := (evaluate_quiet quiet (scan template) alike).split
  replace kept := missed.trans kept
  rw [renderOutput, h]
  dsimp only
  rw [hx, hy]
  cases a with
  | error error =>
    refine ⟨rfl, kept.config, kept.compiled, fun _ _ => kept.rendered, fun text ht => ?_⟩
    cases ht
  | ok text =>
    obtain ⟨config, compiled, stored⟩ := keepOutput_spec (renderKey template values) text s'
    refine ⟨rfl, config.trans kept.config, compiled.trans kept.compiled, fun _ he => ?_, ?_⟩
    · cases he
    · intro text' ht x
      obtain rfl : text = text' := Except.ok.inj ht
      rw [kept.rendered, h] at stored
      exact stored x

/-- **A render remembers what it gave, unless there was an output**, and touches no other key. -/
theorem rendered_renderOutput (quiet : values.All Value.Quiet) (key : RenderKey) :
    (e.renderOutput template values).2.rendered.find? key = (e.rendered.find? key).or
      (if key = renderKey template values then (e.renderOutput template values).1.toOption
        else none) := by
  cases h : e.rendered.find? (renderKey template values) with
  | some text =>
    rw [renderOutput_hit h]
    show e.rendered.find? key = _
    by_cases hk : key = renderKey template values
    · rw [hk, h]
      rfl
    · rw [if_neg hk, Option.or_none]
  | none =>
    obtain ⟨-, -, -, fails, stores⟩ := renderOutput_miss quiet h
    cases answer : (e.renderOutput template values).1 with
    | error error =>
      rw [fails error answer]
      by_cases hk : key = renderKey template values
      · rw [if_pos hk]
        exact Option.or_none.symm
      · rw [if_neg hk, Option.or_none]
    | ok text =>
      rw [stores text answer]
      by_cases hk : key = renderKey template values
      · rw [if_pos hk, if_pos hk, hk, h]
        rfl
      · rw [if_neg hk, if_neg hk, Option.or_none]

theorem config_renderOutput (quiet : values.All Value.Quiet) :
    (e.renderOutput template values).2.config = e.config := by
  cases h : e.rendered.find? (renderKey template values) with
  | some text =>
    rw [renderOutput_hit h]
    rfl
  | none => exact (renderOutput_miss quiet h).2.1

end Engine

/-! ## 3. Runs -/

/-- The text of an answer, if it has one. -/
def Answer.text? : Answer → Option String
  | .ok (.text text) => some text
  | _ => none

theorem Answer.text?_eq_some_iff {a : Answer} {text : String} :
    a.text? = some text ↔ a = .ok (.text text) := by
  unfold Answer.text?
  split
  · simp
  · rename_i other
    constructor
    · intro h
      cases h
    · exact fun h => (other text h).elim

theorem Answer.text?_map (x : Except RenderError String) :
    Answer.text? (x.map .text) = x.toOption := by
  cases x <;> rfl

theorem map_text_eq_ok {x : Except RenderError String} {text : String} :
    x.map Reply.text = .ok (.text text) ↔ x = .ok text := by
  cases x <;> simp [Except.map]

theorem map_text_eq_error {x : Except RenderError String} {error : RenderError} :
    x.map Reply.text = .error error ↔ x = .error error := by
  cases x <;> simp [Except.map]

namespace Turn

/-- The turn gave this text to a request with the key of `c`. -/
def Gave (t : Turn) (c : Call) (text : String) : Prop :=
  t.call.SameKey c ∧ t.answer = .ok (.text text)

/-- The turn put no question to a host and changed no table. -/
structure Still (t : Turn) : Prop where
  calls : t.after.calls = t.before.calls
  rendered : t.after.rendered = t.before.rendered
  compiled : t.after.compiled = t.before.compiled
  accessors : t.after.accessors = t.before.accessors

/-- The text that the turn gave for a key. -/
def outputUnder (key : RenderKey) (t : Turn) : Option String :=
  if t.call.key? = some key then t.answer.text? else none

theorem outputUnder_eq_some_iff {t : Turn} {c : Call} {key : RenderKey} (h : c.key? = some key)
    {text : String} : t.outputUnder key = some text ↔ t.Gave c text := by
  have same : t.call.SameKey c ↔ t.call.key? = some key := by
    rw [Call.sameKey_iff]
    constructor
    · rintro ⟨k, ht, hc⟩
      rw [ht, ← hc, h]
    · exact fun ht => ⟨key, ht, h⟩
  rw [Gave, same, outputUnder, ← Answer.text?_eq_some_iff]
  by_cases hk : t.call.key? = some key
  · rw [if_pos hk]
    exact (and_iff_right hk).symm
  · rw [if_neg hk]
    exact iff_of_false nofun fun h => hk h.1

variable {t : Turn} {template : String} {values : ValueMap}

/-- A turn with a render on an engine that remembers outputs is what that render makes of it. -/
theorem eq_renderOutput (faithful : t.Faithful) (mode : t.before.config.renderCache = .output)
    (request : t.call.request? = some (template, values)) :
    t.answer = (t.before.renderOutput template values).1.map .text ∧
      t.after = (t.before.renderOutput template values).2 := by
  have render : t.before.render template values = t.before.renderOutput template values := by
    rw [Engine.render, mode]
  rw [Faithful, (Call.perform_of_request? request).2, render] at faithful
  obtain ⟨answer, after⟩ := Prod.mk.inj faithful
  exact ⟨answer.symm, after.symm⟩

theorem of_hit (faithful : t.Faithful) (mode : t.before.config.renderCache = .output)
    (request : t.call.request? = some (template, values)) {text : String}
    (h : t.before.rendered.find? (Engine.renderKey template values) = some text) :
    t.answer = .ok (.text text) ∧ t.Still := by
  obtain ⟨answer, after⟩ := eq_renderOutput faithful mode request
  rw [Engine.renderOutput_hit h] at answer after
  refine ⟨answer, ?_⟩
  constructor <;> rw [after] <;> rfl

theorem of_miss (faithful : t.Faithful) (mode : t.before.config.renderCache = .output)
    (request : t.call.request? = some (template, values)) (quiet : t.call.Quiet)
    (h : t.before.rendered.find? (Engine.renderKey template values) = none) :
    t.answer = (Engine.evaluate values (scan template) t.before).1.map .text ∧
      (∀ error, t.answer = .error error →
        t.after.rendered = t.before.rendered ∧ t.after.compiled = t.before.compiled) ∧
      ∀ text, t.answer = .ok (.text text) →
        t.after.rendered.find? (Engine.renderKey template values) = some text := by
  obtain ⟨answer, after⟩ := eq_renderOutput faithful mode request
  obtain ⟨rfl, -⟩ := Call.perform_of_request? request
  obtain ⟨evaluated, -, compiled, fails, stores⟩ := Engine.renderOutput_miss quiet h
  rw [answer, after]
  refine ⟨?_, fun error failed => ⟨fails error (map_text_eq_error.mp failed), compiled⟩, ?_⟩
  · rw [evaluated]
  · intro text given
    rw [stores text (map_text_eq_ok.mp given), if_pos rfl]

/-- **A turn remembers what it gave, unless there was an output**, and touches no other key. -/
theorem rendered_after (faithful : t.Faithful) (quiet : t.call.Quiet)
    (mode : t.before.config.renderCache = .output) :
    t.after.config = t.before.config ∧ ∀ key, t.after.rendered.find? key =
      (t.before.rendered.find? key).or (t.outputUnder key) := by
  have unfiled : t.call.request? = none → ∀ key, t.outputUnder key = none := by
    intro request key
    rw [outputUnder, Call.key?, request]
    exact if_neg nofun
  rcases t.call.perform_cases with ⟨template, request, -⟩ | ⟨request, performs⟩ |
    ⟨request, expression, performs⟩
  · obtain ⟨answer, after⟩ := eq_renderOutput faithful mode request
    rw [after]
    refine ⟨Engine.config_renderOutput quiet, fun key => ?_⟩
    have filed : t.call.key? = some key ↔ key = Engine.renderKey template t.call.values := by
      rw [Call.key?, request]
      exact Option.some_inj.trans eq_comm
    rw [Engine.rendered_renderOutput quiet, outputUnder, answer, Answer.text?_map]
    simp only [filed]
  · rw [Faithful, performs] at faithful
    obtain ⟨-, after⟩ := Prod.mk.inj faithful
    rw [← after]
    refine ⟨rfl, fun key => ?_⟩
    rw [unfiled request, Option.or_none]
  · rw [Faithful, performs] at faithful
    obtain ⟨-, after⟩ := Prod.mk.inj faithful
    have kept := Engine.kept_resolve quiet expression t.before
    rw [← after]
    refine ⟨kept.config, fun key => ?_⟩
    rw [unfiled request, Option.or_none, kept.rendered]

end Turn

/-- **The outputs remembered before a turn are the first ones that the turns before it gave.** -/
theorem rendered_turns {calls : List Call} {e : Engine} {earlier later : List Turn} {t : Turn}
    (mode : e.config.renderCache = .output) (quiet : ∀ c ∈ calls, c.Quiet)
    (run : turns calls e = earlier ++ t :: later) :
    t.before.config = e.config ∧ ∀ key, t.before.rendered.find? key =
      (e.rendered.find? key).or (earlier.findSome? (·.outputUnder key)) := by
  refine (history_turns (fun past s => s.config = e.config ∧ ∀ key, s.rendered.find? key =
    (e.rendered.find? key).or (past.findSome? (·.outputUnder key))) ?_ ?_ run).1
  · rintro past u hu faithful ⟨config, found⟩
    have mode' : u.before.config.renderCache = .output := by
      rw [config]
      exact mode
    obtain ⟨config', stored⟩ := Turn.rendered_after faithful (quiet _ hu) mode'
    refine ⟨config'.trans config, fun key => ?_⟩
    rw [stored, found, Option.or_assoc, List.findSome?_append, List.findSome?_singleton]
  · exact ⟨rfl, fun key => Option.or_none.symm⟩

/-- What turns gave first for a key, if any of them gave something. -/
theorem findSome?_outputUnder_eq_some {earlier front between : List Turn} {first : Turn} {c : Call}
    {key : RenderKey} (filed : c.key? = some key) (split : earlier = front ++ first :: between)
    {text : String} (gave : first.Gave c text) (fresh : ∀ u ∈ front, ∀ other, ¬ u.Gave c other) :
    earlier.findSome? (·.outputUnder key) = some text := by
  refine List.findSome?_eq_some_iff.mpr ⟨front, first, between, split, ?_, fun u hu => ?_⟩
  · exact (Turn.outputUnder_eq_some_iff filed).mpr gave
  · refine Option.eq_none_iff_forall_ne_some.mpr fun other h => ?_
    exact fresh u hu other ((Turn.outputUnder_eq_some_iff filed).mp h)

theorem findSome?_outputUnder_eq_none {earlier : List Turn} {c : Call} {key : RenderKey}
    (filed : c.key? = some key) (fresh : ∀ u ∈ earlier, ∀ other, ¬ u.Gave c other) :
    earlier.findSome? (·.outputUnder key) = none := by
  refine List.findSome?_eq_none_iff.mpr fun u hu => ?_
  refine Option.eq_none_iff_forall_ne_some.mpr fun other h => ?_
  exact fresh u hu other ((Turn.outputUnder_eq_some_iff filed).mp h)

/-- **The first success wins.** On an engine that remembers outputs, over any run of requests with
quiet hosts: a render whose key had a success before gives the text of the earliest one, whatever
its own values are, puts no question to a host and changes no table. Any other render gives what
its template evaluates to; a failure is remembered nowhere, a success under its key. -/
theorem first_output_wins (config : Config) (calls : List Call) (quiet : ∀ c ∈ calls, c.Quiet)
    (earlier later : List Turn) (t : Turn)
    (run : turns calls (.ofConfig (config.withRenderCache .output)) = earlier ++ t :: later)
    {template : String} {values : ValueMap}
    (request : t.call.request? = some (template, values)) :
    (∀ front first between text, earlier = front ++ first :: between → first.Gave t.call text →
      (∀ u ∈ front, ∀ other, ¬ u.Gave t.call other) → t.answer = .ok (.text text) ∧ t.Still) ∧
    ((∀ u ∈ earlier, ∀ other, ¬ u.Gave t.call other) →
      t.answer = (Engine.evaluate values (scan template) t.before).1.map .text ∧
      (∀ error, t.answer = .error error →
        t.after.rendered = t.before.rendered ∧ t.after.compiled = t.before.compiled) ∧
      ∀ text, t.answer = .ok (.text text) →
        t.after.rendered.find? (Engine.renderKey template values) = some text) := by
  have member : t ∈ turns calls (.ofConfig (config.withRenderCache .output)) := by
    rw [run]
    exact List.mem_append_right _ List.mem_cons_self
  obtain ⟨hc, faithful⟩ := mem_turns member
  obtain ⟨sameConfig, found⟩ := rendered_turns rfl quiet run
  have mode : t.before.config.renderCache = .output := by
    rw [sameConfig]
    rfl
  have filed : t.call.key? = some (Engine.renderKey template values) := by
    rw [Call.key?, request]
    rfl
  have remembered : t.before.rendered.find? (Engine.renderKey template values) =
      earlier.findSome? (·.outputUnder (Engine.renderKey template values)) := by
    rw [found]
    show (ShardedTable.empty.find? _).or _ = _
    rw [ShardedTable.find?_empty, Option.none_or]
  constructor
  · intro front first between text split gave fresh
    rw [findSome?_outputUnder_eq_some filed split gave fresh] at remembered
    exact Turn.of_hit faithful mode request remembered
  · intro fresh
    rw [findSome?_outputUnder_eq_none filed fresh] at remembered
    exact Turn.of_miss faithful mode request (quiet _ hc) remembered

/-- Two maps with the same names, put together in different orders. -/
def countFirst (v : Value) : ValueMap := (ValueMap.empty.insert "n" v).insert "m" .null

def countLast (v : Value) : ValueMap := (ValueMap.empty.insert "m" .null).insert "n" v

/-- A render that fails, one of the same key that succeeds, and one that would fail again. -/
def countRun : List Call :=
  [.render "{n:d}" (countFirst (.bool true)), .render "{n:d}" (countFirst (.number (.signed 7))),
    .render "{n:d}" (countLast (.string "seven"))]

theorem quiet_countRun : ∀ c ∈ countRun, c.Quiet := by
  intro c hc
  simp only [countRun, List.mem_cons, List.not_mem_nil, or_false] at hc
  rcases hc with rfl | rfl | rfl
  · exact (ValueMap.all_empty.insert (.bool true) "n").insert .null "m"
  · exact (ValueMap.all_empty.insert (.number _) "n").insert .null "m"
  · exact (ValueMap.all_empty.insert .null "m").insert (.string "seven") "n"

theorem scan_count : scan "{n:d}" = [.ok (.placeholder ⟨"n", some "d", 0⟩)] := by
  have first : (Scanner.start "{n:d}").next? =
      some (.ok (.placeholder ⟨"n", some "d", 0⟩), ⟨[], 5, false⟩) := rfl
  have last : (⟨[], 5, false⟩ : Scanner).next? = none := rfl
  rw [scan, Scanner.items_of_ok first, Scanner.items_of_none last]

/-- An engine that remembers outputs. -/
def countEngine : Engine := .ofConfig (Config.default.withRenderCache .output)

/-- The first turn fails and the second one gives a text. -/
theorem answers_countRun : ∃ failed given reused,
    turns countRun countEngine = [failed, given, reused] ∧ failed.answer.text? = none ∧
      given.call = .render "{n:d}" (countFirst (.number (.signed 7))) ∧
      given.answer = .ok (.text "7") ∧
      reused.call = .render "{n:d}" (countLast (.string "seven")) := by
  have failed : (Call.render "{n:d}" (countFirst (.bool true))).perform countEngine =
      (.error (.invalidFormat "d" "true" .integerNeedsNumber),
        countEngine.report (.renderMiss "{n:d}" 2)) := by
    show ((Engine.renderOutput ..).1.map _, (Engine.renderOutput ..).2) = _
    unfold Engine.renderOutput
    rw [scan_count]
    rfl
  refine ⟨_, _, _, rfl, ?_, rfl, ?_, rfl⟩
  · rw [failed]
    rfl
  · rw [failed]
    show (Engine.renderOutput ..).1.map _ = _
    unfold Engine.renderOutput
    rw [scan_count]
    rfl

theorem first_output_wins_countRun :
    (∀ c ∈ countRun, c.Quiet) ∧ ∃ failed given reused,
      turns countRun countEngine = [failed, given, reused] ∧
      reused.call.request? = some ("{n:d}", countLast (.string "seven")) ∧
      reused.answer = .ok (.text "7") ∧ reused.Still := by
  obtain ⟨failed, given, reused, run, failing, first, answer, last⟩ := answers_countRun
  have request : reused.call.request? = some ("{n:d}", countLast (.string "seven")) := by
    rw [last]
    rfl
  have won := (first_output_wins .default countRun quiet_countRun [failed, given] [] reused run
    request).1
  have same : given.call.SameKey reused.call := by
    rw [first, last]
    refine ⟨_, _, _, rfl, rfl, fun name => ?_⟩
    simp only [countFirst, countLast, ValueMap.contains, ValueMap.find?_insert]
    by_cases hm : "m" = name
    · by_cases hn : "n" = name
      · simp [hm, hn]
      · simp [hm, hn]
    · by_cases hn : "n" = name
      · simp [hm, hn]
      · simp [hm, hn]
  refine ⟨quiet_countRun, failed, given, reused, run, request, ?_⟩
  refine won [failed] given [] "7" rfl ⟨same, answer⟩ fun u hu other gave => ?_
  obtain rfl := List.mem_singleton.mp hu
  exact nomatch failing.symm.trans (Answer.text?_eq_some_iff.mpr gave.2)

end Stencil
