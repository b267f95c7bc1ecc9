import Stencil.Proofs.OutputMode
import Stencil.Proofs.Passage
import Mathlib.Data.Finset.Card
import Mathlib.Data.Finset.Dedup

/-!
# Renders in any order

A render with remembered outputs takes up to three steps: it looks its key up, evaluates its
template where it found nothing, and keeps the text of a success unless there is one by then. Between
its steps an engine may do anything for other renders: of the same key too, and nested in the
evaluation by a host that uses the engine.

* `Session.Step` lists the steps, `Session.Run` puts those of any number of renders in any order;
* `Run.find?`: in every order the remembered outputs are the first ones that were kept, and
  `Run.size` counts them;
* `Run.story`: each render makes its own steps in their order and answers what it found or what it
  evaluated to;
* `exists_run_render`: what an engine does for a render is such a run, with all that its hosts nest;
* `first_insert_stands` puts this together.
-/

namespace Stencil

open Engine (renderKey Kept)

/-! ## 1. Renders in steps -/

/-- How far a render has come. -/
inductive Stage where
  /-- It found no output and evaluates its template. -/
  | evaluating
  /-- It has evaluated to a text, which it is still to keep. -/
  | evaluated (text : String)
  /-- It has answered. -/
  | ended (answer : Except RenderError String)

/-- A render that was begun. -/
structure Rendering where
  template : String
  values : ValueMap
  stage : Stage

/-- An engine and the renders that were begun on it, in the order in which they looked up. -/
structure Session where
  engine : Engine
  renders : List Rendering

/-- A step of the `i`-th render, or something else that an engine does. -/
inductive Move where
  | look (i : Nat) (template : String) (values : ValueMap) (found : Option String)
  | evaluate (i : Nat) (outcome : Except RenderError String)
  | insert (i : Nat) (key : RenderKey) (text : String)
  | other

namespace Move

/-- The step is one of the `i`-th render. -/
def of (i : Nat) : Move → Bool
  | look j .. | evaluate j .. | insert j .. => j = i
  | other => false

/-- The key of an insertion. -/
def insertedKey? : Move → Option RenderKey
  | insert _ key _ => some key
  | _ => none

/-- The text that is inserted under a key. -/
def insertedUnder (key : RenderKey) : Move → Option String
  | insert _ k text => if key = k then some text else none
  | _ => none

theorem isSome_insertedUnder {m : Move} {key : RenderKey} :
    (m.insertedUnder key).isSome ↔ m.insertedKey? = some key := by
  cases m with
  | look | evaluate | other => simp [insertedUnder, insertedKey?]
  | insert i k text =>
    by_cases h : key = k
    · simp [insertedUnder, insertedKey?, h]
    · simp [insertedUnder, insertedKey?, h, Ne.symm h]

/-- Something was inserted under a key just when the key is among the keys of insertions. -/
theorem isSome_findSome? {moves : List Move} {key : RenderKey} :
    (moves.findSome? (·.insertedUnder key)).isSome ↔ key ∈ moves.filterMap insertedKey? := by
  rw [List.isSome_findSome?, List.any_eq_true, List.mem_filterMap]
  simp only [isSome_insertedUnder]

end Move

namespace Session

/-- An engine that remembers outputs and has done nothing yet. -/
def opening (config : Config) : Session := ⟨.ofConfig (config.withRenderCache .output), []⟩

/-- **The steps that renders take.** An evaluation may have any outcome: what is read meanwhile
hangs on hosts and on the steps in between. Whatever else an engine does leaves the tables of
templates as they are. -/
inductive Step : Session → Move → Session → Prop where
  | hit {e : Engine} {renders : List Rendering} {template : String} {values : ValueMap}
      {text : String} (found : e.rendered.find? (renderKey template values) = some text) :
      Step ⟨e, renders⟩ (.look renders.length template values (some text))
        ⟨e.report (.renderHit template), renders ++ [⟨template, values, .ended (.ok text)⟩]⟩
  | miss {e : Engine} {renders : List Rendering} {template : String} {values : ValueMap}
      (found : e.rendered.find? (renderKey template values) = none) :
      Step ⟨e, renders⟩ (.look renders.length template values none)
        ⟨e.missed template values, renders ++ [⟨template, values, .evaluating⟩]⟩
  | fail {e : Engine} {renders : List Rendering} {i : Nat} {template : String} {values : ValueMap}
      (turn : renders[i]? = some ⟨template, values, .evaluating⟩) (error : RenderError) :
      Step ⟨e, renders⟩ (.evaluate i (.error error))
        ⟨e, renders.set i ⟨template, values, .ended (.error error)⟩⟩
  | succeed {e : Engine} {renders : List Rendering} {i : Nat} {template : String}
      {values : ValueMap} (turn : renders[i]? = some ⟨template, values, .evaluating⟩)
      (text : String) :
      Step ⟨e, renders⟩ (.evaluate i (.ok text))
        ⟨e, renders.set i ⟨template, values, .evaluated text⟩⟩
  | insert {e : Engine} {renders : List Rendering} {i : Nat} {template : String}
      {values : ValueMap} {text : String}
      (turn : renders[i]? = some ⟨template, values, .evaluated text⟩) :
      Step ⟨e, renders⟩ (.insert i (renderKey template values) text)
        ⟨e.keepOutput (renderKey template values) text,
          renders.set i ⟨template, values, .ended (.ok text)⟩⟩
  | other {e s : Engine} {renders : List Rendering} (kept : Kept e s) :
      Step ⟨e, renders⟩ .other ⟨s, renders⟩

/-- Steps that follow one another. -/
inductive Run (s : Session) : List Move → Session → Prop where
  | start : Run s [] s
  | step {past : List Move} {m : Move} {t u : Session} (run : Run s past t) (step : Step t m u) :
      Run s (past ++ [m]) u

variable {s t u : Session} {m : Move} {moves past later : List Move}

namespace Run

theorem single (h : Step s m t) : Run s [m] t := .step .start h

/-- Runs follow one another. -/
theorem trans (h : Run s moves t) (h' : Run t later u) : Run s (moves ++ later) u := by
  induction h' with
  | start =>
    rw [List.append_nil]
    exact h
  | step _ step ih =>
    rw [← List.append_assoc]
    exact ih.step step

/-- A run ends with its last step. -/
theorem last (h : Run s (past ++ [m]) u) : ∃ t, Run s past t ∧ Step t m u := by
  generalize hm : past ++ [m] = moves at h
  cases h with
  | start => cases past <;> cases hm
  | step run step =>
    obtain ⟨rfl, last⟩ := List.append_inj' hm rfl
    obtain rfl := List.head_eq_of_cons_eq last
    exact ⟨_, run, step⟩

/-- A run can be parted anywhere. -/
theorem split (h : Run s (past ++ later) u) : ∃ t, Run s past t ∧ Run t later u := by
  induction later using List.reverseRecOn generalizing u with
  | nil =>
    rw [List.append_nil] at h
    exact ⟨u, h, .start⟩
  | append_singleton later m ih =>
    rw [← List.append_assoc] at h
    obtain ⟨v, front, step⟩ := h.last
    obtain ⟨t, first, second⟩ := ih front
    exact ⟨t, first, second.step step⟩

/-- A run comes to each of its steps, and from there on. -/
theorem moment (h : Run s (past ++ m :: later) u) :
    ∃ t t', Run s past t ∧ Step t m t' ∧ Run t' later u := by
  rw [List.append_cons] at h
  obtain ⟨t', front, back⟩ := h.split
  obtain ⟨t, before, step⟩ := front.last
  exact ⟨t, t', before, step, back⟩

end Run

/-! ## 2. What is remembered -/

/-- A step remembers what it inserts under its key, unless there was an output. -/
theorem Step.find? (h : Step s m t) (key : RenderKey) : t.engine.rendered.find? key =
    (s.engine.rendered.find? key).or (m.insertedUnder key) := by
  cases h with
  | hit | miss | fail | succeed => exact Option.or_none.symm
  | other kept =>
    rw [kept.rendered]
    exact Option.or_none.symm
  | @insert e renders i template values text =>
    show (e.keepOutput _ text).rendered.find? key = _
    rw [(Engine.keepOutput_spec ..).2.2, Move.insertedUnder]
    by_cases hk : key = renderKey template values
    · rw [if_pos hk, if_pos hk, hk]
      cases e.rendered.find? (renderKey template values) <;> rfl
    · rw [if_neg hk, if_neg hk, Option.or_none]

/-- A step adds one output where it inserts under a key that had none. -/
theorem Step.size (h : Step s m t) : t.engine.rendered.size =
    if ∃ key, m.insertedKey? = some key ∧ s.engine.rendered.find? key = none
      then s.engine.rendered.size + 1 else s.engine.rendered.size := by
  cases h with
  | hit | miss | fail | succeed => simp [Move.insertedKey?, Engine.missed, Engine.report]
  | other kept => simp [Move.insertedKey?, kept.rendered]
  | @insert e renders i template values text =>
    show (e.keepOutput _ text).rendered.size = _
    rw [Engine.rendered_keepOutput, ShardedTable.size_insertIfAbsent]
    cases found : e.rendered.find? (renderKey template values) <;> simp [Move.insertedKey?, found]

namespace Run

/-- **In every order the outputs that are remembered are the first ones inserted.** -/
theorem find? (h : Run s moves t) (key : RenderKey) : t.engine.rendered.find? key =
    (s.engine.rendered.find? key).or (moves.findSome? (·.insertedUnder key)) := by
  induction h with
  | start => exact Option.or_none.symm
  | step _ step ih =>
    rw [step.find?, ih, Option.or_assoc, List.findSome?_append, List.findSome?_singleton]

/-- **A remembered output stays.** -/
theorem find?_of_some (h : Run s moves t) {key : RenderKey} {text : String}
    (found : s.engine.rendered.find? key = some text) :
    t.engine.rendered.find? key = some text := by
  rw [h.find?, found, Option.some_or]

/-- From the opening, what is remembered was inserted. -/
theorem find?_opening {config : Config} (h : Run (opening config) moves t) (key : RenderKey) :
    t.engine.rendered.find? key = moves.findSome? (·.insertedUnder key) := by
  rw [h.find?]
  show (ShardedTable.empty.find? key).or _ = _
  rw [ShardedTable.find?_empty, Option.none_or]

/-- **There are as many outputs as keys under which something was inserted.** -/
theorem size {config : Config} (h : Run (opening config) moves t) :
    t.engine.rendered.size = (moves.filterMap Move.insertedKey?).toFinset.card := by
  induction h with
  | start => exact ShardedTable.size_empty
  | @step past m t u run step ih =>
    have known : ∀ key, t.engine.rendered.find? key = none ↔
        key ∉ (past.filterMap Move.insertedKey?).toFinset := by
      intro key
      rw [List.mem_toFinset, ← Move.isSome_findSome?, ← run.find?_opening, Option.not_isSome_iff_eq_none]
    rw [step.size, ih, List.filterMap_append, List.toFinset_append]
    cases hm : m.insertedKey? with
    | none => simp [hm]
    | some key =>
      simp only [Option.some.injEq, exists_eq_left', known]
      by_cases new : key ∈ (past.filterMap Move.insertedKey?).toFinset
      · simp [hm, new]
      · simp [hm, new]

end Run

/-! ## 3. What each render does -/

/-- The steps of the `i`-th render up to a stage, and how it has come there. -/
inductive Story (i : Nat) : Option Rendering → List Move → Prop where
  | unbegun : Story i none []
  | hit {template : String} {values : ValueMap} {text : String} :
      Story i (some ⟨template, values, .ended (.ok text)⟩) [.look i template values (some text)]
  | evaluating {template : String} {values : ValueMap} :
      Story i (some ⟨template, values, .evaluating⟩) [.look i template values none]
  | failed {template : String} {values : ValueMap} {error : RenderError} :
      Story i (some ⟨template, values, .ended (.error error)⟩)
        [.look i template values none, .evaluate i (.error error)]
  | evaluated {template : String} {values : ValueMap} {text : String} :
      Story i (some ⟨template, values, .evaluated text⟩)
        [.look i template values none, .evaluate i (.ok text)]
  | inserted {template : String} {values : ValueMap} {text : String} :
      Story i (some ⟨template, values, .ended (.ok text)⟩)
        [.look i template values none, .evaluate i (.ok text),
          .insert i (renderKey template values) text]

namespace Story

variable {i : Nat} {r? : Option Rendering} {template : String} {values : ValueMap}

/-- A render that found an output gave it. -/
theorem of_found {text : String} (h : Story i r? moves)
    (mem : .look i template values (some text) ∈ moves) :
    r? = some ⟨template, values, .ended (.ok text)⟩ := by
  cases h with
  | unbegun | evaluating | failed | evaluated | inserted => simp at mem
  | hit =>
    cases List.mem_singleton.mp mem
    rfl

/-- **A render answers with the output it found or with what it evaluated to.** -/
theorem answer {answer : Except RenderError String}
    (h : Story i (some ⟨template, values, .ended answer⟩) moves) :
    (∃ text, answer = .ok text ∧ moves = [.look i template values (some text)]) ∨
      ∃ rest, moves = .look i template values none :: .evaluate i answer :: rest := by
  cases h with
  | hit => exact Or.inl ⟨_, rfl, rfl⟩
  | failed | inserted => exact Or.inr ⟨_, rfl⟩

variable {renders : List Rendering} {r r' : Rendering} {j : Nat}

/-- The story of every render once another one has begun. -/
theorem begin (before : Story j renders[j]? past)
    (own : ∀ j, m.of j = decide (renders.length = j))
    (first : Story renders.length (some r) [m]) :
    Story j (renders ++ [r])[j]? (past ++ [m].filter (·.of j)) := by
  by_cases hj : renders.length = j
  · subst hj
    rw [List.getElem?_eq_none (Nat.le_refl _)] at before
    cases before
    rw [List.filter_cons_of_pos (by simp [own]), List.getElem?_concat_length]
    exact first
  · have same : (renders ++ [r])[j]? = renders[j]? := by
      rcases Nat.lt_or_gt_of_ne hj with h | h
      · rw [List.getElem?_eq_none (Nat.le_of_lt h), List.getElem?_eq_none]
        rw [List.length_append, List.length_singleton]
        exact h
      · exact List.getElem?_append_left h
    rw [List.filter_cons_of_neg (by simp [own, hj]), List.filter_nil, List.append_nil, same]
    exact before

/-- The story of every render once one of them has made a step. -/
theorem go_on (before : Story j renders[j]? past) (turn : renders[i]? = some r)
    (own : ∀ j, m.of j = decide (i = j))
    (next : ∀ past, Story i (some r) past → Story i (some r') (past ++ [m])) :
    Story j (renders.set i r')[j]? (past ++ [m].filter (·.of j)) := by
  by_cases hj : i = j
  · subst hj
    obtain ⟨bound, -⟩ := List.getElem?_eq_some_iff.mp turn
    rw [turn] at before
    rw [List.filter_cons_of_pos (by simp [own]), List.getElem?_set_self bound]
    exact next past before
  · rw [List.filter_cons_of_neg (by simp [own, hj]), List.filter_nil, List.append_nil,
      List.getElem?_set_ne hj]
    exact before

end Story

/-- **A step goes on with the story of its render and leaves all others alone.** -/
theorem Step.story (h : Step s m t) {j : Nat} (before : Story j s.renders[j]? past) :
    Story j t.renders[j]? (past ++ [m].filter (·.of j)) := by
  cases h with
  | hit => exact before.begin (fun _ => rfl) .hit
  | miss => exact before.begin (fun _ => rfl) .evaluating
  | fail turn =>
    refine before.go_on turn (fun _ => rfl) fun past h => ?_
    cases h
    exact .failed
  | succeed turn =>
    refine before.go_on turn (fun _ => rfl) fun past h => ?_
    cases h
    exact .evaluated
  | insert turn =>
    refine before.go_on turn (fun _ => rfl) fun past h => ?_
    cases h
    exact .inserted
  | other =>
    rw [List.filter_cons_of_neg (by simp [Move.of]), List.filter_nil, List.append_nil]
    exact before

/-- A look-up tells what is remembered. -/
theorem Step.find?_of_look {i : Nat} {template : String} {values : ValueMap}
    {found : Option String} (h : Step s (.look i template values found) t) :
    s.engine.rendered.find? (renderKey template values) = found := by
  cases h with
  | hit found => exact found
  | miss found => exact found

namespace Run

/-- **Every render of a run has its story**, told by its steps in the run. -/
theorem story {config : Config} (h : Run (opening config) moves t) (j : Nat) :
    Story j t.renders[j]? (moves.filter (·.of j)) := by
  induction h with
  | start => exact .unbegun
  | step _ step ih =>
    rw [List.filter_append]
    exact step.story ih

/-- **What a look-up finds is given, and is remembered ever after.** -/
theorem of_found {config : Config} {i : Nat} {template : String} {values : ValueMap}
    {text : String} (h : Run (opening config) moves t)
    (mem : .look i template values (some text) ∈ moves) :
    t.renders[i]? = some ⟨template, values, .ended (.ok text)⟩ ∧
      t.engine.rendered.find? (renderKey template values) = some text := by
  refine ⟨(h.story i).of_found (List.mem_filter.mpr ⟨mem, by simp [Move.of]⟩), ?_⟩
  obtain ⟨past, later, rfl⟩ := List.append_of_mem mem
  obtain ⟨_, _, -, step, back⟩ := h.moment
  exact back.find?_of_some ((Run.single step).find?_of_some step.find?_of_look)

/-- **Behind an insertion every look-up of the key finds an output.** -/
theorem found_of_inserted {config : Config} {between : List Move} {i j : Nat} {key : RenderKey}
    {text template : String} {values : ValueMap} {found : Option String}
    (h : Run (opening config)
      (past ++ .insert j key text :: between ++ .look i template values found :: later) t)
    (same : renderKey template values = key) : ∃ stored, found = some stored := by
  obtain ⟨u, _, front, step, -⟩ := h.moment
  have inserted : key ∈ (past ++ .insert j key text :: between).filterMap Move.insertedKey? :=
    List.mem_filterMap.mpr ⟨_, List.mem_append_right _ List.mem_cons_self, rfl⟩
  rw [← step.find?_of_look, same, front.find?_opening, ← Option.isSome_iff_exists]
  exact Move.isSome_findSome?.mpr inserted

end Run

end Session

/-! ## 4. What an engine does -/

theorem getElem?_amid (renders more : List Rendering) (r : Rendering) :
    (renders ++ r :: more)[renders.length]? = some r := by
  rw [List.getElem?_append_right (Nat.le_refl _), Nat.sub_self]
  rfl

theorem set_amid (renders more : List Rendering) (r r' : Rendering) :
    (renders ++ r :: more).set renders.length r' = renders ++ r' :: more := by
  rw [List.set_append_right _ _ (Nat.le_refl _), Nat.sub_self]
  rfl

namespace Engine

open Session (Run Step)

/-- Steps lead an engine that remembers outputs to a later state of it, whatever renders were begun
before, and all renders begun on the way have answered. -/
def Runs (e s : Engine) : Prop := e.config.renderCache = .output → s.config = e.config ∧
  ∀ renders, ∃ moves more, Run ⟨e, renders⟩ moves ⟨s, renders ++ more⟩ ∧
    ∀ r ∈ more, ∃ answer, r.stage = .ended answer

/-- A render that finds no output waits while its evaluation nests others. -/
theorem exists_run_missed {template : String} {values : ValueMap} {e s : Engine}
    (runs : Runs (e.missed template values) s) (mode : e.config.renderCache = .output)
    (found : e.rendered.find? (renderKey template values) = none) :
    s.config = e.config ∧ ∀ renders, ∃ moves more,
      Run ⟨e, renders⟩ moves ⟨s, renders ++ ⟨template, values, .evaluating⟩ :: more⟩ ∧
      ∀ r ∈ more, ∃ answer, r.stage = .ended answer := by
  obtain ⟨config, nested⟩ := runs mode
  refine ⟨config, fun renders => ?_⟩
  obtain ⟨moves, more, run, ended⟩ := nested (renders ++ [⟨template, values, .evaluating⟩])
  rw [← List.append_cons] at run
  exact ⟨_, more, (Run.single (.miss found)).trans run, ended⟩

/-- **What an engine does for a render are steps of the render**, with the steps that its evaluation
nests between the look-up and the end. -/
theorem exists_run_render {values : ValueMap} (runs : ∀ items e, Runs e (evaluate values items e).2)
    (template : String) {e : Engine} (mode : e.config.renderCache = .output) :
    (e.render template values).2.config = e.config ∧ ∀ renders, ∃ moves more,
      Run ⟨e, renders⟩ moves ⟨(e.render template values).2,
        renders ++ ⟨template, values, .ended (e.render template values).1⟩ :: more⟩ ∧
      (∀ r ∈ more, ∃ answer, r.stage = .ended answer) ∧
      (e.rendered.find? (renderKey template values) = none → .evaluate renders.length
        (evaluate values (scan template) (e.missed template values)).1 ∈ moves) := by
  have output : e.render template values = e.renderOutput template values := by
    rw [render, mode]
  rw [output]
  have runs := runs (scan template) (e.missed template values)
  rcases renderOutput_cases template values e with
    ⟨text, found, h⟩ | ⟨found, ⟨error, s, hx, h⟩ | ⟨text, s, hx, h⟩⟩
  · rw [h, found]
    refine ⟨rfl, fun renders => ⟨_, [], .single (.hit found), List.forall_mem_nil _, fun h => ?_⟩⟩
    cases h
  · rw [hx] at runs
    rw [h, hx]
    obtain ⟨config, waiting⟩ := exists_run_missed runs mode found
    refine ⟨config, fun renders => ?_⟩
    obtain ⟨moves, more, run, ended⟩ := waiting renders
    have failed := run.step (.fail (getElem?_amid ..) error)
    rw [set_amid] at failed
    exact ⟨_, more, failed, ended, fun _ => List.mem_append_right _ List.mem_cons_self⟩
  · rw [hx] at runs
    rw [h, hx]
    obtain ⟨config, waiting⟩ := exists_run_missed runs mode found
    refine ⟨(keepOutput_spec ..).1.trans config, fun renders => ?_⟩
    obtain ⟨moves, more, run, ended⟩ := waiting renders
    have evaluated := run.step (.succeed (getElem?_amid ..) text)
    rw [set_amid] at evaluated
    have kept := evaluated.step (.insert (getElem?_amid ..))
    rw [set_amid] at kept
    refine ⟨_, more, kept, ended, fun _ => List.mem_append_left _ ?_⟩
    exact List.mem_append_right _ List.mem_cons_self

/-- Requests carry it through that steps of renders lead from each state to the next. -/
theorem passage_runs : Passage Runs where
  kept := by
    intro e s kept mode
    refine ⟨kept.config, fun renders => ⟨[.other], [], ?_, List.forall_mem_nil _⟩⟩
    rw [List.append_nil]
    exact .single (.other kept)
  trans := by
    intro e s t first second mode
    obtain ⟨config, run⟩ := first mode
    obtain ⟨config', run'⟩ := second (config ▸ mode)
    refine ⟨config'.trans config, fun renders => ?_⟩
    obtain ⟨moves, more, h, ended⟩ := run renders
    obtain ⟨moves', more', h', ended'⟩ := run' (renders ++ more)
    refine ⟨moves ++ moves', more ++ more', ?_, List.forall_mem_append.mpr ⟨ended, ended'⟩⟩
    rw [← List.append_assoc]
    exact h.trans h'
  render := by
    intro values runs template e mode
    obtain ⟨config, run⟩ := exists_run_render runs template mode
    refine ⟨config, fun renders => ?_⟩
    obtain ⟨moves, more, h, ended, -⟩ := run renders
    exact ⟨moves, _, h, List.forall_mem_cons.mpr ⟨⟨_, rfl⟩, ended⟩⟩

end Engine

/-! ## 5. All orders -/

/-- **The first insertion stands, in whatever order renders take their steps.** A remembered output
stays. A render answers with the output it found when it looked up, which is still remembered, or
with what it evaluated to itself, also when its insertion comes too late; behind an insertion every
look-up of the key finds the one output that is remembered, and it is given. There are as many
outputs as keys under which something was inserted.

What an engine does for a render is such a run, with all requests that its hosts nest: the render
takes its steps around theirs, and evaluates to what its template does. -/
theorem first_insert_stands (config : Config) :
    (∀ s moves t, Session.Run s moves t → ∀ key text,
      s.engine.rendered.find? key = some text → t.engine.rendered.find? key = some text) ∧
    (∀ moves t, Session.Run (.opening config) moves t →
      (∀ i template values answer, t.renders[i]? = some ⟨template, values, .ended answer⟩ →
        (∃ text, answer = .ok text ∧
          moves.filter (·.of i) = [.look i template values (some text)] ∧
          t.engine.rendered.find? (renderKey template values) = some text) ∨
        ∃ rest, moves.filter (·.of i) =
          .look i template values none :: .evaluate i answer :: rest) ∧
      (∀ past between later i j key text template values found,
        moves = past ++ .insert j key text :: between ++ .look i template values found :: later →
        renderKey template values = key →
        ∃ stored, found = some stored ∧ t.engine.rendered.find? key = some stored ∧
          t.renders[i]? = some ⟨template, values, .ended (.ok stored)⟩) ∧
      t.engine.stats.rendered = (moves.filterMap Move.insertedKey?).toFinset.card) ∧
    ∀ e template values, e.config.renderCache = .output → values.All Value.Civil → ∀ renders,
      ∃ moves more, Session.Run ⟨e, renders⟩ moves ⟨(e.render template values).2,
          renders ++ ⟨template, values, .ended (e.render template values).1⟩ :: more⟩ ∧
        (∀ r ∈ more, ∃ answer, r.stage = .ended answer) ∧
        (e.rendered.find? (renderKey template values) = none → .evaluate renders.length
          (Engine.evaluate values (scan template) (e.missed template values)).1 ∈ moves) := by
  refine ⟨fun s moves t run key text found => run.find?_of_some found, ?_, ?_⟩
  · intro moves t run
    refine ⟨fun i template values answer ended => ?_, ?_, run.size⟩
    · have story := run.story i
      rw [ended] at story
      rcases story.answer with ⟨text, rfl, own⟩ | ⟨rest, own⟩
      · have mem : .look i template values (some text) ∈ moves.filter (·.of i) := by
          rw [own]
          exact List.mem_cons_self
        exact Or.inl ⟨text, rfl, own, (run.of_found (List.mem_of_mem_filter mem)).2⟩
      · exact Or.inr ⟨rest, own⟩
    · rintro past between later i j key text template values found rfl same
      obtain ⟨stored, rfl⟩ := run.found_of_inserted same
      have given := run.of_found (List.mem_append_right _ List.mem_cons_self)
      rw [same] at given
      exact ⟨stored, rfl, given.2, given.1⟩
  · intro e template values mode civil
    exact (Engine.exists_run_render (Engine.passage_runs.evaluate_civil civil) template mode).2

/-- A value with no host. -/
def bareValues : ValueMap := ValueMap.empty.insert "h" .null

/-- A host under the same name that renders with the former value. -/
def nestValues : ValueMap := ValueMap.empty.insert "h" (.object (.ofTable "Nest" (.numbered 0) "Nest"
  "nest" [.rendering .field "x" 0 "<{h.x}>" bareValues]))

theorem civil_nestValues : nestValues.All Value.Civil := by
  refine ValueMap.all_empty.insert (Value.civil_ofTable ?_ ..) "h"
  exact List.forall_mem_singleton.mpr
    (TableEntry.civil_rendering (ValueMap.all_empty.insert .null "h") ..)

/-- A render nests one of the same key, which inserts first, and a third one comes later. -/
def nestMoves : List Move :=
  [.look 0 "<{h.x}>" nestValues none, .look 1 "<{h.x}>" bareValues none,
    .evaluate 1 (.ok "<null>"), .insert 1 (renderKey "<{h.x}>" bareValues) "<null>",
    .evaluate 0 (.ok "<<null>>"), .insert 0 (renderKey "<{h.x}>" nestValues) "<<null>>",
    .look 2 "<{h.x}>" nestValues (some "<null>")]

theorem run_nestMoves : ∃ e, Session.Run (.opening .default) nestMoves
    ⟨e, [⟨"<{h.x}>", nestValues, .ended (.ok "<<null>>")⟩,
      ⟨"<{h.x}>", bareValues, .ended (.ok "<null>")⟩,
      ⟨"<{h.x}>", nestValues, .ended (.ok "<null>")⟩]⟩ := by
  have looked : Session.Run (.opening .default) (nestMoves.take 2) _ :=
    (Session.Run.single (.miss (ShardedTable.find?_empty _))).step (.miss (ShardedTable.find?_empty _))
  have nested : Session.Run (.opening .default) (nestMoves.take 4) _ :=
    (looked.step (.succeed rfl "<null>")).step (.insert rfl)
  have kept : Session.Run (.opening .default) (nestMoves.take 6) _ :=
    (nested.step (.succeed rfl "<<null>>")).step (.insert rfl)
  have stored := kept.find?_opening (renderKey "<{h.x}>" nestValues)
  exact ⟨_, kept.step (.hit stored)⟩

theorem first_insert_stands_nested :
    nestValues.All Value.Civil ∧
    (∃ e, Session.Run (.opening .default) nestMoves
      ⟨e, [⟨"<{h.x}>", nestValues, .ended (.ok "<<null>>")⟩,
        ⟨"<{h.x}>", bareValues, .ended (.ok "<null>")⟩,
        ⟨"<{h.x}>", nestValues, .ended (.ok "<null>")⟩]⟩ ∧
      e.rendered.find? (renderKey "<{h.x}>" nestValues) = some "<null>" ∧ e.stats.rendered = 1) ∧
    ∃ moves more, Session.Run (.opening .default) moves
      ⟨((Session.opening .default).engine.render "<{h.x}>" nestValues).2, ⟨"<{h.x}>", nestValues,
        .ended ((Session.opening .default).engine.render "<{h.x}>" nestValues).1⟩ :: more⟩ := by
  obtain ⟨-, orderly, rendering⟩ := first_insert_stands .default
  obtain ⟨e, run⟩ := run_nestMoves
  obtain ⟨-, later, entries⟩ := orderly nestMoves _ run
  obtain ⟨stored, found, remembered, -⟩ := later [.look 0 "<{h.x}>" nestValues none,
    .look 1 "<{h.x}>" bareValues none, .evaluate 1 (.ok "<null>")]
    [.evaluate 0 (.ok "<<null>>"), .insert 0 (renderKey "<{h.x}>" nestValues) "<<null>>"] [] 2 1
    (renderKey "<{h.x}>" bareValues) "<null>" "<{h.x}>" nestValues (some "<null>") rfl rfl
  obtain ⟨moves, more, nested, -⟩ :=
    rendering (Session.opening .default).engine "<{h.x}>" nestValues rfl civil_nestValues []
  cases found
  exact ⟨civil_nestValues, ⟨e, run, remembered, entries.trans (by decide)⟩, moves, more, nested⟩

end Stencil
