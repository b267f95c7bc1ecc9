import Stencil.Template.Scanner
import Stencil.Value.Format
import Stencil.Engine.Resolve

/-!
# Rendering templates

To render a template is to read it from left to right and to replace each placeholder by the text
of its value, up to the first error. What an engine remembers decides what is done before and
after:

* with `output`, a text rendered for the same template and the same names of values is given again;
  otherwise the template is evaluated, and the text of a success is kept unless there is one;
* with `compiled`, the segments of a template are kept after a success, and the next time nothing
  is read again;
* with `disabled`, every render reads and evaluates.

A render that fails keeps nothing of the template.
-/

namespace Stencil

namespace Engine

/-! ## 1. Evaluation -/

/-- The text of a placeholder. -/
def fillIn (values : ValueMap) (p : Placeholder) (e : Engine) :
    Except RenderError String × Engine :=
  match e.resolve p.path values with
  | (.error error, e) => (.error error, e)
  | (.ok v, e) => match p.format with
    | some format => (applyFormat v format, e)
    | none => (.ok v.text, e)

/-- The text of a segment. -/
def evaluateSegment (values : ValueMap) (segment : Segment) (e : Engine) :
    Except RenderError String × Engine :=
  match segment with
  | .literal text => (.ok text, e)
  | .placeholder p => e.fillIn values p

/-- The text of a template that is being read: each segment is evaluated when it is reached, so the
error is the leftmost one. -/
def evaluate (values : ValueMap) : Scan → Engine → Except RenderError String × Engine
  | [], e => (.ok "", e)
  | .error error :: _, e => (.error (.scan error), e)
  | .ok segment :: items, e => match e.evaluateSegment values segment with
    | (.error error, e) => (.error error, e)
    | (.ok text, e) => match evaluate values items e with
      | (.error error, e) => (.error error, e)
      | (.ok rest, e) => (.ok (text ++ rest), e)

/-- What stands before a reading that is evaluated is evaluated first. -/
theorem evaluate_append {values : ValueMap} {segments : List Segment} {e e' : Engine}
    {text : String} (h : evaluate values (segments.map .ok) e = (.ok text, e')) (items : Scan) :
    evaluate values (segments.map .ok ++ items) e =
      ((evaluate values items e').1.map (text ++ ·), (evaluate values items e').2) := by
  induction segments generalizing e text with
  | nil =>
    cases h
    simp only [List.map_nil, List.nil_append]
    rcases evaluate values items e' with ⟨_ | _, _⟩ <;> simp [Except.map]
  | cons segment segments ih =>
    simp only [List.map_cons, List.cons_append, evaluate] at h ⊢
    rcases hx : e.evaluateSegment values segment with ⟨_ | first, s⟩
    · rw [hx] at h
      cases h
    · rw [hx] at h
      dsimp only at h ⊢
      rcases hy : evaluate values (segments.map .ok) s with ⟨_ | rest, s'⟩
      · rw [hy] at h
        cases h
      · rw [hy] at h
        cases h
        rw [ih hy]
        rcases evaluate values items e' with ⟨_ | _, _⟩ <;> simp [Except.map, String.append_assoc]

/-- A reading with a fault gives an error: that one, or the one of a placeholder before it. -/
theorem evaluate_of_error? {items : Scan} {fault : ScanError} (h : items.error? = some fault)
    (values : ValueMap) (e : Engine) : ∃ error s, evaluate values items e = (.error error, s) := by
  induction items generalizing e with
  | nil => cases h
  | cons item items ih =>
    cases item with
    | error error => exact ⟨_, _, rfl⟩
    | ok segment =>
      unfold evaluate
      rcases e.evaluateSegment values segment with ⟨error | first, s⟩
      · exact ⟨error, s, rfl⟩
      · obtain ⟨error, t, hx⟩ := ih h s
        simp only [hx]
        exact ⟨error, t, rfl⟩

/-! ## 2. Remembered outputs -/

/-- What the output of a template for some values is filed under. -/
def renderKey (template : String) (values : ValueMap) : RenderKey :=
  ⟨template, values.names.names⟩

/-- Keeps an output, unless there is one. -/
def keepOutput (key : RenderKey) (text : String) (e : Engine) : Engine :=
  match e.rendered.insertIfAbsent key text with
  | (true, table) => { e with rendered := table }
  | (false, _) => e.report (.renderKept key.template)

/-- The engine when no output is found. -/
def missed (template : String) (values : ValueMap) (e : Engine) : Engine :=
  e.report (.renderMiss template (renderKey template values).names.length)

/-- Renders with remembered outputs. -/
def renderOutput (template : String) (values : ValueMap) (e : Engine) :
    Except RenderError String × Engine :=
  let key := renderKey template values
  match e.rendered.find? key with
  | some text => (.ok text, e.report (.renderHit template))
  | none =>
    match evaluate values (scan template) (e.report (.renderMiss template key.names.length)) with
    | (.error error, e) => (.error error, e)
    | (.ok text, e) => (.ok text, e.keepOutput key text)

/-- **What a render with remembered outputs does**: it gives the output that it finds, or what the
template evaluates to, and keeps the text of a success. -/
theorem renderOutput_cases (template : String) (values : ValueMap) (e : Engine) :
    (∃ text, e.rendered.find? (renderKey template values) = some text ∧
      e.renderOutput template values = (.ok text, e.report (.renderHit template))) ∨
    e.rendered.find? (renderKey template values) = none ∧
      ((∃ error s, evaluate values (scan template) (e.missed template values) = (.error error, s) ∧
          e.renderOutput template values = (.error error, s)) ∨
        ∃ text s, evaluate values (scan template) (e.missed template values) = (.ok text, s) ∧
          e.renderOutput template values =
            (.ok text, s.keepOutput (renderKey template values) text)) := by
  unfold renderOutput missed
  dsimp only
  cases e.rendered.find? (renderKey template values) with
  | some text => exact Or.inl ⟨text, rfl, rfl⟩
  | none =>
    refine Or.inr ⟨rfl, ?_⟩
    rcases evaluate values (scan template) _ with ⟨error | text, s⟩
    · exact Or.inl ⟨error, s, rfl, rfl⟩
    · exact Or.inr ⟨text, s, rfl, rfl⟩

/-! ## 3. Remembered templates -/

/-- Keeps the segments of a template, unless there are some. -/
def keepTemplate (template : String) (segments : List Segment) (e : Engine) : Engine :=
  match e.compiled.insertIfAbsent ⟨template⟩ segments with
  | (true, table) => { e with compiled := table }
  | (false, _) => e.report (.templateKept template)

/-- Renders with remembered templates. A template that cannot be read to its end is evaluated as
far as it can, since a placeholder before the fault may fail first. -/
def renderCompiled (template : String) (values : ValueMap) (e : Engine) :
    Except RenderError String × Engine :=
  match e.compiled.find? ⟨template⟩ with
  | some segments => evaluate values (segments.map .ok) (e.report (.templateHit template))
  | none =>
    let e := e.report (.templateMiss template)
    match (scan template).complete with
    | .error _ => evaluate values (scan template) e
    | .ok segments => match evaluate values (segments.map .ok) e with
      | (.error error, e) => (.error error, e)
      | (.ok text, e) => (.ok text, e.keepTemplate template segments)

/-- **What a render with remembered templates does**: it evaluates the segments that it finds, or
the reading of the template, and keeps the segments of a success. -/
theorem renderCompiled_cases (template : String) (values : ValueMap) (e : Engine) :
    (∃ segments, e.compiled.find? ⟨template⟩ = some segments ∧ e.renderCompiled template values =
      evaluate values (segments.map .ok) (e.report (.templateHit template))) ∨
    e.compiled.find? ⟨template⟩ = none ∧
      ((∃ error s, evaluate values (scan template) (e.report (.templateMiss template)) =
            (.error error, s) ∧ e.renderCompiled template values = (.error error, s)) ∨
        ∃ segments text s, scan template = segments.map .ok ∧
          evaluate values (scan template) (e.report (.templateMiss template)) = (.ok text, s) ∧
          e.renderCompiled template values = (.ok text, s.keepTemplate template segments)) := by
  unfold renderCompiled
  cases e.compiled.find? ⟨template⟩ with
  | some segments => exact Or.inl ⟨segments, rfl, rfl⟩
  | none =>
    refine Or.inr ⟨rfl, ?_⟩
    dsimp only
    cases hc : (scan template).complete with
    | error fault =>
      obtain ⟨error, s, hx⟩ := evaluate_of_error? (Scan.error?_of_complete hc) values
        (e.report (.templateMiss template))
      exact Or.inl ⟨error, s, hx, hx⟩
    | ok segments =>
      have whole := Scan.eq_map_ok_of_complete hc
      dsimp only
      rw [← whole]
      rcases hx : evaluate values (scan template) (e.report (.templateMiss template)) with
        ⟨error | text, s⟩
      · exact Or.inl ⟨error, s, rfl, rfl⟩
      · exact Or.inr ⟨segments, text, s, whole, rfl, rfl⟩

/-! ## 4. Rendering -/

/-- Renders a template with the values its placeholders name. -/
def render (template : String) (values : ValueMap) (e : Engine) :
    Except RenderError String × Engine :=
  match e.config.renderCache with
  | .output => e.renderOutput template values
  | .compiled => e.renderCompiled template values
  | .disabled => evaluate values (scan template) e

/-- Renders a template that may be missing, with values that may be: no template gives no text and
changes nothing, and no values are an empty map. -/
def renderOpt (template : Option String) (values : Option ValueMap) (e : Engine) :
    Except RenderError (Option String) × Engine :=
  match template with
  | none => (.ok none, e)
  | some template => match e.render template (values.getD .empty) with
    | (.error error, e) => (.error error, e)
    | (.ok text, e) => (.ok (some text), e)

end Engine

end Stencil
