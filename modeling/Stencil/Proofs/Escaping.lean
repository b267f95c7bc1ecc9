import Stencil.Proofs.Passage
import Stencil.Proofs.CompiledMode
import Stencil.Proofs.Grammar

/-!
# Escaped texts

A text is escaped by doubling its braces.

* `items_escape`: an escaped text reads as literals that join to the text itself, so it is
  `Verbatim`: nothing is looked up to evaluate it (`evaluate_ofTexts`);
* `Literally`: what an engine remembers of a template that reads as literals only is their text.
  Every request carries this through, those that hosts nest included (`passage_literally`);
* `escaped_renders_itself`: so in every state an engine can be in, an escaped text renders to the
  text itself, and no host is asked anything.
-/

namespace Stencil

open Text

/-! ## 1. Escaping -/

/-- The characters of a text with each brace doubled. -/
def escapeChars : List Char → List Char
  | [] => []
  | c :: cs => if isBrace c then c :: c :: escapeChars cs else c :: escapeChars cs

/-- A text with each brace doubled. -/
def escape (s : String) : String := String.ofList (escapeChars s.toList)

/-- The reading of a template that has no placeholders, by its literals. -/
def Scan.ofTexts (texts : List String) : Scan := texts.map fun text => .ok (.literal text)

/-- The template reads as literals that join to the text. -/
def Verbatim (template text : String) : Prop :=
  ∃ texts, scan template = Scan.ofTexts texts ∧ String.join texts = text

theorem escapeChars_append {text : List Char} (plain : ∀ c ∈ text, isBrace c = false)
    (rest : List Char) : escapeChars (text ++ rest) = text ++ escapeChars rest := by
  induction text with
  | nil => rfl
  | cons c text ih =>
    obtain ⟨hc, ht⟩ := List.forall_mem_cons.mp plain
    rw [List.cons_append, escapeChars, hc, ih ht]
    rfl

theorem AtBrace.escapeChars {cs : List Char} (h : AtBrace cs) : AtBrace (escapeChars cs) := by
  cases cs with
  | nil => exact atBrace_nil
  | cons c cs =>
    have brace : isBrace c = true := h c rfl
    rw [Stencil.escapeChars, if_pos brace]
    intro d hd
    cases hd
    exact brace

/-- A doubled brace is a piece. -/
theorem exists_doubled {c : Char} (brace : isBrace c = true) (offset : Nat) : ∃ p : Piece,
    p.source = [c, c] ∧ ¬ p.IsRun ∧ p.Yields offset (.literal (String.ofList [c])) := by
  rcases (by simpa [isBrace] using brace : c = openBrace ∨ c = closeBrace) with rfl | rfl
  · exact ⟨.openTwice, rfl, id, .openTwice⟩
  · exact ⟨.closeTwice, rfl, id, .closeTwice⟩

/-- A literal in front of literals. -/
theorem exists_texts_of_next? {s s' : Scanner} {text rest : List Char}
    (step : s.next? = some (.ok (.literal (String.ofList text)), s'))
    (behind : ∃ texts, s'.items = Scan.ofTexts texts ∧ String.join texts = String.ofList rest) :
    ∃ texts, s.items = Scan.ofTexts texts ∧ String.join texts = String.ofList (text ++ rest) := by
  obtain ⟨texts, items, joined⟩ := behind
  refine ⟨String.ofList text :: texts, ?_, ?_⟩
  · rw [Scanner.items_of_ok step, items]
    rfl
  · rw [String.join_cons, joined, String.ofList_append]

/-- **An escaped text reads as literals that join to the text.** -/
theorem items_escape {s : Scanner} {cs : List Char} (alive : s.failed = false)
    (source : s.rest = escapeChars cs) :
    ∃ texts, s.items = Scan.ofTexts texts ∧ String.join texts = String.ofList cs := by
  -- a run of plain characters is read in one step, so the induction is on the length
  induction hn : cs.length using Nat.strong_induction_on generalizing s cs with
  | _ n ih =>
  cases cs with
  | nil =>
    have ending : s.next? = none := by
      rw [Scanner.next?, alive, source]
      rfl
    exact ⟨[], Scanner.items_of_none ending, rfl⟩
  | cons c cs =>
    by_cases brace : isBrace c = true
    · obtain ⟨p, spelt, noRun, yields⟩ := exists_doubled brace s.offset
      have front : s.rest = p.source ++ escapeChars cs := by
        rw [source, escapeChars, if_pos brace, spelt]
        rfl
      have step := next?_source yields alive front (.of_not_isRun noRun _)
      have shorter : cs.length < n := by simp [← hn]
      exact exists_texts_of_next? step (ih _ shorter alive rfl rfl)
    · obtain ⟨text, nonempty, plain, split, edge⟩ := exists_run cs (by simpa using brace)
      generalize (c :: cs).dropWhile (!isBrace ·) = rest at split edge
      have front : s.rest = text ++ escapeChars rest := by
        rw [source, split, escapeChars_append plain]
      have step := next?_source (p := .run text nonempty plain) .run alive front
        fun _ => edge.escapeChars
      have shorter : rest.length < n := by
        have := List.length_pos_iff.mpr nonempty
        rw [← hn, split, List.length_append]
        omega
      rw [split]
      exact exists_texts_of_next? step (ih _ shorter alive rfl rfl)

theorem verbatim_escape (s : String) : Verbatim (escape s) s := by
  have source : (Scanner.start (escape s)).rest = escapeChars s.toList := String.toList_ofList
  obtain ⟨texts, items, joined⟩ := items_escape rfl source
  exact ⟨texts, items, joined.trans String.ofList_toList⟩

namespace Engine

variable {values : ValueMap} {e s : Engine} {template text : String}

/-! ## 2. Literals need no engine -/

theorem evaluate_ofTexts (values : ValueMap) (texts : List String) (e : Engine) :
    evaluate values (Scan.ofTexts texts) e = (.ok (String.join texts), e) := by
  induction texts with
  | nil => rfl
  | cons text texts ih =>
    have behind : evaluate values (texts.map fun text => .ok (.literal text)) e =
      (.ok (String.join texts), e) := ih
    rw [Scan.ofTexts, List.map_cons, evaluate, evaluateSegment, String.join_cons]
    simp only [behind]

theorem evaluate_verbatim (verbatim : Verbatim template text) (values : ValueMap) (e : Engine) :
    evaluate values (scan template) e = (.ok text, e) := by
  obtain ⟨texts, items, rfl⟩ := verbatim
  rw [items, evaluate_ofTexts]

/-! ## 3. What is remembered of literals -/

/-- What is remembered of a template that reads as literals only is their text: the output is the
text, and the segments are those literals. -/
structure Literally (e : Engine) : Prop where
  outputs : ∀ entry ∈ e.rendered.entries, ∀ text, Verbatim entry.1.template text → entry.2 = text
  templates : e.CompiledSound

theorem Literally.ofConfig (config : Config) : (ofConfig config).Literally where
  outputs := by
    intro entry h
    rw [show (Engine.ofConfig config).rendered = .empty from rfl, ShardedTable.entries_empty] at h
    cases h
  templates := .ofConfig config

theorem Literally.of_kept (h : e.Literally) (kept : Kept e s) : s.Literally where
  outputs := by
    rw [kept.rendered]
    exact h.outputs
  templates := h.templates.of_kept kept

theorem Literally.keepOutput (h : e.Literally) {key : RenderKey} {text : String}
    (own : ∀ other, Verbatim key.template other → text = other) :
    (e.keepOutput key text).Literally := by
  have stored := @ShardedTable.mem_entries_insertIfAbsent _ _ _ _ e.rendered key text
  unfold Engine.keepOutput
  rcases hi : e.rendered.insertIfAbsent key text with ⟨_ | _, table⟩
  · exact h.of_kept (.report e _)
  · refine ⟨fun entry he => ?_, h.templates⟩
    rw [hi] at stored
    rcases stored.mp he with he | ⟨-, rfl⟩
    · exact h.outputs entry he
    · exact own

/-- A template is kept with its own reading, which leaves outputs alone. -/
theorem Literally.keepTemplate (h : e.Literally) {segments : List Segment}
    (own : scan template = segments.map .ok) : (e.keepTemplate template segments).Literally where
  outputs := by
    unfold Engine.keepTemplate
    split <;> exact h.outputs
  templates := (keepTemplate_spec template segments e).2.2 h.templates own

section Renders

-- as far as the evaluation of a template carries it through, whatever its hosts do
variable (evaluated : ∀ items e, Literally e → Literally (evaluate values items e).2)
include evaluated

theorem Literally.renderOutput (h : e.Literally) (template : String) :
    (e.renderOutput template values).2.Literally := by
  have behind := evaluated (scan template) (e.missed template values) (h.of_kept (.report e _))
  rcases renderOutput_cases template values e with
    ⟨text, -, h'⟩ | ⟨-, ⟨error, s, hx, h'⟩ | ⟨text, s, hx, h'⟩⟩
  · rw [h']
    exact h.of_kept (.report e _)
  · rw [hx] at behind
    rw [h']
    exact behind
  · rw [hx] at behind
    rw [h']
    refine behind.keepOutput fun other verbatim => ?_
    have verbatim : Verbatim template other := verbatim
    rw [evaluate_verbatim verbatim] at hx
    cases hx
    rfl

theorem Literally.renderCompiled (h : e.Literally) (template : String) :
    (e.renderCompiled template values).2.Literally := by
  have behind := evaluated (scan template) _ (h.of_kept (.report e (.templateMiss template)))
  rcases renderCompiled_cases template values e with
    ⟨segments, -, h'⟩ | ⟨-, ⟨error, s, hx, h'⟩ | ⟨segments, text, s, whole, hx, h'⟩⟩
  · rw [h']
    exact evaluated _ _ (h.of_kept (.report e _))
  · rw [h', ← hx]
    exact behind
  · rw [hx] at behind
    rw [h']
    exact behind.keepTemplate whole

end Renders

/-- **Every request carries through that literals are remembered as they are.** -/
theorem passage_literally : Passage fun e s => e.Literally → s.Literally where
  kept kept h := h.of_kept kept
  trans before behind h := behind (before h)
  render := by
    intro values evaluated template e h
    unfold Engine.render
    cases e.config.renderCache with
    | output => exact h.renderOutput evaluated template
    | compiled => exact h.renderCompiled evaluated template
    | disabled => exact evaluated _ _ h

/-! ## 4. Rendering literals -/

/-- **Where literals are remembered as they are, they render to their text**, and no host is
asked. -/
theorem render_verbatim (h : e.Literally) (verbatim : Verbatim template text) (values : ValueMap) :
    ∃ s, e.render template values = (.ok text, s) ∧ s.calls = e.calls ∧
      s.accessors = e.accessors := by
  unfold Engine.render
  cases e.config.renderCache with
  | disabled =>
    dsimp only
    rw [evaluate_verbatim verbatim]
    exact ⟨e, rfl, rfl, rfl⟩
  | output =>
    have gives := evaluate_verbatim verbatim values (e.missed template values)
    rcases renderOutput_cases template values e with
      ⟨output, found, h'⟩ | ⟨-, ⟨error, s, hx, -⟩ | ⟨output, s, hx, h'⟩⟩
    · obtain rfl := h.outputs _ (ShardedTable.mem_entries_of_find? found) _ verbatim
      exact ⟨_, h', rfl, rfl⟩
    · cases gives.symm.trans hx
    · cases gives.symm.trans hx
      obtain ⟨-, accessors, calls⟩ := (Aside.keepOutput (renderKey template values) text).same
      exact ⟨_, h', calls, accessors⟩
  | compiled =>
    have gives := evaluate_verbatim verbatim values (e.report (.templateMiss template))
    rcases renderCompiled_cases template values e with
      ⟨segments, found, h'⟩ | ⟨-, ⟨error, s, hx, h'⟩ | ⟨segments, output, s, -, hx, h'⟩⟩
    · rw [← h.templates.scan_eq found, evaluate_verbatim verbatim] at h'
      exact ⟨_, h', rfl, rfl⟩
    · exact ⟨_, h'.trans (hx.symm.trans gives), rfl, rfl⟩
    · cases gives.symm.trans hx
      obtain ⟨-, accessors, calls⟩ := (Aside.keepTemplate template segments).same
      exact ⟨_, h', calls, accessors⟩

theorem Reachable.literally {config : Config} (reachable : e.Reachable config) : e.Literally :=
  invariant_reachable passage_literally (.ofConfig config) reachable

end Engine

/-- **An escaped text renders to the text itself.** It reads as literals that join to the text. In
whatever state an engine is, behind any requests or in the midst of one that a host nests, with any
configuration and any values, rendering it gives the text and puts no question to a host; and an
output that is remembered for it can only be the text. -/
theorem escaped_renders_itself (config : Config) {e : Engine} (reachable : e.Reachable config)
    (s : String) (values : ValueMap) :
    (∃ texts : List String, scan (escape s) = texts.map (fun text => .ok (.literal text)) ∧
      String.join texts = s) ∧
    (∃ e', e.render (escape s) values = (.ok s, e') ∧ e'.calls = e.calls ∧
      e'.accessors = e.accessors) ∧
    ∀ entry ∈ e.rendered.entries, entry.1.template = escape s → entry.2 = s := by
  have verbatim := verbatim_escape s
  refine ⟨verbatim, Engine.render_verbatim reachable.literally verbatim values, ?_⟩
  intro entry mem template
  refine reachable.literally.outputs entry mem s ?_
  rw [template]
  exact verbatim

/-- A text that would be a placeholder and a stray brace. -/
def bracedText : String := "{n} \x7d"

example : escape bracedText = "{{n}} \x7d\x7d" := by decide

/-- A host that renders the escaped text when its field is read. -/
def echoValues : ValueMap := ValueMap.empty.insert "h" (.object (.ofTable "Echo" (.numbered 0) "Echo"
  "echo" [.rendering .field "x" 0 (escape bracedText) .empty]))

theorem civil_echoValues : echoValues.All Value.Civil := by
  refine ValueMap.all_empty.insert (Value.civil_ofTable ?_ ..) "h"
  exact List.forall_mem_singleton.mpr (TableEntry.civil_rendering ValueMap.all_empty ..)

/-- An engine behind a render that nested one of the escaped text. -/
def echoEngine : Engine :=
  ((Call.render "{h.x}" echoValues).perform (.ofConfig (Config.default.withRenderCache .output))).2

theorem escaped_renders_itself_echo :
    echoEngine.Reachable (Config.default.withRenderCache .output) ∧
    ∃ e, echoEngine.render (escape bracedText) echoValues = (.ok bracedText, e) ∧
      e.calls = echoEngine.calls := by
  have reachable : echoEngine.Reachable (Config.default.withRenderCache .output) :=
    .request .start civil_echoValues
  obtain ⟨-, ⟨e, rendered, calls, -⟩, -⟩ :=
    escaped_renders_itself _ reachable bracedText echoValues
  exact ⟨reachable, e, rendered, calls⟩

end Stencil
