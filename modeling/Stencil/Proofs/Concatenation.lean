import Stencil.Proofs.Grammar
import Stencil.Proofs.Failure

/-!
# Templates side by side

What stands behind a template that can be read does not change how that template is read.

* `Scanner.items_shift`: the same text reads alike wherever it stands, with all offsets moved;
* `Scan.Joined`, `scan_append`: two templates side by side read as the one and then the other, but
  that two texts which meet become one;
* `evaluate_joined`, `evaluate_shift`: evaluation sees nothing of it, except in the offset of a scan
  error;
* `render_append`: so to render two templates side by side is to render the one and then the other.
-/

namespace Stencil

open Text

/-! ## 1. The same text further on -/

/-- The same segment of a template that has `n` more bytes in front. -/
def Segment.shift (n : Nat) : Segment → Segment
  | literal text => literal text
  | placeholder p => placeholder { p with offset := p.offset + n }

namespace Scan

/-- The same outcome of one step in a template that has `n` more bytes in front. -/
def shiftItem (n : Nat) : Except ScanError Segment → Except ScanError Segment
  | .ok segment => .ok (segment.shift n)
  | .error error => .error (error.shift n)

/-- The same reading of a template that has `n` more bytes in front. -/
def shift (n : Nat) (items : Scan) : Scan := items.map (shiftItem n)

theorem error?_shift (n : Nat) (items : Scan) :
    error? (items.shift n) = (error? items).map (ScanError.shift n) := by
  induction items with
  | nil => rfl
  | cons item items ih =>
    cases item with
    | ok segment => exact ih
    | error error => rfl

end Scan

namespace Scanner

/-- The same scanner in a template that has `n` more bytes in front. -/
def shift (n : Nat) (s : Scanner) : Scanner := { s with offset := s.offset + n }

theorem advance_shift (n : Nat) (s : Scanner) (read rest : List Char) :
    (s.shift n).advance read rest = (s.advance read rest).shift n := by
  simp [shift, advance, Nat.add_right_comm]

theorem ofBody?_shift (n offset : Nat) (body : List Char) :
    Placeholder.ofBody? (offset + n) body =
      (Placeholder.ofBody? offset body).map fun p => { p with offset := p.offset + n } := by
  unfold Placeholder.ofBody?
  split <;> rfl

theorem span_shift (n : Nat) (s : Scanner) (tail : List Char) :
    (s.shift n).span tail = (s.span tail).map (Scan.shiftItem n) (shift n) := by
  unfold span
  cases splitSpan 0 tail with
  | none => rfl
  | some split =>
    obtain ⟨body, rest⟩ := split
    have read : Placeholder.ofBody? (s.shift n).offset body = _ := ofBody?_shift n s.offset body
    dsimp only
    rw [read, advance_shift]
    cases Placeholder.ofBody? s.offset body <;> rfl

/-- One step does not hang on what stands in front. -/
theorem next?_shift (n : Nat) (s : Scanner) :
    (s.shift n).next? = s.next?.map (Prod.map (Scan.shiftItem n) (shift n)) := by
  have rest : (s.shift n).rest = s.rest := rfl
  have failed : (s.shift n).failed = s.failed := rfl
  unfold next?
  simp only [rest, failed, advance_shift, span_shift]
  by_cases hf : s.failed = true
  · rw [if_pos hf, if_pos hf]
    rfl
  · rw [if_neg hf, if_neg hf]
    cases s.rest with
    | nil => rfl
    | cons c cs => dsimp only; split_ifs <;> rfl

/-- **The same text reads alike wherever it stands.** -/
theorem items_shift (n : Nat) (s : Scanner) : (s.shift n).items = Scan.shift n s.items := by
  have step := next?_shift n s
  fun_induction items s with
  | case1 s ending =>
    rw [ending] at step
    rw [items_of_none step]
    rfl
  | case2 s e s' failing =>
    rw [failing] at step
    rw [items_of_error step]
    rfl
  | case3 s segment s' reading ih =>
    rw [reading] at step
    rw [items_of_ok step, ih (next?_shift n s')]
    rfl

end Scanner

/-! ## 2. One reading after the other -/

namespace Scan

/-- The reading `z` is `x` and then `y`, but that the text at the end of `x` may be one text with
the one that `y` begins with. -/
inductive Joined : Scan → Scan → Scan → Prop where
  | apart (x y : Scan) : Joined x y (x ++ y)
  | merged (x y : Scan) (l r : String) :
      Joined (x ++ [.ok (.literal l)]) (.ok (.literal r) :: y) (x ++ .ok (.literal (l ++ r)) :: y)

theorem Joined.cons {x y z : Scan} (h : Joined x y z) (item : Except ScanError Segment) :
    Joined (item :: x) y (item :: z) := by
  cases h with
  | apart => exact .apart (item :: x) y
  | merged x y l r => exact .merged (item :: x) y l r

/-- Behind a reading without errors comes the error of what is read next. -/
theorem Joined.error? {segments : List Segment} {y z : Scan}
    (h : Joined (segments.map .ok) y z) : z.error? = y.error? := by
  generalize hx : segments.map Except.ok = x at h
  cases h with
  | apart => rw [← hx, error?_ok_append]
  | merged x y l r =>
    obtain ⟨front, back, rfl, rfl, -⟩ := List.map_eq_append_iff.mp hx
    rw [error?_ok_append]
    rfl

end Scan

/-- Text that goes on behind a run of text is read in one step with it. -/
theorem items_run_append {s : Scanner} {text : List Char} (nonempty : text ≠ [])
    (plain : ∀ c ∈ text, isBrace c = false) (alive : s.failed = false) {rest : List Char}
    (source : s.rest = text ++ rest) (more : ¬ AtBrace rest) :
    Scan.Joined [.ok (.literal (String.ofList text))] (s.advance text rest).items s.items := by
  obtain ⟨c, front, hc⟩ : ∃ c, rest.head? = some c ∧ isBrace c = false := by
    simpa [AtBrace] using more
  obtain ⟨cs, rfl⟩ := List.head?_eq_some_iff.mp front
  obtain ⟨more, nonempty', plain', split, edge⟩ := exists_run cs hc
  generalize (c :: cs).dropWhile (!isBrace ·) = back at split edge
  have whole : text ++ more ≠ [] := List.append_ne_nil_of_left_ne_nil nonempty more
  have plain'' : ∀ d ∈ text ++ more, isBrace d = false := fun d hd =>
    (List.mem_append.mp hd).elim (plain d) (plain' d)
  have once : s.next? = some (.ok (.literal (String.ofList (text ++ more))),
      s.advance (text ++ more) back) := by
    refine next?_source (p := .run _ whole plain'') .run alive ?_ fun _ => edge
    rw [source, split, ← List.append_assoc]
    rfl
  have twice : (s.advance text (c :: cs)).next? = some (.ok (.literal (String.ofList more)),
      (s.advance text (c :: cs)).advance more back) :=
    next?_source (p := .run _ nonempty' plain') .run alive split fun _ => edge
  rw [Scanner.items_of_ok once, Scanner.items_of_ok twice, Scanner.advance_advance,
    String.ofList_append]
  exact .merged [] _ _ _

/-- **Pieces are read the same whatever stands behind them**, but that their last text may go on
there. -/
theorem items_append {s : Scanner} {pieces : List Piece} {segments : List Segment}
    {rest : List Char} (reads : Reads s.offset pieces segments) (alive : s.failed = false)
    (source : s.rest = pieces.flatMap Piece.source ++ rest) (apart : Apart pieces) :
    Scan.Joined (segments.map .ok) (s.advance (pieces.flatMap Piece.source) rest).items
      s.items := by
  induction pieces generalizing s segments with
  | nil =>
    cases reads
    obtain rfl : rest = s.rest := source.symm
    exact .apart [] _
  | cons p pieces ih =>
    cases reads with
    | cons front back =>
      rw [List.flatMap_cons, List.append_assoc] at source
      by_cases ends : p.Ends (pieces.flatMap Piece.source ++ rest)
      · have step := next?_source front alive source ends
        rw [← byteLength_eq_utf8ByteSize] at back
        have joined := ih (s := s.advance p.source _) back alive rfl apart.tail
        rw [Scanner.advance_advance] at joined
        rw [Scanner.items_of_ok step]
        exact joined.cons (.ok _)
      · -- only text at the very end can go on
        obtain rfl : pieces = [] := by
          by_contra inner
          exact ends (apart.ends fun last => absurd last inner)
        cases back
        obtain ⟨run, more⟩ : p.IsRun ∧ ¬ AtBrace rest := by simpa [Piece.Ends] using ends
        cases front with
        | openTwice | closeTwice | span => exact run.elim
        | @run text nonempty plain =>
          simpa [Piece.source] using items_run_append nonempty plain alive source more

/-- **Two templates side by side are read as the one and then the other**, as long as the first can
be read. -/
theorem scan_append {a : String} (clean : (scan a).error? = none) (b : String) :
    Scan.Joined (scan a) ((scan b).shift a.utf8ByteSize) (scan (a ++ b)) := by
  obtain ⟨pieces, made⟩ := Decomposition.of_scan clean
  obtain ⟨segments, reads, items⟩ := made.scan_eq
  have source : (Scanner.start (a ++ b)).rest = pieces.flatMap Piece.source ++ b.toList := by
    rw [made.source]
    exact String.toList_append
  have behind : (Scanner.start (a ++ b)).advance (pieces.flatMap Piece.source) b.toList =
      (Scanner.start b).shift a.utf8ByteSize := by
    simp [Scanner.advance, Scanner.shift, Scanner.start, made.source, byteLength_eq_utf8ByteSize]
  have joined := items_append reads rfl source made.apart
  rw [behind, Scanner.items_shift, ← items] at joined
  exact joined

/-! ## 3. One evaluation after the other -/

namespace RenderError

/-- The error does not tell where in its template it is from. -/
def Unplaced (error : RenderError) : Prop := ∀ n, error.shift n = error

end RenderError

namespace Engine

variable {values : ValueMap} {e s : Engine} {error : RenderError}

/-- What stands behind an error is not evaluated. -/
theorem evaluate_append_of_error {x : Scan} (h : evaluate values x e = (.error error, s))
    (y : Scan) : evaluate values (x ++ y) e = (.error error, s) := by
  obtain ⟨done, failing, rest, text, t, rfl, before, fails⟩ := evaluate_eq_error h
  rw [List.append_assoc, evaluate_append before, List.cons_append, fails.evaluate]
  rfl

/-- What stands behind a reading may be changed for what evaluates alike. -/
theorem evaluate_congr {y y' : Scan}
    (h : ∀ e, evaluate values y e = evaluate values y' e) (x : Scan) (e : Engine) :
    evaluate values (x ++ y) e = evaluate values (x ++ y') e := by
  induction x generalizing e with
  | nil => exact h e
  | cons item x ih =>
    cases item with
    | error scan => rfl
    | ok segment =>
      simp only [List.cons_append, evaluate]
      rcases e.evaluateSegment values segment with ⟨first | text, t⟩
      · rfl
      · dsimp only
        rw [ih]

/-- **Two texts or one text, evaluation gives the same.** -/
theorem evaluate_joined {x y z : Scan} (h : Scan.Joined x y z) (e : Engine) :
    evaluate values z e = evaluate values (x ++ y) e := by
  cases h with
  | apart => rfl
  | merged x y l r =>
    rw [List.append_assoc]
    refine evaluate_congr (fun e => ?_) x e
    simp only [List.cons_append, List.nil_append, evaluate, evaluateSegment]
    rcases evaluate values y e with ⟨later | more, t⟩
    · rfl
    · simp [String.append_assoc]

theorem unplaced_applyFormat {v : Value} {format : String}
    (h : applyFormat v format = .error error) : error.Unplaced := by
  unfold applyFormat at h
  split at h
  · cases h
  · split at h
    · cases h
      exact fun _ => rfl
    · split at h
      · cases h
        exact fun _ => rfl
      · cases h

theorem unplaced_resolve {expression : String}
    (h : e.resolve expression values = (.error error, s)) : error.Unplaced := by
  unfold resolve resolvePath at h
  split at h
  · cases h
    exact fun _ => rfl
  · split at h
    · cases h
      exact fun _ => rfl
    · split at h
      · cases h
        exact fun _ => rfl
      · cases h

theorem unplaced_fillIn {p : Placeholder} (h : e.fillIn values p = (.error error, s)) :
    error.Unplaced := by
  unfold fillIn at h
  rcases hx : e.resolve p.path values with ⟨failure | v, t⟩
  · rw [hx] at h
    cases h
    exact unplaced_resolve hx
  · rw [hx] at h
    dsimp only at h
    cases hf : p.format with
    | none =>
      rw [hf] at h
      cases h
    | some format =>
      rw [hf] at h
      exact unplaced_applyFormat (Prod.mk.inj h).1

/-- **Where a template stands matters to the offset of a scan error only.** -/
theorem evaluate_shift (n : Nat) (items : Scan) (e : Engine) :
    evaluate values (items.shift n) e =
      ((evaluate values items e).1.mapError (RenderError.shift n), (evaluate values items e).2) := by
  induction items generalizing e with
  | nil => rfl
  | cons item items ih =>
    cases item with
    | error scan => rfl
    | ok segment =>
      have same : e.evaluateSegment values (segment.shift n) = e.evaluateSegment values segment := by
        cases segment <;> rfl
      have unplaced : ∀ error t, e.evaluateSegment values segment = (.error error, t) →
          error.Unplaced := by
        intro error t h
        cases segment with
        | literal text => cases h
        | placeholder p => exact unplaced_fillIn h
      show evaluate values (.ok (segment.shift n) :: Scan.shift n items) e = _
      simp only [evaluate, same]
      rcases hx : e.evaluateSegment values segment with ⟨first | text, t⟩
      · dsimp only [Except.mapError]
        rw [unplaced first t hx]
      · dsimp only
        rw [ih t]
        rcases evaluate values items t with ⟨later | more, t'⟩ <;> rfl

end Engine

/-! ## 4. One render after the other -/

theorem Engine.render_disabled {e : Engine} (mode : e.config.renderCache = .disabled)
    (template : String) (values : ValueMap) :
    e.render template values = Engine.evaluate values (scan template) e := by
  unfold Engine.render
  rw [mode]

/-- **To render two templates side by side is to render the one and then the other**, on an engine
that remembers no templates and with quiet hosts. The first template, `a`, can be read; `b` is any
text at all. The two are read as `a` and then `b`, but that two texts which meet are one. When `a`
fails, that is all; when it gives a text, `b` is rendered with the accessors that are remembered by
then, and its text comes behind the one of `a`, or its error is reported, with as many bytes more in
front as `a` has. -/
theorem render_append {a : String} (clean : (scan a).error? = none) (b : String)
    {values : ValueMap} (quiet : values.All Value.Quiet) {e : Engine}
    (mode : e.config.renderCache = .disabled) :
    Scan.Joined (scan a) ((scan b).shift a.utf8ByteSize) (scan (a ++ b)) ∧
      (∀ error s, e.render a values = (.error error, s) →
        e.render (a ++ b) values = (.error error, s)) ∧
      ∀ text s, e.render a values = (.ok text, s) → Engine.Kept e s ∧
        (∀ more t, s.render b values = (.ok more, t) →
          e.render (a ++ b) values = (.ok (text ++ more), t)) ∧
        ∀ error t, s.render b values = (.error error, t) →
          e.render (a ++ b) values = (.error (error.shift a.utf8ByteSize), t) := by
  have joined := scan_append clean b
  rw [Engine.render_disabled mode, Engine.render_disabled mode, Engine.evaluate_joined joined]
  refine ⟨joined, fun error s failed => Engine.evaluate_append_of_error failed _, ?_⟩
  intro text s rendered
  have kept : Engine.Kept e s := by
    have kept := Engine.kept_evaluate quiet (scan a) e
    rw [rendered] at kept
    exact kept
  have later : s.config.renderCache = .disabled := by
    rw [kept.config]
    exact mode
  rw [Scan.eq_map_ok_of_error?_eq_none clean] at rendered ⊢
  rw [Engine.evaluate_append rendered, Engine.evaluate_shift, Engine.render_disabled later]
  refine ⟨kept, fun more t h => ?_, fun error t h => ?_⟩
  · rw [h]
    rfl
  · rw [h]
    rfl

/-- A placeholder with a text behind it, which takes two bytes for one of its characters. -/
def seamFront : String := "{a.x} é"

/-- A text that goes on with it, before a span that holds nothing. -/
def seamBack : String := "ü{ }"

theorem scan_seamFront :
    scan seamFront = [.ok (.placeholder ⟨"a.x", none, 0⟩), .ok (.literal " é")] := by
  have first : (Scanner.start seamFront).next? = some (.ok (.placeholder ⟨"a.x", none, 0⟩),
      ⟨" é".toList, 5, false⟩) := rfl
  have second : (⟨" é".toList, 5, false⟩ : Scanner).next? =
      some (.ok (.literal " é"), ⟨[], 8, false⟩) := rfl
  rw [scan, Scanner.items_of_ok first, Scanner.items_of_ok second, Scanner.items_of_none rfl]

theorem scan_seamBack :
    scan seamBack = [.ok (.literal "ü"), .error (.emptyPlaceholder 2)] := by
  have first : (Scanner.start seamBack).next? =
      some (.ok (.literal "ü"), ⟨"{ }".toList, 2, false⟩) := rfl
  have second : (⟨"{ }".toList, 2, false⟩ : Scanner).next? =
      some (.error (.emptyPlaceholder 2), ⟨[], 5, true⟩) := rfl
  rw [scan, Scanner.items_of_ok first, Scanner.items_of_error second]

def seamEngine : Engine := .ofConfig (Config.default.withRenderCache .disabled)

theorem render_append_seam :
    (scan seamFront).error? = none ∧ slotValues.All Value.Quiet ∧
    seamEngine.config.renderCache = .disabled ∧
    ∃ s t, seamEngine.render seamFront slotValues = (.ok "true é", s) ∧
      s.render seamBack slotValues = (.error (.scan (.emptyPlaceholder 2)), t) ∧
      seamEngine.render (seamFront ++ seamBack) slotValues =
        (.error (.scan (.emptyPlaceholder 10)), t) := by
  have clean : (scan seamFront).error? = none := by rw [scan_seamFront]; rfl
  have front : seamEngine.render seamFront slotValues =
      (.ok "true é", (seamEngine.render seamFront slotValues).2) := by
    rw [Engine.render_disabled rfl, scan_seamFront]
    rfl
  have back : ∀ s : Engine, s.config.renderCache = .disabled →
      s.render seamBack slotValues = (.error (.scan (.emptyPlaceholder 2)), s) := by
    intro s mode
    rw [Engine.render_disabled mode, scan_seamBack]
    rfl
  obtain ⟨-, -, after⟩ := render_append clean seamBack quiet_slotValues (e := seamEngine) rfl
  obtain ⟨kept, -, fails⟩ := after _ _ front
  have back := back _ (by rw [kept.config]; rfl)
  exact ⟨clean, quiet_slotValues, rfl, _, _, front, back, fails _ _ back⟩

end Stencil
