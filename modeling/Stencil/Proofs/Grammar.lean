import Stencil.Template.Scanner
import Mathlib.Data.List.Chain
import Mathlib.Data.List.DropRight

/-!
# The grammar of templates

A template is a row of pieces: runs of text without braces, doubled braces, and bodies in braces.

```text
template := piece*            no two runs side by side
piece    := run | "{{" | "}}" | "{" body "}"
```

A body is balanced, does not begin with an opening brace and is not blank. Reading a template is
finding its pieces:

* `splitSpan_append`, `Closes.of_splitSpan`: a span ends behind the body that closes it;
* `next?_source`, `exists_piece_of_next?`: one step of a scanner reads one piece;
* `items_pieces`, `pieces_unique`: all steps read all pieces, and a text has one row of them only;
* `scan_reads_grammar`: a template reads without error just when it is a row of pieces, in one way
  only, and then the reading has one segment for each piece.
-/

namespace Stencil

open Text

/-! ## 1. Balance -/

/-- The braces of a text close `depth` spans that are open before it, and no part of it from the
front closes more than is open. -/
structure Closes (depth : Nat) (body : List Char) : Prop where
  closed : body.count closeBrace = body.count openBrace + depth
  nested : ∀ p, p <+: body → p.count closeBrace ≤ p.count openBrace + depth

/-- The braces of a text match. -/
abbrev Balanced (body : List Char) : Prop := Closes 0 body

theorem closes_nil {depth : Nat} : Closes depth [] ↔ depth = 0 := by
  constructor
  · intro h
    have := h.closed
    simp only [List.count_nil] at this
    omega
  · rintro rfl
    exact ⟨rfl, fun p hp => by rw [List.prefix_nil.mp hp]; exact Nat.le_refl 0⟩

/-- A character in front counts towards the spans it opens or closes. -/
theorem closes_cons {depth depth' : Nat} {c : Char} {body : List Char}
    (h : ∀ p : List Char, (c :: p).count openBrace + depth + p.count closeBrace =
      (c :: p).count closeBrace + p.count openBrace + depth') :
    Closes depth (c :: body) ↔ Closes depth' body := by
  have counts := h body
  constructor
  · intro hc
    refine ⟨?_, fun p hp => ?_⟩
    · have := hc.closed
      omega
    · have := hc.nested (c :: p) (List.cons_prefix_cons.mpr ⟨rfl, hp⟩)
      have := h p
      omega
  · intro hc
    refine ⟨?_, fun p hp => ?_⟩
    · have := hc.closed
      omega
    · rcases List.prefix_cons_iff.mp hp with rfl | ⟨p, rfl, hp⟩
      · simp only [List.count_nil]
        omega
      · have := hc.nested p ‹p <+: body›
        have := h p
        omega

theorem closes_openBrace {depth : Nat} {body : List Char} :
    Closes depth (openBrace :: body) ↔ Closes (depth + 1) body := by
  refine closes_cons fun p => ?_
  rw [List.count_cons_self, List.count_cons_of_ne (by decide)]
  omega

theorem closes_closeBrace {depth : Nat} {body : List Char} :
    Closes (depth + 1) (closeBrace :: body) ↔ Closes depth body := by
  refine closes_cons fun p => ?_
  rw [List.count_cons_self, List.count_cons_of_ne (by decide)]
  omega

theorem not_closes_zero_closeBrace {body : List Char} : ¬ Closes 0 (closeBrace :: body) := by
  intro h
  have := h.nested [closeBrace] (List.cons_prefix_cons.mpr ⟨rfl, List.nil_prefix⟩)
  revert this
  decide

theorem closes_plain {depth : Nat} {c : Char} {body : List Char} (ho : c ≠ openBrace)
    (hc : c ≠ closeBrace) : Closes depth (c :: body) ↔ Closes depth body := by
  refine closes_cons fun p => ?_
  rw [List.count_cons_of_ne ho, List.count_cons_of_ne hc]
  omega

/-- **A span ends at the brace behind the body that closes it.** -/
theorem splitSpan_append {depth : Nat} {body : List Char} (h : Closes depth body)
    (rest : List Char) : splitSpan depth (body ++ closeBrace :: rest) = some (body, rest) := by
  induction body generalizing depth with
  | nil =>
    obtain rfl := closes_nil.mp h
    rfl
  | cons c body ih =>
    unfold splitSpan
    simp only [List.cons_append]
    by_cases ho : c = openBrace
    · subst ho
      rw [if_pos rfl, ih (closes_openBrace.mp h)]
      rfl
    · rw [if_neg ho]
      by_cases hc : c = closeBrace
      · subst hc
        rw [if_pos rfl]
        cases depth with
        | zero => exact absurd h not_closes_zero_closeBrace
        | succ depth =>
          dsimp only
          rw [ih (closes_closeBrace.mp h)]
          rfl
      · rw [if_neg hc, ih ((closes_plain ho hc).mp h)]
        rfl

theorem Closes.of_splitSpan {depth : Nat} {cs body rest : List Char}
    (h : splitSpan depth cs = some (body, rest)) : Closes depth body := by
  induction cs generalizing depth body with
  | nil => cases h
  | cons c cs ih =>
    unfold splitSpan at h
    by_cases ho : c = openBrace
    · subst ho
      rw [if_pos rfl] at h
      obtain ⟨⟨b, r⟩, hs, he⟩ := Option.map_eq_some_iff.mp h
      cases he
      exact closes_openBrace.mpr (ih hs)
    · rw [if_neg ho] at h
      by_cases hc : c = closeBrace
      · subst hc
        rw [if_pos rfl] at h
        cases depth with
        | zero =>
          cases h
          exact closes_nil.mpr rfl
        | succ depth =>
          obtain ⟨⟨b, r⟩, hs, he⟩ := Option.map_eq_some_iff.mp h
          cases he
          exact closes_closeBrace.mpr (ih hs)
      · rw [if_neg hc] at h
        obtain ⟨⟨b, r⟩, hs, he⟩ := Option.map_eq_some_iff.mp h
        cases he
        exact (closes_plain ho hc).mpr (ih hs)

/-! ## 2. Bodies -/

/-- What a body spells: the trimmed texts on the two sides of the first colon of the trimmed body.
There is no format without a colon, or when nothing but blanks stands behind it. -/
inductive Spells (body : List Char) : String → Option String → Prop where
  | path (plain : ':' ∉ trim body) : Spells body (String.ofList (trim body)) none
  | blankFormat {left right : List Char} (colon : trim body = left ++ ':' :: right)
      (first : ':' ∉ left) (blank : ∀ c ∈ right, isBlank c = true) :
      Spells body (String.ofList (trim left)) none
  | format {left right : List Char} (colon : trim body = left ++ ':' :: right)
      (first : ':' ∉ left) (filled : ∃ c ∈ right, isBlank c = false) :
      Spells body (String.ofList (trim left)) (some (String.ofList (trim right)))

/-- Trimming once is enough. -/
theorem trim_trim (cs : List Char) : trim (trim cs) = trim cs := by
  have right : ∀ l : List Char, trimRight l = l.rdropWhile isBlank := fun l => rfl
  have left : trimLeft (trim cs) = trim cs := by
    refine List.dropWhile_eq_self_iff.mpr fun hl => ?_
    have pre : trim cs <+: trimLeft cs := List.rdropWhile_prefix isBlank _
    have hl' : 0 < (trimLeft cs).length := Nat.lt_of_lt_of_le hl pre.length_le
    rw [pre.getElem hl]
    exact List.dropWhile_get_zero_not isBlank cs hl'
  rw [trim, left, right, trim, right, List.rdropWhile_idempotent]

theorem splitColon_of_not_mem {cs : List Char} (h : ':' ∉ cs) : splitColon cs = (cs, none) := by
  have plain : ∀ c ∈ cs, (c != ':') = true := fun c hc => bne_iff_ne.mpr fun e => h (e ▸ hc)
  rw [splitColon, List.takeWhile_eq_self_iff.mpr plain, List.dropWhile_eq_nil_iff.mpr plain]
  rfl

theorem splitColon_append {left right : List Char} (h : ':' ∉ left) :
    splitColon (left ++ ':' :: right) = (left, some right) := by
  have plain : ∀ c ∈ left, (c != ':') = true := fun c hc => bne_iff_ne.mpr fun e => h (e ▸ hc)
  rw [splitColon, List.takeWhile_append_of_pos plain, List.dropWhile_append_of_pos plain]
  simp

theorem exists_not_blank_iff {cs : List Char} : (∃ c ∈ cs, isBlank c = false) ↔ trim cs ≠ [] := by
  rw [Ne, trim_eq_nil_iff]
  push Not
  simp

/-- Every body spells something. -/
theorem exists_spells (body : List Char) : ∃ path format, Spells body path format := by
  by_cases hc : ':' ∈ trim body
  · obtain ⟨left, right, colon, first⟩ := List.eq_append_cons_of_mem hc
    by_cases hr : trim right = []
    · exact ⟨_, _, .blankFormat colon first (trim_eq_nil_iff.mp hr)⟩
    · exact ⟨_, _, .format colon first (exists_not_blank_iff.mpr hr)⟩
  · exact ⟨_, _, .path hc⟩

/-- **A body that is not blank is read as what it spells.** -/
theorem Spells.ofBody? {body : List Char} {path : String} {format : Option String}
    (spells : Spells body path format) (filled : ∃ c ∈ body, isBlank c = false) (offset : Nat) :
    Placeholder.ofBody? offset body = some ⟨path, format, offset⟩ := by
  have text := exists_not_blank_iff.mp filled
  unfold Placeholder.ofBody?
  split
  · rename_i h
    exact absurd h text
  · cases spells with
    | path plain =>
      rw [splitColon_of_not_mem plain]
      simp [trim_trim]
    | blankFormat colon first blank =>
      rw [colon, splitColon_append first]
      simp [trim_eq_nil_iff.mpr blank]
    | format colon first filled =>
      rw [colon, splitColon_append first]
      simp [exists_not_blank_iff.mp filled]

theorem filled_of_ofBody? {body : List Char} {offset : Nat} {p : Placeholder}
    (h : Placeholder.ofBody? offset body = some p) : ∃ c ∈ body, isBlank c = false := by
  rw [exists_not_blank_iff]
  intro ht
  simp [Placeholder.ofBody?, ht] at h

/-! ## 3. Pieces -/

/-- A piece of a template as it is written. -/
inductive Piece where
  /-- Text without braces, at least one character of it. -/
  | run (text : List Char) (nonempty : text ≠ []) (plain : ∀ c ∈ text, isBrace c = false)
  /-- An opening brace, doubled. -/
  | openTwice
  /-- A closing brace, doubled. -/
  | closeTwice
  /-- A body in braces. -/
  | span (body : List Char) (start : body.head? ≠ some openBrace)
    (filled : ∃ c ∈ body, isBlank c = false) (balanced : Balanced body)

namespace Piece

/-- The piece as it is written. -/
def source : Piece → List Char
  | run text _ _ => text
  | openTwice => [openBrace, openBrace]
  | closeTwice => [closeBrace, closeBrace]
  | span body _ _ _ => openBrace :: body ++ [closeBrace]

/-- The piece is a run of text. -/
def IsRun : Piece → Prop
  | run .. => True
  | _ => False

/-- The segment that a piece reads as when `offset` bytes stand before it. -/
inductive Yields (offset : Nat) : Piece → Segment → Prop where
  | run {text : List Char} {nonempty plain} :
      Yields offset (.run text nonempty plain) (.literal (String.ofList text))
  | openTwice : Yields offset .openTwice (.literal (String.ofList [openBrace]))
  | closeTwice : Yields offset .closeTwice (.literal (String.ofList [closeBrace]))
  | span {body : List Char} {start filled balanced} {path : String} {format : Option String}
      (spells : Spells body path format) :
      Yields offset (.span body start filled balanced) (.placeholder ⟨path, format, offset⟩)

theorem exists_yields (p : Piece) (offset : Nat) : ∃ segment, p.Yields offset segment := by
  cases p with
  | run => exact ⟨_, .run⟩
  | openTwice => exact ⟨_, .openTwice⟩
  | closeTwice => exact ⟨_, .closeTwice⟩
  | span body =>
    obtain ⟨path, format, spells⟩ := exists_spells body
    exact ⟨_, .span spells⟩

/-- A piece begins with a brace unless it is a run. -/
theorem exists_head (p : Piece) :
    ∃ c cs, p.source = c :: cs ∧ (isBrace c = false ↔ p.IsRun) := by
  have opening : isBrace openBrace ≠ false := by decide
  have closing : isBrace closeBrace ≠ false := by decide
  cases p with
  | run text nonempty plain =>
    obtain ⟨c, cs, rfl⟩ := List.exists_cons_of_ne_nil nonempty
    exact ⟨c, cs, rfl, fun _ => trivial, fun _ => plain c List.mem_cons_self⟩
  | openTwice => exact ⟨_, _, rfl, fun h => opening h, False.elim⟩
  | closeTwice => exact ⟨_, _, rfl, fun h => closing h, False.elim⟩
  | span body => exact ⟨_, _, rfl, fun h => opening h, False.elim⟩

theorem isRun_congr {p q : Piece} (h : p.source = q.source) : p.IsRun ↔ q.IsRun := by
  obtain ⟨c, cs, hp, runP⟩ := p.exists_head
  obtain ⟨d, ds, hq, runQ⟩ := q.exists_head
  rw [hp, hq] at h
  rw [← runP, ← runQ, (List.cons.inj h).1]

theorem span_ne_openTwice (body : List Char) :
    openBrace :: body ++ [closeBrace] ≠ [openBrace, openBrace] := by
  intro h
  have h := (List.cons.inj h).2
  cases body with
  | nil => exact absurd h (by decide)
  | cons b body => exact absurd (List.cons.inj h).2 (by simp)

/-- Different pieces are written differently. -/
theorem source_injective {p q : Piece} (h : p.source = q.source) : p = q := by
  have run := isRun_congr h
  cases p with
  | run text =>
    cases q with
    | run text' =>
      obtain rfl : text = text' := h
      rfl
    | openTwice | closeTwice | span => exact (run.mp trivial).elim
  | openTwice =>
    cases q with
    | run => exact (run.mpr trivial).elim
    | openTwice => rfl
    | closeTwice => exact absurd h (by decide)
    | span body => exact absurd h.symm (span_ne_openTwice body)
  | closeTwice =>
    cases q with
    | run => exact (run.mpr trivial).elim
    | openTwice => exact absurd h (by decide)
    | closeTwice => rfl
    | span body => exact absurd (List.cons.inj h).1 (by decide)
  | span body =>
    cases q with
    | run => exact (run.mpr trivial).elim
    | openTwice => exact absurd h (span_ne_openTwice body)
    | closeTwice => exact absurd (List.cons.inj h).1 (by decide)
    | span body' =>
      obtain rfl : body = body' := List.append_cancel_right (List.cons.inj h).2
      rfl

end Piece

/-! ## 4. One step -/

/-- The text begins with a brace or is over. -/
def AtBrace (rest : List Char) : Prop := ∀ c, rest.head? = some c → isBrace c = true

theorem atBrace_nil : AtBrace [] := fun _ h => by cases h

theorem AtBrace.left {cs rest : List Char} (h : AtBrace (cs ++ rest)) : AtBrace cs := by
  cases cs with
  | nil => exact atBrace_nil
  | cons c cs => exact h

/-- What stands behind a piece does not belong to it. -/
def Piece.Ends (p : Piece) (rest : List Char) : Prop := p.IsRun → AtBrace rest

theorem Piece.Ends.left {p : Piece} {cs rest : List Char} (h : p.Ends (cs ++ rest)) : p.Ends cs :=
  fun run => (h run).left

theorem Piece.Ends.of_not_isRun {p : Piece} (h : ¬ p.IsRun) (rest : List Char) : p.Ends rest :=
  fun run => (h run).elim

theorem takeWhile_plain {text rest : List Char} (plain : ∀ c ∈ text, isBrace c = false)
    (ends : AtBrace rest) :
    (text ++ rest).takeWhile (!isBrace ·) = text ∧
      (text ++ rest).dropWhile (!isBrace ·) = rest := by
  have front : ∀ c ∈ text, (!isBrace c) = true := fun c hc => by rw [plain c hc]; rfl
  rw [List.takeWhile_append_of_pos front, List.dropWhile_append_of_pos front]
  cases rest with
  | nil => simp
  | cons c rest =>
    have hc := ends c rfl
    simp [hc]

/-- **A piece at the front of the text is read in one step.** -/
theorem next?_source {s : Scanner} {p : Piece} {segment : Segment} {rest : List Char}
    (yields : p.Yields s.offset segment) (alive : s.failed = false)
    (source : s.rest = p.source ++ rest) (ends : p.Ends rest) :
    s.next? = some (.ok segment, s.advance p.source rest) := by
  cases yields with
  | @run text nonempty plain =>
    obtain ⟨c, cs, rfl⟩ := List.exists_cons_of_ne_nil nonempty
    have hc := plain c List.mem_cons_self
    obtain ⟨front, back⟩ := takeWhile_plain plain (ends trivial)
    rw [Scanner.next?, alive, source]
    simp only [Piece.source, List.cons_append] at front back ⊢
    simp [hc, front, back]
  | openTwice =>
    rw [Scanner.next?, alive, source]
    rfl
  | closeTwice =>
    rw [Scanner.next?, alive, source]
    rfl
  | @span body start filled balanced path format spells =>
    have tail : s.rest = openBrace :: (body ++ closeBrace :: rest) := by
      rw [source]
      simp [Piece.source]
    have single : (body ++ closeBrace :: rest).head? ≠ some openBrace := by
      cases body with
      | nil => simp at filled
      | cons b body => exact start
    have brace : isBrace openBrace = true := rfl
    rw [Scanner.next?, alive, tail]
    simp only [Bool.false_eq_true, if_false, brace, if_true, single, Scanner.span,
      splitSpan_append balanced, spells.ofBody? filled]
    rfl

/-- A placeholder is read from a body in braces. -/
theorem exists_piece_of_span {s s' : Scanner} {segment : Segment} {tail : List Char}
    (single : tail.head? ≠ some openBrace) (h : s.span tail = (.ok segment, s')) :
    ∃ p : Piece, openBrace :: tail = p.source ++ s'.rest ∧ p.Ends s'.rest := by
  unfold Scanner.span at h
  split at h
  · cases h
  rename_i body rest closing
  split at h
  · cases h
  rename_i placeholder read
  cases h
  have balanced : Balanced body := .of_splitSpan closing
  obtain rfl := eq_of_splitSpan closing
  have start : body.head? ≠ some openBrace := by
    cases body with
    | nil => simp
    | cons b body => exact single
  refine ⟨.span body start (filled_of_ofBody? read) balanced, ?_, .of_not_isRun id _⟩
  simp [Piece.source, Scanner.advance]

/-- The text up to the first brace is a run. -/
theorem exists_run {c : Char} (cs : List Char) (plain : isBrace c = false) :
    ∃ text, text ≠ [] ∧ (∀ d ∈ text, isBrace d = false) ∧
      c :: cs = text ++ (c :: cs).dropWhile (!isBrace ·) ∧
      AtBrace ((c :: cs).dropWhile (!isBrace ·)) := by
  refine ⟨(c :: cs).takeWhile (!isBrace ·), ?_, fun d hd => ?_, ?_, fun d hd => ?_⟩
  · rw [List.takeWhile_cons_of_pos (by rw [plain]; rfl)]
    exact List.cons_ne_nil _ _
  · simpa using List.mem_takeWhile_imp hd
  · rw [List.takeWhile_append_dropWhile]
  · have stopped := List.head?_dropWhile_not (!isBrace ·) (c :: cs)
    rw [hd] at stopped
    simpa using stopped

theorem exists_piece_of_plain {c : Char} (cs : List Char) (plain : isBrace c = false) :
    ∃ p : Piece, c :: cs = p.source ++ (c :: cs).dropWhile (!isBrace ·) ∧
      p.Ends ((c :: cs).dropWhile (!isBrace ·)) := by
  obtain ⟨text, nonempty, inside, split, edge⟩ := exists_run cs plain
  exact ⟨.run text nonempty inside, split, fun _ => edge⟩

/-- **A segment comes from a piece at the front of the text.** -/
theorem exists_piece_of_next? {s s' : Scanner} {segment : Segment}
    (h : s.next? = some (.ok segment, s')) :
    s.failed = false ∧ ∃ p : Piece, s.rest = p.source ++ s'.rest ∧ p.Ends s'.rest := by
  unfold Scanner.next? at h
  split at h
  · cases h
  rename_i alive
  refine ⟨by simpa using alive, ?_⟩
  split at h
  · cases h
  rename_i c cs front
  rw [front]
  by_cases brace : isBrace c = true
  · rw [if_pos brace] at h
    by_cases twice : cs.head? = some c
    · rw [if_pos twice] at h
      cases h
      obtain ⟨cs, rfl⟩ := List.head?_eq_some_iff.mp twice
      rcases (by simpa [isBrace] using brace : c = openBrace ∨ c = closeBrace) with rfl | rfl
      · exact ⟨.openTwice, rfl, .of_not_isRun id _⟩
      · exact ⟨.closeTwice, rfl, .of_not_isRun id _⟩
    · rw [if_neg twice] at h
      by_cases hc : c = openBrace
      · subst hc
        rw [if_pos rfl] at h
        exact exists_piece_of_span twice (Option.some.inj h)
      · rw [if_neg hc] at h
        cases h
  · rw [if_neg brace] at h
    cases h
    exact exists_piece_of_plain cs (by simpa using brace)

/-- A text begins with one piece only. -/
theorem piece_unique {p q : Piece} {rest rest' : List Char} (ends : p.Ends rest)
    (ends' : q.Ends rest') (h : p.source ++ rest = q.source ++ rest') : p = q ∧ rest = rest' := by
  let s : Scanner := ⟨p.source ++ rest, 0, false⟩
  have front : s.rest = p.source ++ rest := rfl
  obtain ⟨_, yields⟩ := p.exists_yields s.offset
  obtain ⟨_, yields'⟩ := q.exists_yields s.offset
  have first := next?_source yields rfl front ends
  have second := next?_source yields' rfl (front.trans h) ends'
  have after := (Prod.mk.inj (Option.some.inj (first.symm.trans second))).2
  have rests : rest = rest' := congrArg Scanner.rest after
  rw [rests] at h
  exact ⟨Piece.source_injective (List.append_cancel_right h), rests⟩

/-! ## 5. All steps -/

/-- No run of text stands next to another one. -/
def Apart (pieces : List Piece) : Prop := pieces.IsChain fun p q => ¬ (p.IsRun ∧ q.IsRun)

/-- The pieces spell the template by the rules of the grammar. -/
structure Decomposition (template : String) (pieces : List Piece) : Prop where
  source : pieces.flatMap Piece.source = template.toList
  apart : Apart pieces

/-- Pieces behind `offset` bytes read as these segments, one segment for each piece. -/
inductive Reads : Nat → List Piece → List Segment → Prop where
  | nil {offset : Nat} : Reads offset [] []
  | cons {offset : Nat} {p : Piece} {segment : Segment} {pieces : List Piece}
      {segments : List Segment} (front : p.Yields offset segment)
      (back : Reads (offset + (String.ofList p.source).utf8ByteSize) pieces segments) :
      Reads offset (p :: pieces) (segment :: segments)

/-- A piece ends where the next one begins, the last one where the text behind it lets it. -/
theorem Apart.ends {p : Piece} {pieces : List Piece} (apart : Apart (p :: pieces))
    {rest : List Char} (edge : pieces = [] → AtBrace rest) :
    p.Ends (pieces.flatMap Piece.source ++ rest) := by
  intro run
  cases pieces with
  | nil => exact edge rfl
  | cons q pieces =>
    obtain ⟨c, cs, head, plain⟩ := q.exists_head
    have brace : ¬ isBrace c = false := fun hc => (List.isChain_cons_cons.mp apart).1
      ⟨run, plain.mp hc⟩
    intro d hd
    rw [List.flatMap_cons, head] at hd
    cases hd
    simpa using brace

theorem Apart.cons {p : Piece} {pieces : List Piece} (apart : Apart pieces)
    (ends : p.Ends (pieces.flatMap Piece.source)) : Apart (p :: pieces) := by
  cases pieces with
  | nil => exact .singleton p
  | cons q pieces =>
    refine List.isChain_cons_cons.mpr ⟨fun ⟨runP, runQ⟩ => ?_, apart⟩
    obtain ⟨c, cs, head, plain⟩ := q.exists_head
    have brace : isBrace c = true := by
      refine ends runP c ?_
      rw [List.flatMap_cons, head]
      rfl
    rw [plain.mpr runQ] at brace
    cases brace

theorem rest_of_none {s : Scanner} (alive : s.failed = false) (h : s.next? = none) :
    s.rest = [] := by
  rw [Scanner.next?, alive] at h
  cases front : s.rest with
  | nil => rfl
  | cons c cs =>
    simp only [front, Bool.false_eq_true, if_false] at h
    split at h
    · split at h
      · cases h
      · split at h <;> cases h
    · cases h

theorem exists_reads (pieces : List Piece) (offset : Nat) :
    ∃ segments, Reads offset pieces segments := by
  induction pieces generalizing offset with
  | nil => exact ⟨[], .nil⟩
  | cons p pieces ih =>
    obtain ⟨segment, front⟩ := p.exists_yields offset
    obtain ⟨segments, back⟩ := ih (offset + (String.ofList p.source).utf8ByteSize)
    exact ⟨segment :: segments, .cons front back⟩

/-- **Pieces in front are read one after the other**, whatever begins with a brace behind them. -/
theorem items_pieces {s : Scanner} {pieces : List Piece} {segments : List Segment}
    {rest : List Char} (reads : Reads s.offset pieces segments) (alive : s.failed = false)
    (source : s.rest = pieces.flatMap Piece.source ++ rest) (apart : Apart pieces)
    (edge : AtBrace rest) :
    s.items = segments.map .ok ++ (s.advance (pieces.flatMap Piece.source) rest).items := by
  induction pieces generalizing s segments with
  | nil =>
    cases reads
    obtain rfl : rest = s.rest := source.symm
    rfl
  | cons p pieces ih =>
    cases reads with
    | cons front back =>
      rw [List.flatMap_cons, List.append_assoc] at source
      have step := next?_source front alive source (apart.ends fun _ => edge)
      rw [← byteLength_eq_utf8ByteSize] at back
      rw [Scanner.items_of_ok step, ih (s := s.advance p.source _) back alive rfl apart.tail,
        Scanner.advance_advance]
      rfl

/-- **A scanner reads pieces until it can read no more.** -/
theorem exists_pieces {s : Scanner} (alive : s.failed = false) :
    ∃ pieces rest, s.rest = pieces.flatMap Piece.source ++ rest ∧ Apart pieces ∧ AtBrace rest ∧
      ∀ segment s',
        (s.advance (pieces.flatMap Piece.source) rest).next? ≠ some (.ok segment, s') := by
  have stuck : ∀ s : Scanner, s.failed = false →
      (∀ segment s', s.next? ≠ some (.ok segment, s')) → AtBrace s.rest := by
    intro s alive stops c hc
    obtain ⟨cs, front⟩ := List.head?_eq_some_iff.mp hc
    by_contra plain
    obtain ⟨p, source, ends⟩ := exists_piece_of_plain cs (by simpa using plain)
    obtain ⟨_, yields⟩ := p.exists_yields s.offset
    exact stops _ _ (next?_source yields alive (front.trans source) ends)
  fun_induction Scanner.items s with
  | case1 s ending =>
    exact ⟨[], s.rest, rfl, .nil, stuck s alive (by simp [ending]), by
      simp [Scanner.advance, ending]⟩
  | case2 s e s' failing =>
    exact ⟨[], s.rest, rfl, .nil, stuck s alive (by simp [failing]), by
      simp [Scanner.advance, failing]⟩
  | case3 s segment s' step ih =>
    obtain ⟨_, p, source, ends⟩ := exists_piece_of_next? step
    obtain ⟨_, yields⟩ := p.exists_yields s.offset
    have step' := next?_source yields alive source ends
    have after : s' = s.advance p.source s'.rest :=
      (Prod.mk.inj (Option.some.inj (step.symm.trans step'))).2
    have alive' : s'.failed = false := by
      rw [after]
      exact alive
    obtain ⟨pieces, rest, spelt, apart, edge, stops⟩ := ih alive'
    refine ⟨p :: pieces, rest, ?_, apart.cons ?_, edge, ?_⟩
    · rw [List.flatMap_cons, List.append_assoc, ← spelt, source]
    · rw [spelt] at ends
      exact ends.left
    · rw [after, Scanner.advance_advance] at stops
      exact stops

/-- **A scanner without errors reads nothing but pieces.** -/
theorem exists_pieces_of_items {s : Scanner} (alive : s.failed = false)
    (clean : Scan.error? s.items = none) :
    ∃ pieces, pieces.flatMap Piece.source = s.rest ∧ Apart pieces := by
  obtain ⟨pieces, rest, source, apart, edge, stops⟩ := exists_pieces alive
  obtain ⟨segments, reads⟩ := exists_reads pieces s.offset
  rw [items_pieces reads alive source apart edge, Scan.error?_ok_append] at clean
  refine ⟨pieces, ?_, apart⟩
  rcases hx : (s.advance (pieces.flatMap Piece.source) rest).next? with _ | ⟨error | segment, s'⟩
  · obtain rfl : rest = [] := rest_of_none (s := s.advance _ rest) alive hx
    rw [source, List.append_nil]
  · rw [Scanner.items_of_error hx] at clean
    cases clean
  · exact absurd hx (stops segment s')

/-- **A text is made of pieces in one way only.** -/
theorem pieces_unique {pieces others : List Piece} (apart : Apart pieces) (apart' : Apart others)
    (h : pieces.flatMap Piece.source = others.flatMap Piece.source) : pieces = others := by
  induction pieces generalizing others with
  | nil =>
    cases others with
    | nil => rfl
    | cons q others =>
      obtain ⟨c, cs, head, _⟩ := q.exists_head
      rw [List.flatMap_cons, head] at h
      cases h
  | cons p pieces ih =>
    cases others with
    | nil =>
      obtain ⟨c, cs, head, _⟩ := p.exists_head
      rw [List.flatMap_cons, head] at h
      cases h
    | cons q others =>
      have ends := apart.ends fun _ => atBrace_nil
      have ends' := apart'.ends fun _ => atBrace_nil
      rw [List.append_nil] at ends ends'
      rw [List.flatMap_cons, List.flatMap_cons] at h
      obtain ⟨rfl, rests⟩ := piece_unique ends ends' h
      have same : pieces = others := ih apart.tail apart'.tail rests
      rw [same]

namespace Decomposition

variable {template : String} {pieces others : List Piece}

/-- **A template made of pieces reads as their segments.** -/
theorem scan_eq (made : Decomposition template pieces) :
    ∃ segments, Reads 0 pieces segments ∧ scan template = segments.map .ok := by
  have source : (Scanner.start template).rest = pieces.flatMap Piece.source ++ [] := by
    rw [List.append_nil, made.source]
    rfl
  obtain ⟨segments, reads⟩ := exists_reads pieces 0
  refine ⟨segments, reads, ?_⟩
  rw [scan, items_pieces reads rfl source made.apart atBrace_nil, Scanner.items_of_none rfl,
    List.append_nil]

theorem of_scan (clean : (scan template).error? = none) :
    ∃ pieces, Decomposition template pieces := by
  obtain ⟨pieces, source, apart⟩ := exists_pieces_of_items rfl clean
  exact ⟨pieces, source, apart⟩

theorem unique (made : Decomposition template pieces) (made' : Decomposition template others) :
    others = pieces :=
  pieces_unique made'.apart made.apart (made'.source.trans made.source.symm)

end Decomposition

/-- **Scanning accepts the grammar and nothing else.** A template scans without an error if and
only if it is made of pieces; they are then the only pieces it is made of, and the scan yields
the segment of each piece, in order. -/
theorem scan_reads_grammar (template : String) :
    ((scan template).error? = none ↔ ∃ pieces, Decomposition template pieces) ∧
      ∀ pieces, Decomposition template pieces →
        (∀ others, Decomposition template others → others = pieces) ∧
          ∃ segments, Reads 0 pieces segments ∧ scan template = segments.map .ok := by
  refine ⟨⟨Decomposition.of_scan, fun ⟨pieces, made⟩ => ?_⟩, fun pieces made => ?_⟩
  · obtain ⟨segments, -, items⟩ := made.scan_eq
    rw [items, Scan.error?_ok]
  · exact ⟨fun others made' => made.unique made', made.scan_eq⟩

end Stencil
