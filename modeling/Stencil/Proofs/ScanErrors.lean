import Stencil.Proofs.Concatenation

/-!
# Where reading stops

A text that is no row of pieces is read as far as its longest beginning that is one, and the error
is in what stands behind that.

* `Halts`: the ways in which a text begins that no piece does, each with its error;
* `halts_of_next?`, `next?_of_halts`: a step fails on just these texts, with this error;
* `Stands`: the source text of an item, which is what a step goes past;
* `next?_skip`: drawing items one by one gives the reading and then nothing;
* `scan_stops_behind_longest`: where and with which error the reading of any text outside the
  grammar stops.
-/

namespace Stencil

open Text

/-! ## 1. Texts that begin with no piece -/

/-- The text begins with a brace that is at fault when `offset` bytes stand before it, with the
error for it: a single closing brace, a single opening brace with which the counts of braces never
become equal again, or one with nothing but blanks up to the brace that closes it. -/
inductive Halts (offset : Nat) : List Char → ScanError → Prop where
  | stray {tail : List Char} (single : tail.head? ≠ some closeBrace) :
      Halts offset (closeBrace :: tail) (.strayCloseBrace offset)
  | unmatched {tail : List Char} (single : tail.head? ≠ some openBrace)
      (never : ∀ p, p <+: openBrace :: tail → p ≠ [] → p.count openBrace ≠ p.count closeBrace) :
      Halts offset (openBrace :: tail) (.unmatchedBrace offset)
  | empty {body tail : List Char} (blank : ∀ c ∈ body, isBlank c = true) :
      Halts offset (openBrace :: body ++ closeBrace :: tail) (.emptyPlaceholder offset)

theorem Halts.offset_eq {offset : Nat} {rest : List Char} {error : ScanError}
    (h : Halts offset rest error) : error.offset = offset := by
  cases h <;> rfl

/-- A span that does not end closes nowhere more than is open. -/
theorem count_le_of_splitSpan {depth : Nat} {cs p : List Char} (h : splitSpan depth cs = none)
    (hp : p <+: cs) : p.count closeBrace ≤ p.count openBrace + depth := by
  induction cs generalizing depth p with
  | nil =>
    rw [List.prefix_nil.mp hp]
    exact Nat.zero_le _
  | cons c cs ih =>
    rcases List.prefix_cons_iff.mp hp with rfl | ⟨q, rfl, hq⟩
    · exact Nat.zero_le _
    unfold splitSpan at h
    by_cases ho : c = openBrace
    · subst ho
      rw [if_pos rfl, Option.map_eq_none_iff] at h
      have := ih h hq
      rw [List.count_cons_self, List.count_cons_of_ne (by decide)]
      omega
    · rw [if_neg ho] at h
      by_cases hc : c = closeBrace
      · subst hc
        rw [if_pos rfl] at h
        cases depth with
        | zero => cases h
        | succ depth =>
          rw [Option.map_eq_none_iff] at h
          have := ih h hq
          rw [List.count_cons_self, List.count_cons_of_ne (by decide)]
          omega
      · rw [if_neg hc, Option.map_eq_none_iff] at h
        rw [List.count_cons_of_ne ho, List.count_cons_of_ne hc]
        exact ih h hq

/-- **A span never ends just when the counts of its braces never become equal.** -/
theorem splitSpan_eq_none_iff {tail : List Char} : splitSpan 0 tail = none ↔
    ∀ p, p <+: openBrace :: tail → p ≠ [] → p.count openBrace ≠ p.count closeBrace := by
  constructor
  · intro h p hp filled
    rcases List.prefix_cons_iff.mp hp with rfl | ⟨q, rfl, hq⟩
    · exact absurd rfl filled
    have := count_le_of_splitSpan h hq
    rw [List.count_cons_self, List.count_cons_of_ne (by decide)]
    omega
  · intro never
    by_contra closes
    obtain ⟨⟨body, rest⟩, split⟩ := Option.ne_none_iff_exists'.mp closes
    have balanced := (Closes.of_splitSpan split).closed
    refine never (openBrace :: body ++ [closeBrace]) ?_ (by simp) ?_
    · rw [eq_of_splitSpan split]
      exact ⟨rest, by simp⟩
    · have other : openBrace ≠ closeBrace := by decide
      simp [balanced, other, other.symm]

theorem balanced_of_blank {body : List Char} (blank : ∀ c ∈ body, isBlank c = true) :
    Balanced body := by
  induction body with
  | nil => exact closes_nil.mpr rfl
  | cons c body ih =>
    obtain ⟨hc, hb⟩ := List.forall_mem_cons.mp blank
    have ho : c ≠ openBrace := by rintro rfl; exact absurd hc (by decide)
    have hc : c ≠ closeBrace := by rintro rfl; exact absurd hc (by decide)
    exact (closes_plain ho hc).mpr (ih hb)

theorem ofBody?_eq_none_iff {offset : Nat} {body : List Char} :
    Placeholder.ofBody? offset body = none ↔ ∀ c ∈ body, isBlank c = true := by
  rw [← trim_eq_nil_iff]
  unfold Placeholder.ofBody?
  split <;> simp_all

/-! ## 2. Steps that fail -/

/-- The source text that an item stands for when `offset` bytes are in front of it. A segment stands
for the piece it was read from. The error about a blank span stands for that span, which is passed
by; the other errors stand for nothing, since the brace at fault is not passed by. -/
inductive Stands (offset : Nat) : Except ScanError Segment → List Char → Prop where
  | segment {p : Piece} {segment : Segment} (yields : p.Yields offset segment) :
      Stands offset (.ok segment) p.source
  | blank {body : List Char} (blank : ∀ c ∈ body, isBlank c = true) :
      Stands offset (.error (.emptyPlaceholder offset)) (openBrace :: body ++ [closeBrace])
  | stray : Stands offset (.error (.strayCloseBrace offset)) []
  | unmatched : Stands offset (.error (.unmatchedBrace offset)) []

/-- **A step that fails has met a brace at fault**, and no other step will yield anything. -/
theorem halts_of_next? {s s' : Scanner} {error : ScanError}
    (h : s.next? = some (.error error, s')) : Halts s.offset s.rest error ∧ s'.failed = true := by
  unfold Scanner.next? at h
  split at h
  · cases h
  split at h
  · cases h
  rename_i c cs front
  rw [front]
  by_cases brace : isBrace c = true
  · rw [if_pos brace] at h
    by_cases twice : cs.head? = some c
    · rw [if_pos twice] at h
      cases h
    rw [if_neg twice] at h
    by_cases hc : c = openBrace
    · subst hc
      rw [if_pos rfl] at h
      have h := Option.some.inj h
      unfold Scanner.span at h
      split at h
      · rename_i unclosed
        cases h
        exact ⟨.unmatched twice (splitSpan_eq_none_iff.mp unclosed), rfl⟩
      rename_i body rest closing
      split at h
      · rename_i blank
        cases h
        rw [eq_of_splitSpan closing]
        exact ⟨.empty (ofBody?_eq_none_iff.mp blank), rfl⟩
      · cases h
    · rw [if_neg hc] at h
      cases h
      obtain rfl : c = closeBrace := by simpa [isBrace, hc] using brace
      exact ⟨.stray twice, rfl⟩
  · rw [if_neg brace] at h
    cases h

/-- **A brace at fault makes a step fail**, with the error for it. The step goes past what the error
stands for. -/
theorem next?_of_halts {s : Scanner} {error : ScanError} (alive : s.failed = false)
    (h : Halts s.offset s.rest error) : ∃ text rest, Stands s.offset (.error error) text ∧
      s.rest = text ++ rest ∧ s.next? = some (.error error, (s.advance text rest).stop) := by
  generalize hr : s.rest = rest at h
  have opening : isBrace openBrace = true := rfl
  have closing : isBrace closeBrace = true := rfl
  have other : closeBrace ≠ openBrace := by decide
  have still : s.advance [] s.rest = s := rfl
  unfold Scanner.next?
  rw [alive, hr]
  cases h with
  | stray single =>
    simp only [Bool.false_eq_true, if_false, closing, if_true, single, other]
    refine ⟨[], _, .stray, rfl, ?_⟩
    rw [← hr, still]
  | unmatched single never =>
    simp only [Bool.false_eq_true, if_false, opening, if_true, single, Scanner.span,
      splitSpan_eq_none_iff.mpr never]
    refine ⟨[], _, .unmatched, rfl, ?_⟩
    rw [← hr, still]
  | @empty body tail blank =>
    have single : (body ++ closeBrace :: tail).head? ≠ some openBrace := by
      cases body with
      | nil => simp [closeBrace, openBrace]
      | cons c body =>
        intro hc
        cases hc
        exact absurd (blank _ List.mem_cons_self) (by decide)
    simp only [List.cons_append, Bool.false_eq_true, if_false, opening, if_true, single,
      Scanner.span, splitSpan_append (balanced_of_blank blank), ofBody?_eq_none_iff.mpr blank]
    exact ⟨_, tail, .blank blank, by simp, rfl⟩

/-- A text begins with one fault only. -/
theorem Halts.unique {offset : Nat} {rest : List Char} {error other : ScanError}
    (h : Halts offset rest error) (h' : Halts offset rest other) : other = error := by
  obtain ⟨_, _, _, _, first⟩ := next?_of_halts (s := ⟨rest, offset, false⟩) rfl h
  obtain ⟨_, _, _, _, second⟩ := next?_of_halts (s := ⟨rest, offset, false⟩) rfl h'
  rw [first] at second
  have items := (Prod.mk.inj (Option.some.inj second)).1
  exact (Except.error.inj items).symm

/-! ## 3. Drawing items -/

/-- **The items are what is drawn, one after the other**, and behind them nothing is. -/
theorem next?_skip (n : Nat) (s : Scanner) : (s.skip n).next?.map Prod.fst = s.items[n]? := by
  have stays : ∀ (n : Nat) (s : Scanner), s.next? = none → (s.skip n).next? = none := by
    intro n s ending
    cases n with
    | zero => exact ending
    | succ n => rw [Scanner.skip, ending]; exact ending
  induction n generalizing s with
  | zero =>
    rcases hx : s.next? with _ | ⟨error | segment, s'⟩
    · rw [Scanner.items_of_none hx, Scanner.skip, hx]
      rfl
    · rw [Scanner.items_of_error hx, Scanner.skip, hx]
      rfl
    · rw [Scanner.items_of_ok hx, Scanner.skip, hx]
      rfl
  | succ n ih =>
    rcases hx : s.next? with _ | ⟨error | segment, s'⟩
    · rw [Scanner.items_of_none hx, stays _ s hx]
      rfl
    · have failed := (halts_of_next? hx).2
      have ending : s'.next? = none := by rw [Scanner.next?, failed]; rfl
      rw [Scanner.items_of_error hx, Scanner.skip, hx]
      dsimp only
      rw [stays n s' ending]
      rfl
    · rw [Scanner.items_of_ok hx, Scanner.skip, hx]
      exact ih s'

/-! ## 4. The longest beginning in the grammar -/

/-- The error stands behind every beginning of the template that is in the grammar. -/
theorem byteSize_le_of_error? {front rest : String} {pieces : List Piece} {error : ScanError}
    (made : Decomposition front pieces) (h : (scan (front ++ rest)).error? = some error) :
    front.utf8ByteSize ≤ error.offset := by
  obtain ⟨segments, -, items⟩ := made.scan_eq
  have joined := scan_append (by rw [items, Scan.error?_ok]) rest
  rw [items] at joined
  rw [joined.error?, Scan.error?_shift] at h
  obtain ⟨later, -, rfl⟩ := Option.map_eq_some_iff.mp h
  rw [ScanError.offset_shift]
  exact Nat.le_add_left ..

/-- Of two beginnings of a text the one with fewer bytes is a beginning of the other. -/
theorem prefix_of_byteLength_le {cs ds whole : List Char} (hc : cs <+: whole) (hd : ds <+: whole)
    (shorter : byteLength cs ≤ byteLength ds) : cs <+: ds := by
  rcases List.prefix_or_prefix_of_prefix hc hd with h | ⟨more, rfl⟩
  · exact h
  · rw [byteLength_append] at shorter
    have nothing : more = [] := byteLength_eq_zero.mp (by omega)
    exact ⟨[], by simp [nothing]⟩

/-- **The beginning in front of the error is the longest in the grammar.** -/
theorem prefix_of_error? {template front other : String} {others : List Piece} {error : ScanError}
    (failed : (scan template).error? = some error) (begins : front.toList <+: template.toList)
    (behind : error.offset = front.utf8ByteSize) (made : Decomposition other others)
    (begins' : other.toList <+: template.toList) : other.toList <+: front.toList := by
  obtain ⟨more, whole⟩ := begins'
  have split : template = other ++ String.ofList more := by
    rw [← String.toList_inj, ← whole, String.toList_append, String.toList_ofList]
  rw [split] at failed
  refine prefix_of_byteLength_le ⟨more, whole⟩ begins ?_
  rw [byteLength_eq_utf8ByteSize, byteLength_eq_utf8ByteSize, String.ofList_toList,
    String.ofList_toList, ← behind]
  exact byteSize_le_of_error? made failed

/-- **Reading stops behind the longest beginning that is in the grammar.** A template outside the
grammar has such a beginning, `front`; reading yields the segments of its pieces, then one error,
and then nothing, however often it is asked. The error stands behind the bytes of `front`, and it is
the only one that the text behind `front` begins with. -/
theorem scan_stops_behind_longest (template : String)
    (outside : ¬ ∃ pieces, Decomposition template pieces) :
    ∃ (front rest : String) (pieces : List Piece) (segments : List Segment) (error : ScanError),
      template = front ++ rest ∧ Decomposition front pieces ∧
      (∀ (other : String) (others : List Piece), Decomposition other others →
        other.toList <+: template.toList → other.toList <+: front.toList) ∧
      Reads 0 pieces segments ∧ error.offset = front.utf8ByteSize ∧
      (∀ other, Halts front.utf8ByteSize rest.toList other ↔ other = error) ∧
      ∀ n, ((Scanner.start template).skip n).next?.map Prod.fst =
        (segments.map .ok ++ [.error error])[n]? := by
  obtain ⟨pieces, rest, source, apart, edge, stops⟩ := exists_pieces (s := .start template) rfl
  obtain ⟨segments, reads⟩ := exists_reads pieces 0
  have items := items_pieces reads rfl source apart edge
  generalize hf : String.ofList (pieces.flatMap Piece.source) = front
  have spelt : front.toList = pieces.flatMap Piece.source := by rw [← hf, String.toList_ofList]
  have made : Decomposition front pieces := ⟨spelt.symm, apart⟩
  have whole : template = front ++ String.ofList rest := by
    rw [← String.toList_inj, String.toList_append, String.toList_ofList, spelt]
    exact source
  have behind : (Scanner.start template).advance (pieces.flatMap Piece.source) rest =
      ⟨rest, front.utf8ByteSize, false⟩ := by
    rw [← hf, ← byteLength_eq_utf8ByteSize]
    simp [Scanner.advance, Scanner.start]
  rw [behind] at items stops
  rcases hx : (⟨rest, front.utf8ByteSize, false⟩ : Scanner).next? with _ | ⟨error | segment, s'⟩
  · -- nothing is left, so the template is the beginning itself
    obtain rfl : rest = [] := rest_of_none rfl hx
    refine absurd ⟨pieces, ?_⟩ outside
    rw [whole]
    simpa using made
  · have halts : Halts front.utf8ByteSize rest error := (halts_of_next? hx).1
    have read : scan template = segments.map .ok ++ [.error error] := by
      rw [scan, items, Scanner.items_of_error hx]
    have failed : (scan template).error? = some error := by
      rw [read, Scan.error?_ok_append]
      rfl
    have begins : front.toList <+: template.toList := ⟨rest, by rw [spelt]; exact source.symm⟩
    refine ⟨front, .ofList rest, pieces, segments, error, whole, made, ?_, reads,
      halts.offset_eq, ?_, ?_⟩
    · intro other others made' begins'
      exact prefix_of_error? failed begins halts.offset_eq made' begins'
    · rw [String.toList_ofList]
      exact fun other => ⟨halts.unique, by rintro rfl; exact halts⟩
    · intro n
      rw [next?_skip, ← read]
      rfl
  · exact absurd hx (stops segment s')

/-- Behind a doubled brace a span is opened and never closed, though the one inside it is. -/
def unclosedTemplate : String := "é\x7b\x7ba\x7bb{c}"

/-- The texts in front of that span. -/
def unclosedTexts : List Segment := [.literal "é", .literal "\x7b", .literal "a"]

theorem scan_unclosedTemplate :
    scan unclosedTemplate = unclosedTexts.map .ok ++ [.error (.unmatchedBrace 5)] := by
  have first : (Scanner.start unclosedTemplate).next? =
      some (.ok (.literal "é"), ⟨"\x7b\x7ba\x7bb{c}".toList, 2, false⟩) := rfl
  have second : (⟨"\x7b\x7ba\x7bb{c}".toList, 2, false⟩ : Scanner).next? =
      some (.ok (.literal "\x7b"), ⟨"a\x7bb{c}".toList, 4, false⟩) := rfl
  have third : (⟨"a\x7bb{c}".toList, 4, false⟩ : Scanner).next? =
      some (.ok (.literal "a"), ⟨"\x7bb{c}".toList, 5, false⟩) := rfl
  have fourth : (⟨"\x7bb{c}".toList, 5, false⟩ : Scanner).next? =
      some (.error (.unmatchedBrace 5), ⟨"\x7bb{c}".toList, 5, true⟩) := rfl
  rw [scan, Scanner.items_of_ok first, Scanner.items_of_ok second, Scanner.items_of_ok third,
    Scanner.items_of_error fourth]
  rfl

theorem scan_stops_behind_longest_unclosed :
    (¬ ∃ pieces, Decomposition unclosedTemplate pieces) ∧
    ∃ (front rest : String) (pieces : List Piece) (segments : List Segment) (error : ScanError),
      unclosedTemplate = front ++ rest ∧ Decomposition front pieces ∧ Reads 0 pieces segments ∧
      segments = unclosedTexts ∧ error = .unmatchedBrace 5 ∧ front.utf8ByteSize = 5 := by
  have outside : ¬ ∃ pieces, Decomposition unclosedTemplate pieces := by
    rintro ⟨pieces, made⟩
    obtain ⟨segments, -, items⟩ := made.scan_eq
    have clean := Scan.error?_ok segments
    rw [← items, scan_unclosedTemplate, Scan.error?_ok_append] at clean
    cases clean
  obtain ⟨front, rest, pieces, segments, error, whole, made, -, reads, behind, -, drawn⟩ :=
    scan_stops_behind_longest unclosedTemplate outside
  have items : scan unclosedTemplate = segments.map .ok ++ [.error error] := by
    refine List.ext_getElem? fun n => ?_
    rw [← drawn n, next?_skip]
    rfl
  rw [scan_unclosedTemplate] at items
  obtain ⟨texts, last⟩ := List.append_inj' items rfl
  have texts := List.map_injective_iff.mpr (fun _ _ => Except.ok.inj) texts
  cases last
  exact ⟨outside, front, rest, pieces, segments, _, whole, made, reads, texts.symm, rfl,
    behind.symm⟩

end Stencil
