import Stencil.Proofs.ByteReading

/-!
# Positions while a template is read

Reading takes a template in from the front, without a gap and without reading anything twice.

* `exists_text_of_next?`: a step goes past the source text of its item, and no further;
* `exists_tiles`: any number of steps go past source texts that stand one behind the other;
* `length_items_le`: there are at most as many items as bytes;
* `Scanner.On.draws`: drawing by bytes gives the items of the scanner, without a misstep;
* `count_le_of_closing`, `Scanner.On.placed`: the depth does not go below zero, and the cursor and
  the braces of the span at it stand between characters;
* `draws_tile`: all of it, for any number of draws from any template.
-/

namespace Stencil

open Text

/-! ## 1. Bytes of a text -/

theorem byteLength_toList (text : String) : byteLength text.toList = text.utf8ByteSize := by
  rw [byteLength_eq_utf8ByteSize, String.ofList_toList]

theorem byteLength_pos {cs : List Char} (h : cs ≠ []) : 0 < byteLength cs :=
  Nat.pos_of_ne_zero fun none => h (byteLength_eq_zero.mp none)

/-! ## 2. One step -/

/-- A segment has source text. -/
theorem Stands.ne_nil {offset : Nat} {segment : Segment} {text : List Char}
    (h : Stands offset (.ok segment) text) : text ≠ [] := by
  cases h with
  | @segment p =>
    obtain ⟨c, cs, source, -⟩ := p.exists_head
    rw [source]
    exact List.cons_ne_nil c cs

theorem alive_of_next? {s : Scanner} {step : Except ScanError Segment × Scanner}
    (h : s.next? = some step) : s.failed = false := by
  cases failed : s.failed with
  | false => rfl
  | true =>
    rw [Scanner.next?, failed] at h
    cases h

theorem rest_ne_nil_of_next? {s : Scanner} {step : Except ScanError Segment × Scanner}
    (h : s.next? = some step) : s.rest ≠ [] := by
  intro empty
  rw [Scanner.next?, empty] at h
  split at h <;> cases h

theorem exists_text_of_segment {s s' : Scanner} {segment : Segment}
    (h : s.next? = some (.ok segment, s')) : ∃ text, Stands s.offset (.ok segment) text ∧
      s.rest = text ++ s'.rest ∧ s'.offset = s.offset + byteLength text := by
  obtain ⟨alive, p, source, ends⟩ := exists_piece_of_next? h
  obtain ⟨_, yields⟩ := p.exists_yields s.offset
  have step := next?_source yields alive source ends
  rw [h] at step
  obtain ⟨item, after⟩ := Prod.mk.inj (Option.some.inj step)
  cases item
  exact ⟨p.source, .segment yields, source, congrArg Scanner.offset after⟩

theorem exists_text_of_error {s s' : Scanner} {error : ScanError}
    (h : s.next? = some (.error error, s')) : ∃ text, Stands s.offset (.error error) text ∧
      s.rest = text ++ s'.rest ∧ s'.offset = s.offset + byteLength text := by
  obtain ⟨text, rest, stands, front, step⟩ :=
    next?_of_halts (alive_of_next? h) (halts_of_next? h).1
  rw [h] at step
  obtain rfl := (Prod.mk.inj (Option.some.inj step)).2
  exact ⟨text, stands, front, rfl⟩

/-- **A step goes past the source text of its item**, and stands right behind it. -/
theorem exists_text_of_next? {s s' : Scanner} {item : Except ScanError Segment}
    (h : s.next? = some (item, s')) : ∃ text, Stands s.offset item text ∧
      s.rest = text ++ s'.rest ∧ s'.offset = s.offset + byteLength text := by
  cases item with
  | ok segment => exact exists_text_of_segment h
  | error error => exact exists_text_of_error h

theorem items_of_next? {s s' : Scanner} {item : Except ScanError Segment}
    (h : s.next? = some (item, s')) : s.items = item :: s'.items := by
  cases item with
  | ok segment => exact Scanner.items_of_ok h
  | error error =>
    have failed := (halts_of_next? h).2
    have ended : s'.next? = none := by rw [Scanner.next?, failed]; rfl
    rw [Scanner.items_of_error h, Scanner.items_of_none ended]

theorem skip_of_next? {s s' : Scanner} {item : Except ScanError Segment}
    (h : s.next? = some (item, s')) (n : Nat) : s.skip (n + 1) = s'.skip n := by
  rw [Scanner.skip, h]

theorem skip_of_none {s : Scanner} (h : s.next? = none) (n : Nat) : s.skip n = s := by
  cases n with
  | zero => rfl
  | succ n => rw [Scanner.skip, h]

/-! ## 3. Any number of steps -/

/-- The source texts of items, one right behind the other from `offset` bytes on. -/
inductive Tiles : Nat → List (Except ScanError Segment) → List (List Char) → Prop where
  | nil {offset : Nat} : Tiles offset [] []
  | cons {offset : Nat} {item : Except ScanError Segment} {text : List Char}
      {items : List (Except ScanError Segment)} {texts : List (List Char)}
      (front : Stands offset item text) (back : Tiles (offset + byteLength text) items texts) :
      Tiles offset (item :: items) (text :: texts)

/-- **Steps go past the source texts of their items**, and stand right behind the last one. -/
theorem exists_tiles (n : Nat) (s : Scanner) : ∃ texts, Tiles s.offset (s.items.take n) texts ∧
    s.rest = texts.flatten ++ (s.skip n).rest ∧
    (s.skip n).offset = s.offset + byteLength texts.flatten := by
  induction n generalizing s with
  | zero => exact ⟨[], .nil, rfl, rfl⟩
  | succ n ih =>
    rcases hx : s.next? with _ | ⟨item, s'⟩
    · rw [Scanner.items_of_none hx, skip_of_none hx]
      exact ⟨[], .nil, rfl, rfl⟩
    · obtain ⟨text, stands, front, behind⟩ := exists_text_of_next? hx
      obtain ⟨texts, tiles, rest, offset⟩ := ih s'
      rw [items_of_next? hx, skip_of_next? hx]
      refine ⟨text :: texts, .cons stands (behind ▸ tiles), ?_, ?_⟩
      · rw [front, rest, List.flatten_cons, List.append_assoc]
      · rw [offset, behind, List.flatten_cons, byteLength_append, Nat.add_assoc]

/-- **There are at most as many items as bytes.** -/
theorem length_items_le (s : Scanner) : s.items.length ≤ byteLength s.rest := by
  fun_induction Scanner.items s with
  | case1 s ending => exact Nat.zero_le _
  | case2 s error s' failing => exact byteLength_pos (rest_ne_nil_of_next? failing)
  | case3 s segment s' step ih =>
    obtain ⟨text, stands, front, -⟩ := exists_text_of_next? step
    have := byteLength_pos stands.ne_nil
    rw [front, byteLength_append, List.length_cons]
    omega

/-! ## 4. Draws by bytes -/

namespace Scanner.On

variable {template : String} {s s' : Scanner}

theorem of_next? (on : s.On template) {item : Except ScanError Segment}
    (h : s.next? = some (item, s')) : s'.On template := by
  obtain ⟨text, -, front, offset⟩ := exists_text_of_next? h
  exact on.behind front offset

theorem skip (on : s.On template) (n : Nat) : (s.skip n).On template := by
  induction n generalizing s with
  | zero => exact on
  | succ n ih =>
    rcases hx : s.next? with _ | ⟨item, s'⟩
    · rw [skip_of_none hx]
      exact on
    · rw [skip_of_next? hx]
      exact ih (on.of_next? hx)

/-- **Drawing by bytes gives the items of the scanner.** -/
theorem draws (on : s.On template) (n : Nat) : (s.cursor template).draws n =
    .ok (s.items.take n, (s.skip n).cursor template) := by
  induction n generalizing s with
  | zero => rfl
  | succ n ih =>
    rw [Cursor.draws, on.next]
    rcases hx : s.next? with _ | ⟨item, s'⟩
    · rw [items_of_none hx, skip_of_none hx]
      rfl
    · have later := ih (on.of_next? hx)
      rw [items_of_next? hx, skip_of_next? hx]
      simp only [Option.map_some, asDraw, bind, Except.bind, later]
      rfl

end Scanner.On

/-- The error about a blank span leaves the cursor behind that span. -/
example : (Cursor.start "é\x7b \x7d").draws 3 =
    .ok ([.ok (.literal "é"), .error (.emptyPlaceholder 2)], ⟨"é\x7b \x7d", 5, true⟩) := by
  decide +kernel

/-! ## 5. Where a cursor may stand -/

/-- The positions of a cursor are inside its template and between characters: its own, and, when it
stands at an opening brace, those that the body of the span is cut out at. As far as the closing
brace is looked for, no more spans are closed than were opened. -/
structure Cursor.Placed (c : Cursor) : Prop where
  le : c.pos ≤ c.template.utf8ByteSize
  onBoundary : OnBoundary c.template c.pos
  body (opening : c.ahead.head? = some openByte) {close : Nat}
    (closes : c.close? = .ok (some close)) :
    c.pos < close ∧ close < c.template.utf8ByteSize ∧ OnBoundary c.template (c.pos + 1) ∧
      OnBoundary c.template close
  depth (opening : c.ahead.head? = some openByte) {count : Nat}
    (far : ∀ close, c.close? = .ok (some close) → c.pos + count ≤ close + 1) :
    (c.ahead.take count).count closeByte ≤ (c.ahead.take count).count openByte

/-- **The depth never goes below zero**, as far as the closing brace is looked for. -/
theorem count_le_of_closing {bs : List UInt8} {depth position count : Nat} {found : Option Nat}
    (h : closing (depth + 1) position bs = .ok found)
    (far : ∀ close, found = some close → position + count ≤ close + 1) :
    (bs.take count).count closeByte ≤ (bs.take count).count openByte + (depth + 1) := by
  have other : openByte ≠ closeByte := by decide
  induction bs generalizing depth position count with
  | nil => simp
  | cons b bs ih =>
    cases count with
    | zero => exact Nat.zero_le _
    | succ count =>
      have onward (close : Nat) (hc : found = some close) : position + 1 + count ≤ close + 1 := by
        have := far close hc
        omega
      rw [List.take_succ_cons]
      by_cases ho : b = openByte
      · subst ho
        have := ih (closing_openByte .. ▸ h) onward
        rw [List.count_cons_self, List.count_cons_of_ne other]
        omega
      by_cases hc : b = closeByte
      · subst hc
        rw [List.count_cons_self, List.count_cons_of_ne other.symm]
        cases depth with
        | zero =>
          rw [closing_last] at h
          cases h
          obtain rfl : count = 0 := by
            have := onward position rfl
            omega
          exact Nat.le_refl 1
        | succ depth =>
          have := ih (closing_closeByte .. ▸ h) onward
          omega
      · have plain : isBraceByte b = false := by simp [isBraceByte, ho, hc]
        rw [List.count_cons_of_ne ho, List.count_cons_of_ne hc]
        exact ih (closing_other _ _ _ plain ▸ h) onward

namespace Scanner.On

variable {template : String} {s : Scanner}

theorem offset_le (on : s.On template) : s.offset ≤ template.utf8ByteSize := by
  obtain ⟨read, whole, offset⟩ := on
  rw [← byteLength_toList, whole, byteLength_append, offset]
  exact Nat.le_add_right ..

theorem exists_tail (on : s.On template)
    (opening : (s.cursor template).ahead.head? = some openByte) :
    ∃ tail, s.rest = openBrace :: tail := by
  rw [on.ahead, head?_encode_iff .opening] at opening
  exact List.head?_eq_some_iff.mp opening

theorem placed (on : s.On template) : (s.cursor template).Placed where
  le := on.offset_le
  onBoundary := on.onBoundary
  body opening close closes := by
    obtain ⟨tail, front⟩ := on.exists_tail opening
    rw [on.close? front, Except.ok.injEq, Option.map_eq_some_iff] at closes
    obtain ⟨⟨body, rest⟩, split, rfl⟩ := closes
    have behindOpen : (s.advance [openBrace] tail).On template := on.advance front
    have atClose : ((s.advance [openBrace] tail).advance body (closeBrace :: rest)).On template :=
      behindOpen.advance (eq_of_splitSpan split)
    have brace : closeBrace :: rest = [closeBrace] ++ rest := rfl
    have inside : s.offset + 1 + byteLength body + 1 ≤ template.utf8ByteSize :=
      (atClose.advance brace).offset_le
    refine ⟨?_, inside, behindOpen.onBoundary, atClose.onBoundary⟩
    change s.offset < s.offset + 1 + byteLength body
    omega
  depth opening count far := by
    obtain ⟨tail, front⟩ := on.exists_tail opening
    obtain ⟨bytes, ahead⟩ := List.head?_eq_some_iff.mp opening
    have closes := on.close? front
    cases count with
    | zero => exact Nat.le_refl 0
    | succ count =>
      have onward (close : Nat) (found : (splitSpan 0 tail).map
          (fun parts => s.offset + 1 + byteLength parts.1) = some close) :
          s.offset + 1 + count ≤ close + 1 := by
        have : s.offset + (count + 1) ≤ close + 1 := far close (by rw [closes, found])
        omega
      rw [Cursor.close?, ahead, List.tail_cons] at closes
      rw [ahead, List.take_succ_cons, List.count_cons_self, List.count_cons_of_ne (by decide)]
      exact count_le_of_closing closes onward

end Scanner.On

/-! ## 6. Tiling -/

/-- **Draws tile their template.** However many items are drawn, no cut is off a boundary and no
depth below zero. The items are the first ones of the scan, and their source texts, put together,
are the template up to the cursor, which stands inside the template and between characters. There
are at most as many items as bytes, and none is left after as many draws. The next draw goes past
the source text of its item and no further: at least one byte for a segment. Besides the segments
only the error about a blank span, which ends the scan behind that span, has source text. -/
theorem draws_tile (template : String) (n : Nat) :
    ∃ (items : List (Except ScanError Segment)) (c : Cursor) (texts : List (List Char)),
      (Cursor.start template).draws n = .ok (items, c) ∧
      items = (scan template).take n ∧ c = ((Scanner.start template).skip n).cursor template ∧
      c.Placed ∧
      Tiles 0 items texts ∧ slice template 0 c.pos = .ok (.ofList texts.flatten) ∧
      items.length ≤ template.utf8ByteSize ∧
      ∃ drawn, c.next = .ok drawn ∧ (template.utf8ByteSize ≤ n → drawn = none) ∧
        ∀ item after, drawn = some (item, after) → ∃ text, Stands c.pos item text ∧
          slice template c.pos after.pos = .ok (.ofList text) ∧
          ∀ segment, item = .ok segment → c.pos < after.pos := by
  have on : (Scanner.start template).On template := .start template
  have here := on.skip n
  obtain ⟨texts, tiles, front, behind⟩ := exists_tiles n (.start template)
  have few : (scan template).length ≤ template.utf8ByteSize := by
    rw [← byteLength_toList]
    exact length_items_le (.start template)
  refine ⟨_, _, texts, on.draws n, rfl, rfl, here.placed, tiles, ?_, ?_, _, here.next, ?_, ?_⟩
  · rw [Scanner.cursor, behind]
    exact on.slice front
  · exact (List.length_take_le' ..).trans few
  · intro enough
    have drawn := next?_skip n (.start template)
    have past : (Scanner.start template).items[n]? = none :=
      List.getElem?_eq_none (few.trans enough)
    rw [past, Option.map_eq_none_iff] at drawn
    rw [drawn]
    rfl
  · intro item after drawn
    obtain ⟨⟨item', s'⟩, step, same⟩ := Option.map_eq_some_iff.mp drawn
    cases same
    obtain ⟨text, stands, ahead, behind⟩ := exists_text_of_next? step
    refine ⟨text, stands, ?_, ?_⟩
    · rw [Scanner.cursor, Scanner.cursor, behind]
      exact here.slice ahead
    · rintro segment rfl
      have := byteLength_pos stands.ne_nil
      change (Scanner.skip n (.start template)).offset < s'.offset
      omega

end Stencil
