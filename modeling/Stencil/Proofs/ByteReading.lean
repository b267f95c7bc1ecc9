import Stencil.Template.Cursor
import Stencil.Proofs.ScanErrors

/-!
# Bytes and characters give one reading

A cursor looks at bytes and a scanner at characters. They see the same braces: in UTF-8 the byte of
a brace stands for that brace and is never part of another character.

* `mem_utf8EncodeChar`: the bytes of the other characters are no braces;
* `findIdx_encode`, `closing_encode`: so a search among bytes finds what a search among characters
  does, as many bytes away as the characters in front of it take;
* `slice_eq`: a text can be cut between its characters;
* `Scanner.On.next`: one draw of a cursor is one step of the scanner that stands where it does, and
  no misstep.
-/

namespace Stencil

open Text

/-! ## 1. Characters as bytes -/

/-- The bytes of characters in UTF-8. -/
def encode (cs : List Char) : List UInt8 := cs.flatMap String.utf8EncodeChar

@[simp] theorem encode_nil : encode [] = [] := rfl

@[simp] theorem encode_cons (c : Char) (cs : List Char) :
    encode (c :: cs) = String.utf8EncodeChar c ++ encode cs := rfl

@[simp] theorem encode_append (as bs : List Char) : encode (as ++ bs) = encode as ++ encode bs :=
  List.flatMap_append

@[simp] theorem length_encode (cs : List Char) : (encode cs).length = byteLength cs := by
  induction cs with
  | nil => rfl
  | cons c cs ih =>
    rw [encode_cons, List.length_append, String.length_utf8EncodeChar, ih, byteLength_cons]

theorem utf8_eq_encode (text : String) : utf8 text = encode text.toList := by
  conv_lhs => rw [← String.ofList_toList (s := text)]
  rw [utf8, String.toByteArray_ofList, List.utf8Encode, List.data_toByteArray]
  rfl

/-- A brace and its byte. -/
inductive BraceUnit : Char → UInt8 → Prop where
  | opening : BraceUnit openBrace openByte
  | closing : BraceUnit closeBrace closeByte

theorem exists_braceUnit {c : Char} (brace : isBrace c = true) : ∃ b, BraceUnit c b := by
  rcases (by simpa [isBrace] using brace : c = openBrace ∨ c = closeBrace) with rfl | rfl
  · exact ⟨_, .opening⟩
  · exact ⟨_, .closing⟩

namespace BraceUnit

variable {c : Char} {b : UInt8}

theorem isBrace (h : BraceUnit c b) : isBrace c = true := by cases h <;> rfl

theorem isBraceByte (h : BraceUnit c b) : isBraceByte b = true := by cases h <;> rfl

theorem utf8EncodeChar (h : BraceUnit c b) : String.utf8EncodeChar c = [b] := by cases h <;> rfl

theorem utf8Size (h : BraceUnit c b) : c.utf8Size = 1 := by cases h <;> rfl

end BraceUnit

theorem isBraceByte_ofNat {n : Nat} (h : n < 0x100) (ho : n ≠ 0x7B) (hc : n ≠ 0x7D) :
    isBraceByte (UInt8.ofNat n) = false := by
  have value : (UInt8.ofNat n).toNat = n := UInt8.toNat_ofNat_of_lt' h
  have notOpen : UInt8.ofNat n ≠ openByte :=
    fun e => ho (value.symm.trans (congrArg UInt8.toNat e))
  have notClose : UInt8.ofNat n ≠ closeByte :=
    fun e => hc (value.symm.trans (congrArg UInt8.toNat e))
  rw [isBraceByte, beq_false_of_ne notOpen, beq_false_of_ne notClose]
  rfl

/-- **No byte of another character is a brace.** -/
theorem mem_utf8EncodeChar {c : Char} (plain : isBrace c = false) {b : UInt8}
    (hb : b ∈ String.utf8EncodeChar c) : isBraceByte b = false := by
  have notOpen : c.val.toNat ≠ 0x7B := by
    intro h
    obtain rfl : c = openBrace := Char.ext (UInt32.toNat_inj.mp h)
    cases plain
  have notClose : c.val.toNat ≠ 0x7D := by
    intro h
    obtain rfl : c = closeBrace := Char.ext (UInt32.toNat_inj.mp h)
    cases plain
  unfold String.utf8EncodeChar at hb
  dsimp only at hb
  split at hb
  · obtain rfl := List.mem_singleton.mp hb
    exact isBraceByte_ofNat (by omega) notOpen notClose
  -- in the longer forms every byte is 0x80 at least
  split at hb
  · simp only [List.mem_cons, List.not_mem_nil, or_false] at hb
    rcases hb with rfl | rfl <;> exact isBraceByte_ofNat (by omega) (by omega) (by omega)
  split at hb
  · simp only [List.mem_cons, List.not_mem_nil, or_false] at hb
    rcases hb with rfl | rfl | rfl <;> exact isBraceByte_ofNat (by omega) (by omega) (by omega)
  · simp only [List.mem_cons, List.not_mem_nil, or_false] at hb
    rcases hb with rfl | rfl | rfl | rfl <;>
      exact isBraceByte_ofNat (by omega) (by omega) (by omega)

/-- A character begins with a byte, which is no brace unless the character is one. -/
theorem exists_head_byte {c : Char} (plain : isBrace c = false) :
    ∃ b bs, String.utf8EncodeChar c = b :: bs ∧ isBraceByte b = false := by
  obtain ⟨b, bs, form⟩ := List.exists_cons_of_ne_nil (String.utf8EncodeChar_ne_nil (c := c))
  exact ⟨b, bs, form, mem_utf8EncodeChar plain (form ▸ List.mem_cons_self)⟩

/-! ## 2. Searches -/

/-- A text begins with a brace just when its bytes begin with the byte of the brace. -/
theorem head?_encode_iff {c : Char} {b : UInt8} (unit : BraceUnit c b) {cs : List Char} :
    (encode cs).head? = some b ↔ cs.head? = some c := by
  cases cs with
  | nil => simp
  | cons d cs =>
    cases brace : isBrace d with
    | true =>
      obtain ⟨b', unit'⟩ := exists_braceUnit brace
      rw [encode_cons, unit'.utf8EncodeChar, List.singleton_append, List.head?_cons,
        List.head?_cons, Option.some.injEq, Option.some.injEq]
      cases unit <;> cases unit' <;> decide
    | false =>
      obtain ⟨b', bs, form, plain⟩ := exists_head_byte brace
      rw [encode_cons, form]
      constructor
      · intro h
        cases h
        exact absurd unit.isBraceByte (by rw [plain]; nofun)
      · intro h
        cases h
        exact absurd unit.isBrace (by rw [brace]; nofun)

/-- **The first brace among the bytes** stands behind the bytes of the characters before it. -/
theorem findIdx_encode (cs : List Char) :
    (encode cs).findIdx isBraceByte = byteLength (cs.takeWhile (!isBrace ·)) := by
  induction cs with
  | nil => rfl
  | cons c cs ih =>
    rw [encode_cons]
    cases brace : isBrace c with
    | true =>
      obtain ⟨b, unit⟩ := exists_braceUnit brace
      rw [unit.utf8EncodeChar, List.singleton_append, List.findIdx_cons, unit.isBraceByte,
        List.takeWhile_cons_of_neg (by simp [brace])]
      rfl
    | false =>
      have none : (String.utf8EncodeChar c).findIdx isBraceByte =
          (String.utf8EncodeChar c).length :=
        List.findIdx_eq_length.mpr fun b hb => mem_utf8EncodeChar brace hb
      rw [List.findIdx_append, none, if_neg (Nat.lt_irrefl _), ih, String.length_utf8EncodeChar,
        List.takeWhile_cons_of_pos (by simp [brace]), byteLength_cons, Nat.add_comm]

/-- Bytes that are no braces are passed by. -/
theorem closing_append {bs : List UInt8} (plain : ∀ b ∈ bs, isBraceByte b = false)
    (depth position : Nat) (more : List UInt8) :
    closing depth position (bs ++ more) = closing depth (position + bs.length) more := by
  induction bs generalizing position with
  | nil => rfl
  | cons b bs ih =>
    obtain ⟨hb, hbs⟩ := List.forall_mem_cons.mp plain
    rw [List.cons_append, closing_other _ _ _ hb, ih hbs, List.length_cons, Nat.add_assoc,
      Nat.add_comm 1]

/-- **The closing brace among the bytes** is the one that closes the span among the characters. The
depth stays above zero up to it. -/
theorem closing_encode (cs : List Char) (depth position : Nat) :
    closing (depth + 1) position (encode cs) =
      .ok ((splitSpan depth cs).map fun parts => position + byteLength parts.1) := by
  induction cs generalizing depth position with
  | nil => exact closing_nil ..
  | cons c cs ih =>
    have further (d : Nat) : ((splitSpan d cs).map fun parts => (c :: parts.1, parts.2)).map
        (fun parts => position + byteLength parts.1) =
          (splitSpan d cs).map fun parts => position + c.utf8Size + byteLength parts.1 := by
      rw [Option.map_map]
      congr 1
      funext parts
      exact (Nat.add_assoc ..).symm
    unfold splitSpan
    rw [encode_cons]
    by_cases ho : c = openBrace
    · subst ho
      rw [if_pos rfl, further, BraceUnit.opening.utf8EncodeChar, List.singleton_append,
        closing_openByte, ih]
      rfl
    rw [if_neg ho]
    by_cases hc : c = closeBrace
    · subst hc
      rw [if_pos rfl, BraceUnit.closing.utf8EncodeChar, List.singleton_append]
      cases depth with
      | zero => exact closing_last ..
      | succ depth =>
        dsimp only
        rw [further, closing_closeByte, ih]
        rfl
    · have plain : isBrace c = false := by simp [isBrace, ho, hc]
      rw [if_neg hc, further, closing_append fun b hb => mem_utf8EncodeChar plain hb, ih,
        String.length_utf8EncodeChar]

/-! ## 3. Cuts -/

theorem onBoundary_of_append {template : String} {front back : List Char}
    (h : template.toList = front ++ back) : OnBoundary template (byteLength front) := by
  refine String.Pos.Raw.isValid_iff_exists_append.mpr ⟨.ofList front, .ofList back, ?_, ?_⟩
  · rw [← String.toList_inj, h, String.toList_append, String.toList_ofList, String.toList_ofList]
  · rw [byteLength_eq_utf8ByteSize]
    rfl

theorem size_utf8Encode (cs : List Char) : cs.utf8Encode.size = byteLength cs := by
  rw [byteLength_eq_utf8ByteSize, ← String.size_toByteArray, String.toByteArray_ofList]

/-- **A text can be cut between characters.** -/
theorem slice_eq {template : String} {front text back : List Char}
    (h : template.toList = front ++ text ++ back) :
    slice template (byteLength front) (byteLength front + byteLength text) =
      .ok (.ofList text) := by
  have start : OnBoundary template (byteLength front) :=
    onBoundary_of_append (by rw [h, List.append_assoc])
  have stop : OnBoundary template (byteLength front + byteLength text) := by
    rw [← byteLength_append]
    exact onBoundary_of_append h
  have whole : template.toByteArray = front.utf8Encode ++ (text.utf8Encode ++ back.utf8Encode) := by
    rw [← String.ofList_toList (s := template), h, List.append_assoc, String.toByteArray_ofList,
      List.utf8Encode_append, List.utf8Encode_append]
  have cut := ByteArray.extract_append_size_add (a := front.utf8Encode)
    (b := text.utf8Encode ++ back.utf8Encode) (i := 0) (j := text.utf8Encode.size)
  rw [Nat.add_zero, ByteArray.extract_append_eq_left rfl, size_utf8Encode, size_utf8Encode,
    ← whole] at cut
  rw [slice, dif_pos ⟨Nat.le_add_right .., start, stop⟩]
  congr 1
  rw [← String.toByteArray_inj, String.toByteArray_extract, String.toByteArray_ofList]
  exact cut

/-- Inside a character it cannot. -/
example : slice "é" 0 1 = .error (.offBoundary 0 1) := by decide

/-! ## 4. Cursors and scanners -/

namespace Scanner

/-- The scanner is at work on the template: what it has read and what it has not read make it up. -/
def On (template : String) (s : Scanner) : Prop :=
  ∃ read, template.toList = read ++ s.rest ∧ s.offset = byteLength read

/-- The cursor that stands where the scanner does. -/
def cursor (template : String) (s : Scanner) : Cursor := ⟨template, s.offset, s.failed⟩

/-- The outcome of a step, with the cursor in place of the scanner. -/
def asDraw (template : String) (step : Except ScanError Segment × Scanner) :
    Except ScanError Segment × Cursor := (step.1, step.2.cursor template)

namespace On

variable {template : String} {s : Scanner} {text rest : List Char}

theorem start (template : String) : (Scanner.start template).On template := ⟨[], rfl, rfl⟩

/-- Behind a text that was ahead of it the scanner is still at work. -/
theorem behind {s' : Scanner} (on : s.On template) (front : s.rest = text ++ s'.rest)
    (offset : s'.offset = s.offset + byteLength text) : s'.On template := by
  obtain ⟨read, whole, start⟩ := on
  refine ⟨read ++ text, ?_, ?_⟩
  · rw [whole, front, List.append_assoc]
  · rw [offset, start, byteLength_append]

theorem advance (on : s.On template) (front : s.rest = text ++ rest) :
    (s.advance text rest).On template := on.behind front rfl

theorem onBoundary (on : s.On template) : OnBoundary template s.offset := by
  obtain ⟨read, whole, offset⟩ := on
  rw [offset]
  exact onBoundary_of_append whole

/-- The bytes ahead of the cursor are those of the text ahead of the scanner. -/
theorem ahead (on : s.On template) : (s.cursor template).ahead = encode s.rest := by
  obtain ⟨read, whole, offset⟩ := on
  rw [Cursor.ahead, cursor, offset, utf8_eq_encode, whole, encode_append,
    List.drop_left' (length_encode read)]

theorem slice (on : s.On template) (front : s.rest = text ++ rest) :
    slice template s.offset (s.offset + byteLength text) = .ok (.ofList text) := by
  obtain ⟨read, whole, offset⟩ := on
  rw [offset]
  exact slice_eq (by rw [whole, front, List.append_assoc])

theorem literal (on : s.On template) (front : s.rest = text ++ rest) (position : Nat) :
    (s.cursor template).literal (s.offset + byteLength text) position =
      .ok (.ok (.literal (.ofList text)), (s.cursor template).moveTo position) := by
  have cut := on.slice front
  rw [Cursor.literal, cursor, cut]
  rfl

theorem close? (on : s.On template) {tail : List Char} (front : s.rest = openBrace :: tail) :
    (s.cursor template).close? =
      .ok ((splitSpan 0 tail).map fun parts => s.offset + 1 + byteLength parts.1) := by
  rw [Cursor.close?, on.ahead, front, encode_cons, BraceUnit.opening.utf8EncodeChar,
    List.singleton_append]
  exact closing_encode ..

theorem span (on : s.On template) {tail : List Char} (front : s.rest = openBrace :: tail) :
    (s.cursor template).span = .ok (asDraw template (s.span tail)) := by
  rw [Cursor.span, Scanner.span, on.close? front]
  cases closes : splitSpan 0 tail with
  | none => rfl
  | some parts =>
    obtain ⟨body, rest⟩ := parts
    have inside : (s.advance [openBrace] tail).On template := on.advance front
    have cut : Stencil.slice template (s.offset + 1) (s.offset + 1 + byteLength body) =
        .ok (.ofList body) := inside.slice (eq_of_splitSpan closes)
    have behind : s.offset + 1 + byteLength body + 1 =
        s.offset + byteLength (openBrace :: body ++ [closeBrace]) := by
      rw [byteLength_append, byteLength_cons, byteLength_cons, byteLength_nil,
        BraceUnit.opening.utf8Size, BraceUnit.closing.utf8Size]
      omega
    simp only [Option.map_some, cursor, cut, String.toList_ofList, behind, bind, Except.bind]
    cases Placeholder.ofBody? s.offset body <;> rfl

/-- The piece that begins with a brace. -/
theorem piece_brace (on : s.On template) (alive : s.failed = false) {c : Char} {cs : List Char}
    (front : s.rest = c :: cs) {b : UInt8} (unit : BraceUnit c b) :
    ∃ step, s.next? = some step ∧
      (s.cursor template).piece b (encode cs) = .ok (asDraw template step) := by
  rw [Scanner.next?, alive, front, Cursor.piece]
  simp only [unit.isBrace, unit.isBraceByte, if_true, head?_encode_iff unit, Bool.false_eq_true,
    if_false]
  by_cases twice : cs.head? = some c
  · rw [if_pos twice, if_pos twice]
    refine ⟨_, rfl, ?_⟩
    have once : byteLength [c] = 1 := unit.utf8Size
    have both : byteLength [c, c] = 2 := by simp [unit.utf8Size]
    have single : s.rest = [c] ++ cs := front
    have cut := on.literal single (s.offset + 2)
    rw [once] at cut
    rw [asDraw, Scanner.advance, both]
    exact cut
  rw [if_neg twice, if_neg twice]
  cases unit with
  | opening => exact ⟨_, rfl, on.span front⟩
  | closing => exact ⟨_, rfl, rfl⟩

/-- The piece that begins with another character. -/
theorem piece_plain (on : s.On template) (alive : s.failed = false) {c : Char} {cs : List Char}
    (front : s.rest = c :: cs) (plain : isBrace c = false) {b : UInt8} {bs : List UInt8}
    (form : encode s.rest = b :: bs) (other : isBraceByte b = false) :
    ∃ step, s.next? = some step ∧
      (s.cursor template).piece b bs = .ok (asDraw template step) := by
  have split : s.rest = s.rest.takeWhile (!isBrace ·) ++ s.rest.dropWhile (!isBrace ·) :=
    List.takeWhile_append_dropWhile.symm
  have cut := on.literal split (s.offset + byteLength (s.rest.takeWhile (!isBrace ·)))
  rw [Scanner.next?, alive, front, Cursor.piece, ← form, findIdx_encode]
  simp only [Bool.false_eq_true, if_false, plain, other]
  rw [← front]
  exact ⟨_, rfl, cut⟩

/-- As long as there is text ahead, both read the piece it begins with. -/
theorem exists_piece (on : s.On template) (alive : s.failed = false) (text : s.rest ≠ []) :
    ∃ b bs step, encode s.rest = b :: bs ∧ s.next? = some step ∧
      (s.cursor template).piece b bs = .ok (asDraw template step) := by
  obtain ⟨c, cs, front⟩ := List.exists_cons_of_ne_nil text
  cases brace : isBrace c with
  | true =>
    obtain ⟨b, unit⟩ := exists_braceUnit brace
    obtain ⟨step, stepped, read⟩ := on.piece_brace alive front unit
    refine ⟨b, encode cs, step, ?_, stepped, read⟩
    rw [front, encode_cons, unit.utf8EncodeChar, List.singleton_append]
  | false =>
    obtain ⟨b, bs, form, other⟩ := exists_head_byte brace
    have bytes : encode s.rest = b :: (bs ++ encode cs) := by
      rw [front, encode_cons, form, List.cons_append]
    obtain ⟨step, stepped, read⟩ := on.piece_plain alive front brace bytes other
    exact ⟨b, _, step, bytes, stepped, read⟩

/-- **One draw of a cursor is one step of the scanner that stands where it does.** -/
theorem next (on : s.On template) :
    (s.cursor template).next = .ok (s.next?.map (asDraw template)) := by
  rw [Cursor.next, on.ahead]
  cases failed : s.failed with
  | true => simp [cursor, Scanner.next?, failed, pure, Except.pure]
  | false =>
    have alive : ¬ (s.cursor template).failed = true := by simp [cursor, failed]
    rw [if_neg alive]
    by_cases empty : s.rest = []
    · simp [Scanner.next?, failed, empty, pure, Except.pure]
    · obtain ⟨b, bs, step, bytes, stepped, read⟩ := on.exists_piece failed empty
      rw [bytes, stepped]
      dsimp only
      rw [read]
      rfl

end On

end Scanner

end Stencil
