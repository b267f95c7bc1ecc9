import Stencil.Template.Scanner

/-!
# Reading a template by its bytes

A template can be read without taking it apart into characters: a cursor is a position in its bytes,
and it moves to the next byte that is a brace. Both braces are single bytes, so the bytes are looked
at one by one, and only where a piece is found is the text between two positions cut out.

Two things could go wrong on the way that cannot where characters are read: a cut through the middle
of a character, and a closing brace that is counted where no span is open. `Misstep` names them, and
each function that could make one says so in its type.

`Cursor.next` is one draw, `Cursor.draws` any number of them.
-/

namespace Stencil

open Text

/-! ## 1. Bytes -/

/-- The bytes of a text in UTF-8. -/
def utf8 (text : String) : List UInt8 := text.toByteArray.data.toList

/-- The byte of the brace that opens a span. -/
def openByte : UInt8 := 0x7B

/-- The byte of the brace that closes a span. -/
def closeByte : UInt8 := 0x7D

/-- The byte is a brace. -/
def isBraceByte (b : UInt8) : Bool := b == openByte || b == closeByte

/-- No character of the text has bytes on both sides of the position. -/
abbrev OnBoundary (text : String) (position : Nat) : Prop :=
  (⟨position⟩ : String.Pos.Raw).IsValid text

/-- What reading by bytes must not do. -/
inductive Misstep where
  /-- To cut a text where there is no boundary between characters, or from back to front. -/
  | offBoundary (start stop : Nat)
  /-- To count a closing brace where no span is open. -/
  | depthBelowZero (position : Nat)
  deriving DecidableEq, Repr

/-- The text between two positions. -/
def slice (text : String) (start stop : Nat) : Except Misstep String :=
  if h : start ≤ stop ∧ OnBoundary text start ∧ OnBoundary text stop then
    .ok (text.extract ⟨⟨start⟩, h.2.1⟩ ⟨⟨stop⟩, h.2.2⟩)
  else .error (.offBoundary start stop)

/-- Looks for the byte that closes the outermost of `depth` open spans, among bytes of which the
first stands at `position`. -/
def closing (depth position : Nat) : List UInt8 → Except Misstep (Option Nat)
  | [] => .ok none
  | b :: bs =>
    if b = openByte then closing (depth + 1) (position + 1) bs
    else if b = closeByte then
      match depth with
      | 0 => .error (.depthBelowZero position)
      | 1 => .ok (some position)
      | depth + 2 => closing (depth + 1) (position + 1) bs
    else closing depth (position + 1) bs

section Closing

variable (depth position : Nat) (bs : List UInt8)

@[simp] theorem closing_nil : closing depth position [] = .ok none := by rw [closing.eq_def]

@[simp] theorem closing_openByte :
    closing depth position (openByte :: bs) = closing (depth + 1) (position + 1) bs := by
  rw [closing.eq_def]
  rfl

@[simp] theorem closing_last : closing 1 position (closeByte :: bs) = .ok (some position) := by
  rw [closing.eq_def]
  rfl

@[simp] theorem closing_closeByte :
    closing (depth + 2) position (closeByte :: bs) = closing (depth + 1) (position + 1) bs := by
  rw [closing.eq_def]
  rfl

theorem closing_other {b : UInt8} (plain : isBraceByte b = false) :
    closing depth position (b :: bs) = closing depth (position + 1) bs := by
  obtain ⟨ho, hc⟩ : b ≠ openByte ∧ b ≠ closeByte := by simpa [isBraceByte] using plain
  rw [closing.eq_def]
  simp only [ho, hc, if_false]

end Closing

/-! ## 2. One draw -/

/-- Where the reading of a template by its bytes stands. -/
structure Cursor where
  /-- The template, all of it. -/
  template : String
  /-- How many bytes have been read. -/
  pos : Nat
  /-- An error was reported, and nothing more will be. -/
  failed : Bool
  deriving DecidableEq, Repr

namespace Cursor

/-- A cursor at the start of a template. -/
def start (template : String) : Cursor := ⟨template, 0, false⟩

/-- The bytes not read yet. -/
def ahead (c : Cursor) : List UInt8 := (utf8 c.template).drop c.pos

/-- The cursor at another position. -/
def moveTo (c : Cursor) (position : Nat) : Cursor := { c with pos := position }

/-- The cursor that reported an error. -/
def stop (c : Cursor) : Cursor := { c with failed := true }

/-- Where the span closes whose opening brace is at the cursor. -/
def close? (c : Cursor) : Except Misstep (Option Nat) := closing 1 (c.pos + 1) c.ahead.tail

/-- Reads the span whose opening brace is at the cursor. -/
def span (c : Cursor) : Except Misstep (Except ScanError Segment × Cursor) := do
  match ← c.close? with
  | none => return (.error (.unmatchedBrace c.pos), c.stop)
  | some close =>
    let body ← slice c.template (c.pos + 1) close
    let after := c.moveTo (close + 1)
    match Placeholder.ofBody? c.pos body.toList with
    | none => return (.error (.emptyPlaceholder c.pos), after.stop)
    | some p => return (.ok (.placeholder p), after)

/-- Copies the text up to `stop`, and goes on at `position`. -/
def literal (c : Cursor) (stop position : Nat) :
    Except Misstep (Except ScanError Segment × Cursor) := do
  return (.ok (.literal (← slice c.template c.pos stop)), c.moveTo position)

/-- Reads the piece that begins with the byte `b` at the cursor, in front of `bs`. -/
def piece (c : Cursor) (b : UInt8) (bs : List UInt8) :
    Except Misstep (Except ScanError Segment × Cursor) :=
  if isBraceByte b then
    if bs.head? = some b then c.literal (c.pos + 1) (c.pos + 2)
    else if b = openByte then c.span
    else return (.error (.strayCloseBrace c.pos), c.stop)
  else
    let position := c.pos + (b :: bs).findIdx isBraceByte
    c.literal position position

/-- Draws one item. There is none at the end of the template, or after an error. -/
def next (c : Cursor) : Except Misstep (Option (Except ScanError Segment × Cursor)) :=
  if c.failed then return none else
  match c.ahead with
  | [] => return none
  | b :: bs => return some (← c.piece b bs)

/-! ## 3. Any number of draws -/

/-- The items that `n` draws give, and the cursor behind them. -/
def draws : Nat → Cursor → Except Misstep (List (Except ScanError Segment) × Cursor)
  | 0, c => return ([], c)
  | n + 1, c => do
    match ← c.next with
    | none => return ([], c)
    | some (item, after) =>
      let (items, last) ← draws n after
      return (item :: items, last)

end Cursor

end Stencil
