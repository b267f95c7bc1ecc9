import Stencil.Text.Blank
import Stencil.Text.Utf8
import Stencil.Template.Segment

/-!
# Reading a template

A scanner holds the text it has not read yet and the number of bytes before it. One step reads one
piece from the front: a doubled brace stands for one brace, a run without braces is a literal, and
an opening brace starts a span that ends where the braces balance again, so spans may nest. After
its first error a scanner yields nothing more.

`Scanner.next?` is one step, `Template.scan` all of them. Each step that yields a segment leaves
less text than it found (`Scanner.next?_ok_lt`), which is why reading ends.
-/

namespace Stencil

open Text

/-! ## 1. Braces -/

/-- The brace that opens a span. -/
def openBrace : Char := '\x7b'

/-- The brace that closes a span. -/
def closeBrace : Char := '\x7d'

/-- The character has a meaning of its own in a template. -/
def isBrace (c : Char) : Bool := c == openBrace || c == closeBrace

/-- Splits a text at the brace that closes the span it is inside of, when `depth` further spans
are open within it: the body before that brace and the rest after it. -/
def splitSpan : Nat → List Char → Option (List Char × List Char)
  | _, [] => none
  | depth, c :: cs =>
    if c = openBrace then (splitSpan (depth + 1) cs).map fun (body, rest) => (c :: body, rest)
    else if c = closeBrace then
      match depth with
      | 0 => some ([], cs)
      | depth + 1 => (splitSpan depth cs).map fun (body, rest) => (c :: body, rest)
    else (splitSpan depth cs).map fun (body, rest) => (c :: body, rest)

/-- The body, the closing brace and the rest are the text that was split. -/
theorem eq_of_splitSpan {depth : Nat} {cs body rest : List Char}
    (h : splitSpan depth cs = some (body, rest)) : cs = body ++ closeBrace :: rest := by
  induction cs generalizing depth body with
  | nil => simp [splitSpan] at h
  | cons c cs ih =>
    have step : ∀ d, (splitSpan d cs).map (fun (b, r) => (c :: b, r)) = some (body, rest) →
        c :: cs = body ++ closeBrace :: rest := by
      intro d hd
      obtain ⟨⟨b, r⟩, hs, he⟩ := Option.map_eq_some_iff.mp hd
      cases he
      rw [ih hs, List.cons_append]
    unfold splitSpan at h
    split at h
    · exact step _ h
    · split at h
      · rename_i hc
        cases depth with
        | zero => cases h; rw [hc]; rfl
        | succ depth => exact step _ h
      · exact step _ h

/-! ## 2. Placeholders -/

/-- The part before the first colon, and the part after it when there is one. -/
def splitColon (cs : List Char) : List Char × Option (List Char) :=
  (cs.takeWhile (· != ':'), (cs.dropWhile (· != ':')).tail?)

/-- Reads the body of the span that opens at `offset`: nothing when it is blank, otherwise the
trimmed path and the trimmed format, which is absent when it is blank. -/
def Placeholder.ofBody? (offset : Nat) (body : List Char) : Option Placeholder :=
  match trim body with
  | [] => none
  | text =>
    let (path, format) := splitColon text
    let format := (format.map trim).filter fun f => !f.isEmpty
    some ⟨String.ofList (trim path), format.map String.ofList, offset⟩

/-! ## 3. One step -/

/-- Where the reading of a template stands. -/
structure Scanner where
  /-- The text not read yet. -/
  rest : List Char
  /-- The bytes read so far. -/
  offset : Nat
  /-- An error was reported, and nothing more will be. -/
  failed : Bool
  deriving DecidableEq, Repr

namespace Scanner

/-- A scanner at the start of a template. -/
def start (template : String) : Scanner := ⟨template.toList, 0, false⟩

/-- The scanner after reading `read` and nothing else. -/
def advance (s : Scanner) (read rest : List Char) : Scanner :=
  { s with rest := rest, offset := s.offset + byteLength read }

@[simp] theorem advance_advance (s : Scanner) (read read' rest rest' : List Char) :
    (s.advance read rest).advance read' rest' = s.advance (read ++ read') rest' := by
  simp [advance, Nat.add_assoc]

/-- The scanner that reported an error. -/
def stop (s : Scanner) : Scanner := { s with failed := true }

/-- Reads the span whose opening brace is at the front; `body` follows that brace. -/
def span (s : Scanner) (tail : List Char) : Except ScanError Segment × Scanner :=
  match splitSpan 0 tail with
  | none => (.error (.unmatchedBrace s.offset), s.stop)
  | some (body, rest) =>
    let after := s.advance (openBrace :: body ++ [closeBrace]) rest
    match Placeholder.ofBody? s.offset body with
    | none => (.error (.emptyPlaceholder s.offset), after.stop)
    | some p => (.ok (.placeholder p), after)

/-- Reads one piece from the front, and nothing at the end of the text or after an error. -/
def next? (s : Scanner) : Option (Except ScanError Segment × Scanner) :=
  if s.failed then none else
  match s.rest with
  | [] => none
  | c :: cs =>
    if isBrace c then
      if cs.head? = some c then
        some (.ok (.literal (String.ofList [c])), s.advance [c, c] cs.tail)
      else if c = openBrace then some (s.span cs)
      else some (.error (.strayCloseBrace s.offset), s.stop)
    else
      let run := (c :: cs).takeWhile (!isBrace ·)
      some (.ok (.literal (String.ofList run)), s.advance run ((c :: cs).dropWhile (!isBrace ·)))

/-- A step that yields a segment leaves less text than it found. -/
theorem next?_ok_lt {s s' : Scanner} {segment : Segment}
    (h : s.next? = some (.ok segment, s')) : s'.rest.length < s.rest.length := by
  unfold next? at h
  split at h
  · simp at h
  · split at h
    · simp at h
    · rename_i c cs hr
      split at h
      · split at h
        · simp only [Option.some.injEq, Prod.mk.injEq] at h
          obtain ⟨_, rfl⟩ := h
          simp only [advance, hr, List.length_cons, List.length_tail]
          omega
        · split at h
          · simp only [Option.some.injEq] at h
            unfold span at h
            split at h
            · simp at h
            · rename_i body rest hs
              split at h
              · simp at h
              · simp only [Prod.mk.injEq] at h
                obtain ⟨_, rfl⟩ := h
                have := eq_of_splitSpan hs
                simp only [advance, hr, this, List.length_cons, List.length_append]
                omega
          · simp at h
      · rename_i hb
        simp only [Option.some.injEq, Prod.mk.injEq] at h
        obtain ⟨_, rfl⟩ := h
        have hle := (List.dropWhile_sublist (l := cs) (!isBrace ·)).length_le
        simp only [advance, hr, List.dropWhile_cons, hb]
        simp only [Bool.not_eq_true] at hb
        simp only [Bool.not_false, if_true, List.length_cons]
        omega

/-! ## 4. All steps -/

/-- Everything the scanner will yield: segments up to the end of the text or the first error,
which is then the last item. -/
def items (s : Scanner) : List (Except ScanError Segment) :=
  match _h : s.next? with
  | none => []
  | some (.error e, _) => [.error e]
  | some (.ok segment, s') => .ok segment :: items s'
termination_by s.rest.length
decreasing_by exact next?_ok_lt ‹_›

theorem items_of_ok {s s' : Scanner} {segment : Segment} (h : s.next? = some (.ok segment, s')) :
    s.items = .ok segment :: s'.items := by
  rw [items]
  split <;> simp_all

theorem items_of_error {s s' : Scanner} {error : ScanError}
    (h : s.next? = some (.error error, s')) : s.items = [.error error] := by
  rw [items]
  split <;> simp_all

theorem items_of_none {s : Scanner} (h : s.next? = none) : s.items = [] := by
  rw [items]
  split <;> simp_all

/-- The scanner after drawing `n` items, as far as there are any. -/
def skip : Nat → Scanner → Scanner
  | 0, s => s
  | n + 1, s =>
    match s.next? with
    | none => s
    | some (_, s') => skip n s'

end Scanner

/-- The outcomes of reading a template, in order: segments, and an error at most at the end. -/
abbrev Scan := List (Except ScanError Segment)

/-- Reads a whole template. -/
def scan (template : String) : Scan := (Scanner.start template).items

namespace Scan

/-- The segments before the first error. -/
def segments : Scan → List Segment
  | .ok segment :: items => segment :: segments items
  | _ => []

/-- The first error. -/
def error? : Scan → Option ScanError
  | [] => none
  | .ok _ :: items => error? items
  | .error e :: _ => some e

/-- All segments when there is no error, the first error otherwise. -/
def complete (items : Scan) : Except ScanError (List Segment) :=
  match error? items with
  | none => .ok (segments items)
  | some e => .error e

@[simp] theorem error?_ok_append (segments' : List Segment) (items : Scan) :
    error? (segments'.map .ok ++ items) = error? items := by
  induction segments' with
  | nil => rfl
  | cons s ss ih => simp [error?, ih]

@[simp] theorem error?_ok (segments' : List Segment) : error? (segments'.map .ok) = none := by
  have read := error?_ok_append segments' []
  rw [List.append_nil] at read
  exact read

/-- An outcome without an error is its segments and nothing else. -/
theorem eq_map_ok_of_error?_eq_none {items : Scan} (h : error? items = none) :
    items = (segments items).map .ok := by
  induction items with
  | nil => rfl
  | cons item items ih =>
    cases item with
    | ok s => simp only [error?] at h; simp [segments, ← ih h]
    | error e => simp [error?] at h

/-- A reading that is complete is its segments and nothing else. -/
theorem eq_map_ok_of_complete {items : Scan} {segments' : List Segment}
    (h : items.complete = .ok segments') : items = segments'.map .ok := by
  unfold complete at h
  split at h
  · rename_i clean
    cases h
    exact eq_map_ok_of_error?_eq_none clean
  · cases h

theorem error?_of_complete {items : Scan} {fault : ScanError}
    (h : items.complete = .error fault) : items.error? = some fault := by
  unfold complete at h
  split at h
  · cases h
  · cases h
    assumption

end Scan

end Stencil
