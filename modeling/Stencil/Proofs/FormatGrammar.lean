import Mathlib.Data.List.TakeWhile
import Stencil.FormatSpec

/-!
# The grammar of format specifications

Every part of a specification may be left out, and the type may be any character. A text is read from
the left, and each part takes as much of it as it can.

* `Parts`: the parts of a specification as they are written, with the text they make and the
  specification they stand for. They are read greedily when no part begins with what an earlier one
  could have taken; a text has one such reading at most (`Greedy.unique`);
* `readAlign_eq_iff`, `readSize_eq_ok_iff`, `readPrecision_eq_ok_iff`, `readKind_eq_ok_iff`: what each
  reader takes;
* `parse_reads_grammar`: so reading accepts the texts of such parts within the bounds, and nothing
  else, and reads again what is written.
-/

namespace Stencil.FormatSpec

open Numeric

/-! ## 1. Parts -/

/-- The parts of a specification as they are written. -/
structure Parts where
  align : Option Align
  /-- The digits of the width. -/
  width : List Char
  /-- The digits behind the point, if there is one. -/
  places : Option (List Char)
  /-- The type character. -/
  type : Option Char

/-- A point with digits behind it. -/
def pointText : Option (List Char) → List Char
  | some ds => '.' :: ds
  | none => []

/-- The number that a run of digits stands for, if it is not empty. -/
def size? (ds : List Char) : Option Nat := if ds.isEmpty then none else some (ofDigits ds)

/-- The kind that an optional type character stands for. -/
def kindOf? : Option Char → FormatKind
  | some c => kindOf c
  | none => .text

namespace Parts

/-- What is written behind the width. -/
def tail (p : Parts) : List Char := pointText p.places ++ p.type.toList

/-- What is written behind the alignment. -/
def body (p : Parts) : List Char := p.width ++ p.tail

/-- The text of the parts. -/
def text (p : Parts) : List Char := alignText p.align ++ p.body

/-- The specification that the parts stand for. -/
def spec (p : Parts) : FormatSpec :=
  ⟨p.align, size? p.width, p.places.map ofDigits, kindOf? p.type⟩

/-- The parts are read greedily: width and precision are digits, and no part begins with what an
earlier one could have taken. -/
structure Greedy (p : Parts) : Prop where
  width : ∀ c ∈ p.width, c.isDigit = true
  /-- Behind a point there is at least one digit. -/
  places : ∀ ds ∈ p.places, ds ≠ [] ∧ ∀ c ∈ ds, c.isDigit = true
  /-- A mark in front is the alignment. -/
  mark : p.align = none → ∀ c ∈ p.body.head?, c ≠ '<' ∧ c ≠ '>'
  /-- A digit belongs to the width or the precision. -/
  digit : ∀ c ∈ p.type, c.isDigit = false
  /-- A point begins a precision. -/
  point : p.places = none → ∀ c ∈ p.type, c ≠ '.'

/-- The numbers are within the bounds, and an integer has no precision. -/
structure Admitted (p : Parts) : Prop where
  width : ofDigits p.width ≤ maxSize
  places : ∀ ds ∈ p.places, ofDigits ds ≤ maxSize
  integer : p.type = some 'd' → p.places = none

end Parts

/-- Width and precision are within the bounds, and an integer has no precision. -/
structure Bounded (s : FormatSpec) : Prop where
  width : ∀ n ∈ s.width, n ≤ maxSize
  precision : ∀ n ∈ s.precision, n ≤ maxSize
  integer : s.kind = .integer → s.precision = none

/-! ## 2. Readers -/

variable {cs rest : List Char}

/-- The alignment is no mark in front of what begins with none. -/
theorem readAlign_of_no_mark (unmarked : ∀ c ∈ cs.head?, c ≠ '<' ∧ c ≠ '>') :
    readAlign cs = (none, cs) := by
  unfold readAlign
  split
  · exact absurd rfl (unmarked '<' rfl).1
  · exact absurd rfl (unmarked '>' rfl).2
  · rfl

/-- **A mark in front is taken for the alignment.** -/
theorem readAlign_eq_iff {align : Option Align} : readAlign cs = (align, rest) ↔
    cs = alignText align ++ rest ∧ (align = none → ∀ c ∈ rest.head?, c ≠ '<' ∧ c ≠ '>') := by
  constructor
  · intro read
    unfold readAlign at read
    split at read
    · cases read; exact ⟨rfl, nofun⟩
    · cases read; exact ⟨rfl, nofun⟩
    · next left right =>
      cases read
      refine ⟨rfl, fun _ c first => ⟨?_, ?_⟩⟩
      · rintro rfl
        exact left _ (List.head?_eq_some_iff.mp first).choose_spec
      · rintro rfl
        exact right _ (List.head?_eq_some_iff.mp first).choose_spec
  · rintro ⟨rfl, unmarked⟩
    cases align with
    | none => exact readAlign_of_no_mark (unmarked rfl)
    | some align => cases align <;> rfl

/-- A run of digits is all that there is in front of what is no digit. -/
theorem takeWhile_isDigit_iff {ds : List Char} :
    (cs.takeWhile Char.isDigit = ds ∧ cs.dropWhile Char.isDigit = rest) ↔
      cs = ds ++ rest ∧ (∀ c ∈ ds, c.isDigit = true) ∧ ∀ c ∈ rest.head?, c.isDigit = false := by
  constructor
  · rintro ⟨rfl, rfl⟩
    refine ⟨List.takeWhile_append_dropWhile.symm, fun c hc => List.mem_takeWhile_imp hc, ?_⟩
    intro c first
    have stop := List.head?_dropWhile_not Char.isDigit cs
    rw [Option.mem_def.mp first] at stop
    exact stop
  · rintro ⟨rfl, digits, stop⟩
    have none : rest.takeWhile Char.isDigit = [] ∧ rest.dropWhile Char.isDigit = rest := by
      cases rest with
      | nil => exact ⟨rfl, rfl⟩
      | cons c rest =>
        have := stop c rfl
        simp [this]
    rw [List.takeWhile_append_of_pos digits, List.dropWhile_append_of_pos digits, none.1, none.2]
    simp

/-- **A number is a run of digits within the bound**, however long it is; no digits are no number. -/
theorem readSize_eq_ok_iff {tooLarge : SpecError} {size : Option Nat} :
    readSize tooLarge cs = .ok (size, rest) ↔
      ∃ ds, cs = ds ++ rest ∧ (∀ c ∈ ds, c.isDigit = true) ∧ (∀ c ∈ rest.head?, c.isDigit = false) ∧
        ofDigits ds ≤ maxSize ∧ size = size? ds := by
  -- whatever comes of them, it is all the digits in front that are taken
  have shape : readSize tooLarge cs = .ok (size, rest) ↔
      ofDigits (cs.takeWhile Char.isDigit) ≤ maxSize ∧
        size = size? (cs.takeWhile Char.isDigit) ∧ cs.dropWhile Char.isDigit = rest := by
    unfold readSize size?
    by_cases empty : (cs.takeWhile Char.isDigit).isEmpty
    · rw [List.isEmpty_iff] at empty
      simp [empty, ofDigits, eq_comm]
    · by_cases large : maxSize < ofDigits (cs.takeWhile Char.isDigit)
      · simp [empty, large, Nat.not_le.mpr large]
      · simp [empty, large, Nat.le_of_not_lt large, eq_comm]
  rw [shape]
  constructor
  · rintro ⟨bound, rfl, stop⟩
    obtain ⟨split, digits, stop⟩ := takeWhile_isDigit_iff.mp ⟨rfl, stop⟩
    exact ⟨_, split, digits, stop, bound, rfl⟩
  · rintro ⟨ds, split, digits, stop, bound, rfl⟩
    obtain ⟨taken, left⟩ := takeWhile_isDigit_iff.mpr ⟨split, digits, stop⟩
    rw [taken]
    exact ⟨bound, rfl, left⟩

/-- Behind a point there is a number. -/
theorem readPrecision_point {precision : Option Nat} :
    readPrecision ('.' :: cs) = .ok (precision, rest) ↔
      readSize .precisionTooLarge cs = .ok (precision, rest) ∧ precision ≠ none := by
  rw [readPrecision]
  cases read : readSize .precisionTooLarge cs with
  | error error => simp
  | ok taken =>
    obtain ⟨size, left⟩ := taken
    cases size with
    | none =>
      simp only [reduceCtorEq, Except.ok.injEq, Prod.mk.injEq, false_iff]
      rintro ⟨⟨rfl, -⟩, given⟩
      exact given rfl
    | some size =>
      simp only [Except.ok.injEq, Prod.mk.injEq]
      constructor
      · rintro ⟨rfl, rfl⟩
        exact ⟨⟨rfl, rfl⟩, nofun⟩
      · rintro ⟨same, -⟩
        exact same

/-- Without a point there is no precision. -/
theorem readPrecision_of_no_point (pointless : ∀ c ∈ cs.head?, c ≠ '.') :
    readPrecision cs = .ok (none, cs) := by
  unfold readPrecision
  split
  · exact absurd rfl (pointless '.' rfl)
  · rfl

/-- No digits are no size. -/
theorem size?_eq_none_iff {ds : List Char} : size? ds = none ↔ ds = [] := by
  simp [size?]

theorem size?_of_ne_nil {ds : List Char} (some : ds ≠ []) : size? ds = .some (ofDigits ds) := by
  simp [size?, some]

/-- **A precision is a point and a number within the bound**, which is not empty. Where there is none
no point is in front. -/
theorem readPrecision_eq_ok_iff {precision : Option Nat} :
    readPrecision cs = .ok (precision, rest) ↔
      ∃ places, cs = pointText places ++ rest ∧
        (∀ ds ∈ places, (ds ≠ [] ∧ ∀ c ∈ ds, c.isDigit = true) ∧ ofDigits ds ≤ maxSize ∧
          ∀ c ∈ rest.head?, c.isDigit = false) ∧
        (places = none → ∀ c ∈ rest.head?, c ≠ '.') ∧ precision = places.map ofDigits := by
  constructor
  · intro read
    by_cases pointless : ∀ c ∈ cs.head?, c ≠ '.'
    · rw [readPrecision_of_no_point pointless] at read
      cases read
      exact ⟨none, rfl, nofun, fun _ => pointless, rfl⟩
    · obtain ⟨cs, rfl⟩ : ∃ cs', cs = '.' :: cs' := by
        simpa [List.head?_eq_some_iff] using pointless
      obtain ⟨read, given⟩ := readPrecision_point.mp read
      obtain ⟨ds, rfl, digits, stop, bound, rfl⟩ := readSize_eq_ok_iff.mp read
      have nonempty : ds ≠ [] := mt size?_eq_none_iff.mpr given
      refine ⟨some ds, rfl, ?_, nofun, size?_of_ne_nil nonempty⟩
      rintro _ ⟨⟩
      exact ⟨⟨nonempty, digits⟩, bound, stop⟩
  · rintro ⟨places, rfl, whole, pointless, rfl⟩
    cases places with
    | none => exact readPrecision_of_no_point (pointless rfl)
    | some ds =>
      obtain ⟨⟨nonempty, digits⟩, bound, stop⟩ := whole ds rfl
      refine readPrecision_point.mpr ⟨readSize_eq_ok_iff.mpr ?_, nofun⟩
      exact ⟨ds, rfl, digits, stop, bound, (size?_of_ne_nil nonempty).symm⟩

/-- **The type is one character at most.** -/
theorem readKind_eq_ok_iff {kind : FormatKind} :
    readKind cs = .ok kind ↔ ∃ type : Option Char, cs = type.toList ∧ kind = kindOf? type := by
  constructor
  · intro read
    unfold readKind at read
    split at read
    · cases read; exact ⟨none, rfl, rfl⟩
    · cases read; exact ⟨some _, rfl, rfl⟩
    · cases read
  · rintro ⟨type, rfl, rfl⟩
    cases type <;> rfl

/-- Integers are what `d` stands for. -/
theorem kindOf?_eq_integer_iff {type : Option Char} : kindOf? type = .integer ↔ type = some 'd' := by
  cases type with
  | none => simp [kindOf?]
  | some c =>
    simp only [kindOf?, Option.some.injEq]
    unfold kindOf
    split <;> simp_all

/-! ## 3. Reading -/

/-- **Reading takes one part after the other**, and refuses the precision of an integer. -/
theorem parse_eq_ok_iff {text : String} {s : FormatSpec} :
    parse text = .ok s ↔ ∃ afterAlign afterWidth afterPrecision,
      readAlign text.toList = (s.align, afterAlign) ∧
      readSize .widthTooLarge afterAlign = .ok (s.width, afterWidth) ∧
      readPrecision afterWidth = .ok (s.precision, afterPrecision) ∧
      readKind afterPrecision = .ok s.kind ∧
      (s.kind = .integer → s.precision = none) := by
  obtain ⟨align, width, precision, kind⟩ := s
  unfold parse
  constructor
  · intro read
    simp only at read
    split at read
    · cases read
    next readWidth =>
    split at read
    · cases read
    next readPrecision =>
    split at read
    · cases read
    next readKind =>
    split at read
    · cases read
    next whole =>
    cases read
    refine ⟨_, _, _, rfl, readWidth, readPrecision, readKind, fun integer => ?_⟩
    exact Option.not_isSome_iff_eq_none.mp fun given => whole ⟨integer, given⟩
  · rintro ⟨afterAlign, afterWidth, afterPrecision, readAlign, readWidth, readPrecision, readKind, whole⟩
    simp only [readAlign, readWidth, readPrecision, readKind]
    rw [if_neg]
    rintro ⟨integer, given⟩
    exact Option.not_isSome_iff_eq_none.mpr (whole integer) given

namespace Parts

variable {p q : Parts}

namespace Greedy

/-- No digit is left behind the width. -/
theorem no_digit (greedy : p.Greedy) : ∀ c ∈ p.tail.head?, c.isDigit = false := by
  cases places : p.places with
  | none => simpa [tail, places, pointText] using greedy.digit
  | some ds => simp [tail, places, pointText]

/-- The alignment is read as it is written. -/
theorem readAlign_text (greedy : p.Greedy) : readAlign p.text = (p.align, p.body) :=
  readAlign_eq_iff.mpr ⟨rfl, greedy.mark⟩

/-- The width is all the digits in front. -/
theorem split_body (greedy : p.Greedy) :
    p.body.takeWhile Char.isDigit = p.width ∧ p.body.dropWhile Char.isDigit = p.tail :=
  takeWhile_isDigit_iff.mpr ⟨rfl, greedy.width, greedy.no_digit⟩

/-- The precision is all the digits behind the point. -/
theorem split_places (greedy : p.Greedy) {ds : List Char} (given : p.places = some ds) :
    (ds ++ p.type.toList).takeWhile Char.isDigit = ds ∧
      (ds ++ p.type.toList).dropWhile Char.isDigit = p.type.toList :=
  takeWhile_isDigit_iff.mpr ⟨rfl, (greedy.places ds given).2, by simpa using greedy.digit⟩

/-- A point in front of what is behind the width is one of a precision. -/
theorem tail_ne_point (greedy : p.Greedy) (none : p.places = none) (cs : List Char) :
    p.tail ≠ '.' :: cs := by
  intro point
  cases type : p.type with
  | none => simp [tail, none, type, pointText] at point
  | some c =>
    simp only [tail, none, type, pointText, List.nil_append, Option.toList_some,
      List.cons.injEq] at point
    exact greedy.point none c type point.1

/-- Behind the width there is one way to read. -/
theorem places_type_unique (greedy : p.Greedy) (other : q.Greedy) (same : p.tail = q.tail) :
    p.places = q.places ∧ p.type = q.type := by
  -- a point behind the width begins a precision, so both have one or neither has
  cases first : p.places with
  | none => cases second : q.places with
    | none =>
      refine ⟨rfl, ?_⟩
      simpa [tail, first, second, pointText] using congrArg List.head? same
    | some es =>
      refine absurd same ?_
      simpa [tail, second, pointText] using greedy.tail_ne_point first (es ++ q.type.toList)
  | some ds => cases second : q.places with
    | none =>
      refine absurd same.symm ?_
      simpa [tail, first, pointText] using other.tail_ne_point second (ds ++ p.type.toList)
    | some es =>
      have same : ds ++ p.type.toList = es ++ q.type.toList := by
        simpa [tail, first, second, pointText] using same
      obtain ⟨placesLeft, typeLeft⟩ := greedy.split_places first
      obtain ⟨placesRight, typeRight⟩ := other.split_places second
      rw [same] at placesLeft typeLeft
      refine ⟨by rw [← placesLeft, placesRight], ?_⟩
      simpa using congrArg List.head? (typeLeft.symm.trans typeRight)

/-- **A text is read in one way.** -/
theorem unique (greedy : p.Greedy) (other : q.Greedy) (same : p.text = q.text) : p = q := by
  have front := greedy.readAlign_text
  rw [same, other.readAlign_text, Prod.mk.injEq] at front
  obtain ⟨width, tail⟩ := greedy.split_body
  rw [← front.2, other.split_body.1] at width
  rw [← front.2, other.split_body.2] at tail
  obtain ⟨places, type⟩ := greedy.places_type_unique other tail.symm
  cases p
  cases q
  simp_all

end Greedy

end Parts

/-- **Reading accepts the greedy parts within the bounds.** -/
theorem parse_eq_ok_iff_parts {text : String} {s : FormatSpec} : parse text = .ok s ↔
    ∃ p : Parts, p.Greedy ∧ p.Admitted ∧ p.text = text.toList ∧ p.spec = s := by
  rw [parse_eq_ok_iff]
  constructor
  · rintro ⟨afterAlign, afterWidth, afterPrecision, align, width, precision, kind, whole⟩
    obtain ⟨written, unmarked⟩ := readAlign_eq_iff.mp align
    obtain ⟨ds, rfl, digits, stop, bound, isWidth⟩ := readSize_eq_ok_iff.mp width
    obtain ⟨places, rfl, placed, pointless, isPrecision⟩ := readPrecision_eq_ok_iff.mp precision
    obtain ⟨type, rfl, isKind⟩ := readKind_eq_ok_iff.mp kind
    have plain : ∀ c ∈ type, c.isDigit = false := by
      intro c given
      cases places with
      | none => exact stop c (by simpa [pointText] using given)
      | some es => exact (placed es rfl).2.2 c (by simpa using given)
    refine ⟨⟨s.align, ds, places, type⟩,
      { width := digits
        places := fun es given => (placed es given).1
        mark := unmarked
        digit := plain
        point := fun none => by simpa using pointless none },
      { width := bound
        places := fun es given => (placed es given).2.1
        integer := fun integer => ?_ }, written.symm, ?_⟩
    · have none := whole (isKind.trans (kindOf?_eq_integer_iff.mpr integer))
      exact Option.map_eq_none_iff.mp (isPrecision.symm.trans none)
    · rw [Parts.spec, ← isWidth, ← isPrecision, ← isKind]
  · rintro ⟨p, greedy, admitted, written, rfl⟩
    refine ⟨p.body, p.tail, p.type.toList, written ▸ greedy.readAlign_text, ?_, ?_, ?_, ?_⟩
    · exact readSize_eq_ok_iff.mpr ⟨p.width, rfl, greedy.width, greedy.no_digit, admitted.width, rfl⟩
    · refine readPrecision_eq_ok_iff.mpr ⟨p.places, rfl, fun ds given => ?_, ?_, rfl⟩
      · exact ⟨greedy.places ds given, admitted.places ds given, by simpa using greedy.digit⟩
      · simpa using greedy.point
    · exact readKind_eq_ok_iff.mpr ⟨p.type, rfl, rfl⟩
    · intro integer
      simp only [Parts.spec, admitted.integer (kindOf?_eq_integer_iff.mp integer), Option.map_none]

/-- **What is read is within the bounds.** -/
theorem Bounded.of_parse {text : String} {s : FormatSpec} (read : parse text = .ok s) :
    s.Bounded := by
  obtain ⟨p, greedy, admitted, -, rfl⟩ := parse_eq_ok_iff_parts.mp read
  constructor
  · intro n given
    by_cases empty : p.width = []
    · simp [Parts.spec, empty, size?] at given
    · simp only [Parts.spec, size?_of_ne_nil empty, Option.mem_def, Option.some.injEq] at given
      exact given ▸ admitted.width
  · intro n given
    obtain ⟨ds, written, rfl⟩ := Option.map_eq_some_iff.mp given
    exact admitted.places ds written
  · intro integer
    exact Option.map_eq_none_iff.mpr (admitted.integer (kindOf?_eq_integer_iff.mp integer))

/-! ## 4. Writing -/

theorem isDigit_of_mem_digits {n : Nat} {c : Char} (digit : c ∈ digits n) : c.isDigit = true :=
  Nat.isDigit_of_mem_toDigits (by decide) (by decide) digit

theorem digits_ne_nil (n : Nat) : digits n ≠ [] := Nat.toDigits_ne_nil

@[simp] theorem ofDigits_digits (n : Nat) : ofDigits (digits n) = n :=
  Nat.ofDigitChars_ten_toDigits

/-- The type character of a kind. -/
def typeOf : FormatKind → Option Char
  | .fixed => some 'f'
  | .integer => some 'd'
  | .text => none

/-- The parts that a specification is written in. -/
def toParts (s : FormatSpec) : Parts :=
  ⟨s.align, (s.width.map digits).getD [], s.precision.map digits, typeOf s.kind⟩

/-- A specification is written as the text of its parts. -/
theorem toList_print (s : FormatSpec) : s.print.toList = s.toParts.text := by
  obtain ⟨align, width, precision, kind⟩ := s
  cases width <;> cases precision <;> cases kind <;>
    simp [print, toParts, Parts.text, Parts.body, Parts.tail, pointText, typeOf, kindText]

theorem spec_toParts (s : FormatSpec) : s.toParts.spec = s := by
  obtain ⟨align, width, precision, kind⟩ := s
  cases width <;> cases precision <;> cases kind <;>
    simp [toParts, Parts.spec, size?, digits_ne_nil, typeOf, kindOf?, kindOf]

/-- What is written behind the alignment is digits, a point and `f` or `d`. -/
theorem mem_body_toParts {s : FormatSpec} {c : Char} (written : c ∈ s.toParts.body) :
    c.isDigit = true ∨ c = '.' ∨ c = 'f' ∨ c = 'd' := by
  obtain ⟨align, width, precision, kind⟩ := s
  rcases List.mem_append.mp written with width' | written
  · cases width with
    | none => cases width'
    | some n => exact .inl (isDigit_of_mem_digits width')
  rcases List.mem_append.mp written with places | type
  · cases precision with
    | none => cases places
    | some n =>
      rcases List.mem_cons.mp places with rfl | digit
      · exact .inr (.inl rfl)
      · exact .inl (isDigit_of_mem_digits digit)
  · cases kind <;> simp_all [toParts, typeOf]

/-- **What is written is read greedily.** -/
theorem greedy_toParts (s : FormatSpec) : s.toParts.Greedy where
  width c digit := by
    cases width : s.width with
    | none => simp [toParts, width] at digit
    | some n => exact isDigit_of_mem_digits (n := n) (by simpa [toParts, width] using digit)
  places ds given := by
    obtain ⟨n, -, rfl⟩ := Option.map_eq_some_iff.mp given
    exact ⟨digits_ne_nil n, fun c => isDigit_of_mem_digits⟩
  mark _ c first := by
    have among := mem_body_toParts (List.mem_of_head? first)
    constructor <;> rintro rfl <;> simp at among
  digit c type := by
    cases kind : s.kind <;> simp_all [toParts, typeOf] <;> subst c <;> rfl
  point _ c type := by
    cases kind : s.kind <;> simp_all [toParts, typeOf] <;> subst c <;> decide

/-- What is within the bounds is written within them. -/
theorem Bounded.admitted {s : FormatSpec} (bounded : s.Bounded) : s.toParts.Admitted where
  width := by
    cases width : s.width with
    | none => simp [toParts, width, ofDigits]
    | some n => simpa [toParts, width] using bounded.width n width
  places ds given := by
    obtain ⟨n, precision, rfl⟩ := Option.map_eq_some_iff.mp given
    simpa using bounded.precision n precision
  integer integer := by
    have kind : s.kind = .integer := by
      cases kind : s.kind <;> simp_all [toParts, typeOf]
    simp [toParts, bounded.integer kind]

/-- **What is written is read again**, if it is within the bounds, and only then. -/
theorem parse_print_iff {s : FormatSpec} : parse s.print = .ok s ↔ s.Bounded := by
  refine ⟨Bounded.of_parse, fun bounded => parse_eq_ok_iff_parts.mpr ?_⟩
  exact ⟨s.toParts, s.greedy_toParts, bounded.admitted, s.toList_print.symm, s.spec_toParts⟩

/-- **Reading accepts the grammar and nothing else.** A text is accepted if and only if it is the text
of parts that are read greedily and are within the bounds, and the specification is the one they stand
for; the text has no other such parts. What is written is read again if and only if its numbers are
within the bounds and an integer has no precision, and nothing else is ever read. -/
theorem parse_reads_grammar :
    (∀ (text : String) (s : FormatSpec), parse text = .ok s ↔
      ∃ p : Parts, p.Greedy ∧ p.Admitted ∧ p.text = text.toList ∧ p.spec = s) ∧
    (∀ p q : Parts, p.Greedy → q.Greedy → p.text = q.text → p = q) ∧
    (∀ s : FormatSpec, parse s.print = .ok s ↔ s.Bounded) ∧
    ∀ (text : String) (s : FormatSpec), parse text = .ok s → s.Bounded :=
  ⟨fun _ _ => parse_eq_ok_iff_parts, fun _ _ => Parts.Greedy.unique, fun _ => parse_print_iff,
    fun _ _ => Bounded.of_parse⟩

/-- A point behind the precision is the type. -/
example : parse "<007.2." = .ok ⟨some .left, some 7, some 2, .text⟩ := by decide

end Stencil.FormatSpec
