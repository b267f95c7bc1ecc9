import Stencil.Text.Ranges

/-!
# Blank characters and trimming

A character is blank when it has the Unicode property `White_Space`: 25 characters, among them the
no-break space and the line separators, but neither the zero-width space nor the byte-order mark.
Trimming drops blanks from both ends of a text and nothing else.
-/

namespace Stencil.Text

/-! ## 1. The class -/

/-- The code points with the property `White_Space`. -/
def blankRanges : Ranges :=
  [(0x09, 0x0D), (0x20, 0x20), (0x85, 0x85), (0xA0, 0xA0), (0x1680, 0x1680), (0x2000, 0x200A),
   (0x2028, 0x2029), (0x202F, 0x202F), (0x205F, 0x205F), (0x3000, 0x3000)]

/-- The character is white space in the sense of Unicode. -/
def isBlank (c : Char) : Bool := blankRanges.contains c

example : (blankRanges.map fun r => r.2 + 1 - r.1).sum = 25 := by decide

/-! ## 2. Trimming -/

/-- The text without the blanks it starts with. -/
def trimLeft (cs : List Char) : List Char := cs.dropWhile isBlank

/-- The text without the blanks it ends with. -/
def trimRight (cs : List Char) : List Char := (cs.reverse.dropWhile isBlank).reverse

/-- The text without the blanks at either end. -/
def trim (cs : List Char) : List Char := trimRight (trimLeft cs)

/-- A text that is all blanks has nothing left, and no other text has. -/
theorem trim_eq_nil_iff {cs : List Char} : trim cs = [] ↔ ∀ c ∈ cs, isBlank c = true := by
  have dropNil : ∀ l : List Char, l.dropWhile isBlank = [] ↔ ∀ c ∈ l, isBlank c = true := by
    intro l
    induction l with
    | nil => simp
    | cons c l ih =>
      cases h : isBlank c with
      | true => simp [h, ih]
      | false => simp [h]
  have suffixBlank : ∀ l : List Char, (∀ c ∈ l.dropWhile isBlank, isBlank c = true) →
      ∀ c ∈ l, isBlank c = true := by
    intro l
    induction l with
    | nil => simp
    | cons c l ih =>
      cases h : isBlank c with
      | true =>
        intro hl x hx
        simp only [List.dropWhile_cons, h, if_true] at hl
        rcases List.mem_cons.mp hx with rfl | hx
        · exact h
        · exact ih hl x hx
      | false => simp [h]
  rw [trim, trimRight, List.reverse_eq_nil_iff, dropNil]
  constructor
  · intro h
    exact suffixBlank cs fun c hc => h c (List.mem_reverse.mpr hc)
  · intro h c hc
    exact h c ((List.dropWhile_sublist isBlank).subset (List.mem_reverse.mp hc))

end Stencil.Text
