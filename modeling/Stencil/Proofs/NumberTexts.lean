import Stencil.Proofs.FloatTexts
import Stencil.Value.Document
import Stencil.Value.Integer
import Stencil.Document.Datum

/-!
# Texts of numbers

The text of an integer is its canonical decimal form, whatever kind of number holds it. The text of a
floating-point number is its shortest decimal, and is never that of an integer.

* `toList_text_integer`: the text of an integer, signed or not;
* `floatText_stands_out`: a floating-point number is written with a character that no integer has;
* `number_texts`: what the texts of numbers say of them.
-/

namespace Stencil

open Numeric

/-- Signed and unsigned numbers that are one integer have one text. -/
theorem Number.toList_text_integer {x : Number} {n : ℤ} (whole : x.integer? = some n) :
    x.text.toList = intText n := by
  cases x with
  | signed i =>
    obtain rfl := Option.some.inj whole
    exact String.toList_ofList
  | unsigned i =>
    obtain rfl := Option.some.inj whole
    rw [intText_natCast]
    exact String.toList_ofList
  | float x => cases whole

/-- **A floating-point number is written with a point, an exponent or a word.** -/
theorem floatText_stands_out {x : Double} {cs : List Char} (written : FloatText x cs) :
    ∃ c ∈ cs, c.isDigit = false ∧ c ≠ '-' := by
  cases written with
  | nan => exact ⟨'N', by simp, rfl, by decide⟩
  | infinite negative => exact ⟨'i', by simp, rfl, by decide⟩
  | zero => exact ⟨'.', by simp, rfl, by decide⟩
  | plain => exact ⟨'.', by simp, rfl, by decide⟩
  | exponent => exact ⟨'e', by simp, rfl, by decide⟩

/-- An integer is written with digits and a minus sign only. -/
theorem digit_or_minus_of_mem_intText {n : ℤ} {c : Char} (mem : c ∈ intText n) :
    c.isDigit = true ∨ c = '-' := by
  rw [intText, signText] at mem
  rcases List.mem_append.mp mem with sign | digit
  · split at sign
    · exact .inr (List.mem_singleton.mp sign)
    · cases sign
  · exact .inl (FormatSpec.isDigit_of_mem_digits digit)

theorem float_text_ne_integer (x : Double) {y : Number} {n : ℤ} (whole : y.integer? = some n) :
    (Number.float x).text ≠ y.text := by
  intro same
  obtain ⟨c, mem, undigital, other⟩ := floatText_stands_out (floatText_text x)
  have written : (Number.float x).text.toList = Number.displayLayout.text x := String.toList_ofList
  rw [← written, same, Number.toList_text_integer whole] at mem
  rcases digit_or_minus_of_mem_intText mem with digit | minus
  · cases undigital.symm.trans digit
  · exact other minus

/-- Within the bounds of 64 bits, signed or not, data has a document for an integer, whose value is the
number that is that integer. -/
theorem exists_number_of_datum {n : ℤ} (low : -2 ^ 63 ≤ n) (high : n < 2 ^ 64) :
    ∃ (d : Document) (x : Number), (Datum.integer n).toDocument = .ok d ∧
      (∀ identity, Value.ofDocument identity d = .number x) ∧ x.integer? = some n := by
  obtain ⟨x, held⟩ := Option.isSome_iff_exists.mp (Number.isSome_ofInt?_iff.mpr ⟨low, high⟩)
  refine ⟨.number x, x, ?_, fun identity => ?_, Number.integer?_of_ofInt? held⟩
  · rw [Datum.toDocument, Document.ofInt?, held]
    rfl
  · rw [Value.ofDocument]

/-- **The text of a number says which integer it is, or that it is none.** Numbers that are integers have
one text if and only if they are one integer, whatever kinds hold them, and the text is the canonical
decimal form. This holds of the integers of a program, whatever their sizes, and of those of data: each
becomes a number that is the same integer. Each floating-point number, finite or not, has a text that it
is read back from, which is no text of an integer. -/
theorem number_texts :
    (∀ (x y : Number) (m n : ℤ), x.integer? = some m → y.integer? = some n →
      (x.text = y.text ↔ m = n)) ∧
    (∀ (x : Number) (n : ℤ), x.integer? = some n → IntegerText n x.text.toList) ∧
    (∀ i : ProgramInteger, i.number.integer? = some i.value) ∧
    (∀ n : ℤ, -2 ^ 63 ≤ n → n < 2 ^ 64 → ∃ (d : Document) (x : Number),
      (Datum.integer n).toDocument = .ok d ∧
      (∀ identity, Value.ofDocument identity d = .number x) ∧ x.integer? = some n) ∧
    ∀ x : Double, FloatText x (Number.float x).text.toList ∧
      Binary.read? (Number.float x).text.toList = some x ∧
      ∀ (y : Number) (n : ℤ), y.integer? = some n → (Number.float x).text ≠ y.text := by
  refine ⟨fun x y m n whole whole' => ?_, fun x n whole => ?_, ProgramInteger.integer?_number,
    fun n low high => exists_number_of_datum low high, fun x => ?_⟩
  · rw [← String.toList_inj, Number.toList_text_integer whole, Number.toList_text_integer whole',
      intText_inj]
  · rw [Number.toList_text_integer whole]
    exact integerText_iff.mpr rfl
  · have written : (Number.float x).text.toList = Number.displayLayout.text x := String.toList_ofList
    rw [written]
    exact ⟨floatText_text x, read?_of_floatText (floatText_text x),
      fun y n whole => float_text_ne_integer x whole⟩

/-- Where all bits are set the kind makes the integer, and the floating-point number next to it has a
text of its own. -/
theorem number_texts_greatest :
    (Number.unsigned 0xFFFFFFFFFFFFFFFF).integer? = some 18446744073709551615 ∧
    (Number.signed (-1)).integer? = some (-1) ∧
    (Number.unsigned 0xFFFFFFFFFFFFFFFF).text ≠ (Number.signed (-1)).text ∧
    (Number.signed 7).text = (Number.unsigned 7).text ∧
    (Number.float (.ofInt 18446744073709551615)).text = "1.8446744073709552e19" ∧
    (Number.float (.ofInt 18446744073709551615)).text ≠ (Number.unsigned 0xFFFFFFFFFFFFFFFF).text := by
  obtain ⟨integers, -, -, -, floats⟩ := number_texts
  obtain ⟨-, -, apart⟩ := floats (.ofInt 18446744073709551615)
  refine ⟨rfl, rfl, fun same => ?_, (integers _ _ 7 7 rfl rfl).mpr rfl, by decide, apart _ _ rfl⟩
  exact absurd ((integers _ _ 18446744073709551615 (-1) rfl rfl).mp same) (by decide)

end Stencil
