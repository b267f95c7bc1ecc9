/-!
# Identifiers of a template

The names a template can spell are the ASCII identifiers: a letter or an underscore, then letters,
digits and underscores. `getterName` is the conventional name of the method that reads a field.
-/

namespace Stencil.Text

/-- A character that may begin an identifier. -/
def isNameStart (c : Char) : Bool := c.isAlpha || c == '_'

/-- A character that may go on an identifier. -/
def isNameChar (c : Char) : Bool := c.isAlphanum || c == '_'

/-- The text is an identifier: `[A-Za-z_][A-Za-z0-9_]*`. -/
def isIdentifier : List Char → Bool
  | [] => false
  | c :: cs => isNameStart c && cs.all isNameChar

/-- The getter of a field: `get` and the name with its first letter as an ASCII capital. -/
def getterName : List Char → List Char
  | [] => ['g', 'e', 't']
  | c :: cs => 'g' :: 'e' :: 't' :: c.toUpper :: cs

theorem isNameChar_of_isNameStart {c : Char} (h : isNameStart c = true) : isNameChar c = true := by
  simp only [isNameStart, isNameChar, Char.isAlphanum, Bool.or_eq_true] at h ⊢
  rcases h with h | h
  · exact .inl (.inl h)
  · exact .inr h

/-- An identifier holds name characters only. -/
theorem isNameChar_of_mem {cs : List Char} (h : isIdentifier cs = true) :
    ∀ c ∈ cs, isNameChar c = true := by
  cases cs with
  | nil => simp
  | cons c cs =>
    simp only [isIdentifier, Bool.and_eq_true, List.all_eq_true] at h
    intro x hx
    rcases List.mem_cons.mp hx with rfl | hx
    · exact isNameChar_of_isNameStart h.1
    · exact h.2 x hx

/-- A capital may begin an identifier where the letter may. -/
theorem isNameStart_toUpper {c : Char} (h : isNameStart c = true) :
    isNameStart c.toUpper = true := by
  unfold Char.toUpper
  split
  · rename_i lower
    have lower : 97 ≤ c.val.toNat ∧ c.val.toNat ≤ 122 := lower
    have upper : (c.val + ('A'.val - 'a'.val)).toNat = c.val.toNat - 32 := by
      rw [UInt32.toNat_add]
      show (c.val.toNat + 4294967264) % 2 ^ 32 = _
      omega
    have capital : 65 ≤ c.val + ('A'.val - 'a'.val) ∧ c.val + ('A'.val - 'a'.val) ≤ 90 := by
      rw [UInt32.le_iff_toNat_le, UInt32.le_iff_toNat_le, upper]
      show 65 ≤ _ ∧ _ ≤ 90
      omega
    have decided := decide_eq_true capital
    exact Bool.or_eq_true_iff.mpr (Or.inl (Bool.or_eq_true_iff.mpr (Or.inl decided)))
  · exact h

/-- The getter of an identifier is an identifier. -/
theorem isIdentifier_getterName {cs : List Char} (h : isIdentifier cs = true) :
    isIdentifier (getterName cs) = true := by
  cases cs with
  | nil => cases h
  | cons c cs =>
    simp only [isIdentifier, Bool.and_eq_true] at h
    have capital := isNameChar_of_isNameStart (isNameStart_toUpper h.1)
    simp only [getterName, isIdentifier, List.all_cons, capital, h.2]
    decide

end Stencil.Text
