import Stencil.Numeric.Shortest

/-!
# Numbers in values

A number keeps the kind of its source: signed and unsigned integers of 64 bits and 64-bit
floating-point numbers are told apart, also where their values agree. The text of an integer is its
decimal form; a floating-point number is shown with its shortest digits and always keeps a
fractional part or an exponent, so it never looks like an integer.
-/

namespace Stencil

open Numeric

/-- A number of a value. -/
inductive Number where
  /-- A signed integer. -/
  | signed (n : Int64)
  /-- An unsigned integer. -/
  | unsigned (n : UInt64)
  /-- A floating-point number. -/
  | float (x : Double)
  deriving DecidableEq

namespace Number

/-- Floating-point numbers are shown in full from `10^-4` up to below `10^16`, otherwise with an
exponent; a plus sign is never written. -/
def displayLayout : Layout := ⟨.up, fun x => -4 ≤ x && x ≤ 15, false⟩

/-- In documents floating-point numbers are written in full from `10^-5` up to below `10^16`,
otherwise with a signed exponent. -/
def documentLayout : Layout := ⟨.even, fun x => -5 ≤ x && x ≤ 15, true⟩

/-- The integer a number is, if it is one. -/
def integer? : Number → Option Int
  | signed n => some n.toInt
  | unsigned n => some n.toNat
  | float _ => none

/-- The number is one of the integers. -/
def isInteger (n : Number) : Bool := n.integer?.isSome

/-- The nearest floating-point number. -/
def toDouble : Number → Double
  | signed n => .ofInt n.toInt
  | unsigned n => .ofInt n.toNat
  | float x => x

/-- The text of a number in a layout for the floating-point ones. -/
def textIn (l : Layout) : Number → String
  | signed n => String.ofList (intText n.toInt)
  | unsigned n => String.ofList (digits n.toNat)
  | float x => String.ofList (l.text x)

/-- The text of a number. -/
def text : Number → String := textIn displayLayout

/-- Equality of numbers: within one kind, and for floating-point numbers as numbers. -/
def equals : Number → Number → Bool
  | signed a, signed b => a == b
  | unsigned a, unsigned b => a == b
  | float a, float b => a.equals b
  | _, _ => false

/-- The number that holds an integer: signed when it fits, else unsigned, else none. -/
def ofInt? (n : Int) : Option Number :=
  if -0x8000000000000000 ≤ n ∧ n < 0x8000000000000000 then some (signed (Int64.ofInt n))
  else if 0 ≤ n ∧ n < 0x10000000000000000 then some (unsigned (UInt64.ofNat n.toNat))
  else none

/-- The number that holds an integer is that integer. -/
theorem integer?_of_ofInt? {i : Int} {n : Number} (h : ofInt? i = some n) : n.integer? = some i := by
  unfold ofInt? at h
  split at h
  · rename_i fits
    cases h
    rw [integer?, Int64.toInt_ofInt_of_le fits.1 fits.2]
  · split at h
    · rename_i fits
      cases h
      have small : i.toNat < 2 ^ 64 := by omega
      rw [integer?, UInt64.toNat_ofNat_of_lt' small, Int.toNat_of_nonneg fits.1]
    · cases h

/-- An integer has a number if it is within the bounds of either kind. -/
theorem isSome_ofInt?_iff {i : Int} :
    (ofInt? i).isSome = true ↔ -0x8000000000000000 ≤ i ∧ i < 0x10000000000000000 := by
  unfold ofInt?
  split
  · exact iff_of_true rfl (by omega)
  · split
    · exact iff_of_true rfl (by omega)
    · exact iff_of_false Bool.false_ne_true (by omega)

end Number

end Stencil
