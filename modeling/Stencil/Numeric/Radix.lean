/-!
# Digits in other bases

Digits of the bases up to sixteen, in either case of the letters, and rows of them.
-/

namespace Stencil.Numeric

/-- The value of a digit in a base of at most sixteen. -/
def digitValue? (base : Nat) (c : Char) : Option Nat :=
  let value? :=
    if c.isDigit then some (c.toNat - '0'.toNat)
    else if 'a' ≤ c ∧ c ≤ 'f' then some (c.toNat - 'a'.toNat + 10)
    else if 'A' ≤ c ∧ c ≤ 'F' then some (c.toNat - 'A'.toNat + 10)
    else none
  value?.filter (· < base)

/-- The value of a row of digits behind digits of the value `n`. -/
def extendNatural? (base : Nat) : Nat → List Char → Option Nat
  | n, [] => some n
  | n, c :: cs => match digitValue? base c with
    | some d => extendNatural? base (base * n + d) cs
    | none => none

/-- The value of a row of digits, of which there is at least one. -/
def naturalOf? (base : Nat) : List Char → Option Nat
  | [] => none
  | cs => extendNatural? base 0 cs

/-- The character with a code point, if there is one. -/
def charOfCode? (n : Nat) : Option Char := if n.isValidChar then some (Char.ofNat n) else none

end Stencil.Numeric
