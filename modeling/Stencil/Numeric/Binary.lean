import Stencil.Numeric.Rounding

/-!
# Binary floating-point numbers

A format fixes how many bits a significand has and which exponents it may take; the finite numbers
of a format are `± m · 2^e` with `(m, e)` on its grid. Zero has a sign. `Binary.ofQuotient` gives
the number of a format nearest to a quotient of naturals, a half going to the even significand, so
every number of this library that comes from a decimal or an integer is rounded once.

Two formats are used: `double`, with 53 bits, and `single`, with 24.
-/

namespace Stencil.Numeric

/-! ## 1. Formats -/

/-- The size of a binary format. -/
structure Format where
  /-- The bits of a significand, at least one. -/
  width : Nat
  /-- The exponent of the finest grid, on which the numbers next to zero lie. -/
  least : Int
  /-- The exponent of the coarsest grid. -/
  greatest : Int
  deriving DecidableEq, Repr

namespace Format

/-- 64-bit numbers. -/
def double : Format := ⟨53, -1074, 971⟩

/-- 32-bit numbers. -/
def single : Format := ⟨24, -149, 104⟩

/-- The pair stands for a number of the format, written with as many bits as it has unless it lies
on the finest grid; so each number has one pair. -/
def OnGrid (f : Format) (m : Nat) (e : Int) : Prop :=
  m < Nat.pow 2 f.width ∧ f.least ≤ e ∧ e ≤ f.greatest ∧
    (Nat.pow 2 (f.width - 1) ≤ m ∨ e = f.least)

instance (f : Format) (m : Nat) (e : Int) : Decidable (f.OnGrid m e) := by
  unfold OnGrid
  infer_instance

end Format

/-! ## 2. Numbers -/

/-- A number of a format: not a number at all, an infinity, or `± m · 2^e`. -/
inductive Binary (f : Format) where
  | nan
  | infinite (negative : Bool)
  | finite (negative : Bool) (m : Nat) (e : Int) (grid : f.OnGrid m e)
  deriving DecidableEq

/-- A 64-bit floating-point number. -/
abbrev Double := Binary .double

/-- A 32-bit floating-point number. -/
abbrev Single := Binary .single

/-- `2^e` for a non-negative exponent and one for a negative one. -/
def scaleUp (e : Int) : Nat := Nat.pow 2 e.toNat

/-- `2^-e` for a negative exponent and one for a non-negative one. -/
def scaleDown (e : Int) : Nat := Nat.pow 2 (-e).toNat

/-- The greatest `k` with `2^k ≤ num / den`, for positive numbers. -/
def logQuotient (num den : Nat) : Int :=
  let k : Int := (num.log2 : Int) - (den.log2 : Int)
  if num * scaleDown k < den * scaleUp k then k - 1 else k

namespace Binary

variable {f : Format}

/-- Zero with a sign. -/
def zero (negative : Bool) : Binary f :=
  if h : f.OnGrid 0 f.least then .finite negative 0 f.least h else .nan

/-- The number of the format nearest to `num / den`, with the given sign; a quotient beyond the
last grid is infinite. -/
def ofQuotient (negative : Bool) (num den : Nat) : Binary f :=
  if num = 0 then zero negative else
  let e := max f.least (logQuotient num den - (f.width - 1 : Nat))
  let m := roundQuotient (num * scaleDown e) (den * scaleUp e)
  let (m, e) := if m = Nat.pow 2 f.width then (m / 2, e + 1) else (m, e)
  if h : f.OnGrid m e then .finite negative m e h else .infinite negative

/-- The number nearest to an integer. -/
def ofInt (n : Int) : Binary f := ofQuotient (n < 0) n.natAbs 1

/-- The same number in a wider format. -/
def widen {g : Format} : Binary f → Binary g
  | .nan => .nan
  | .infinite negative => .infinite negative
  | .finite negative m e _ => ofQuotient negative (m * scaleUp e) (scaleDown e)

/-- The number a 64-bit pattern stands for: a sign bit, eleven bits of exponent, and the bits of
the significand below its leading one. -/
def ofBits (bits : UInt64) : Double :=
  let negative := bits >>> 63 == 1
  let field := (bits >>> 52 &&& 0x7FF).toNat
  let fraction := (bits &&& 0xFFFFFFFFFFFFF).toNat
  if field = 0x7FF then if fraction = 0 then .infinite negative else .nan
  else
    let (m, e) : Nat × Int := if field = 0 then (fraction, -1074)
      else (fraction + Nat.pow 2 52, (field : Int) - 1075)
    if h : Format.double.OnGrid m e then .finite negative m e h else .nan

/-- The number is neither infinite nor not a number. -/
def isFinite : Binary f → Bool
  | .finite .. => true
  | _ => false

/-- Equality of numbers: the two zeros are equal, and what is not a number equals nothing. -/
def equals : Binary f → Binary f → Bool
  | .infinite s, .infinite t => s == t
  | .finite s m e _, .finite t n d _ => (m == 0 && n == 0) || (s == t && m == n && e == d)
  | _, _ => false

end Binary

end Stencil.Numeric
