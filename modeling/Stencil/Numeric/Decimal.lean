import Stencil.Numeric.Binary

/-!
# Decimals

Digits of a number in base ten, reading a decimal as a binary number, and writing a binary number
with a fixed number of places. A decimal is read exactly and rounded once; a number is written
from its exact expansion, rounded to the last place with a half going to the even digit.
-/

namespace Stencil.Numeric

/-! ## 1. Digits -/

/-- The value of a run of decimal digits. -/
def ofDigits (cs : List Char) : Nat := cs.foldl (fun n c => 10 * n + (c.toNat - '0'.toNat)) 0

/-- The decimal digits of a number. -/
def digits (n : Nat) : List Char := Nat.toDigits 10 n

/-- The last `places` decimal digits of a number, in front of `after`. -/
def placesBefore : Nat → Nat → List Char → List Char
  | 0, _, after => after
  | places + 1, n, after => placesBefore places (n / 10) (Nat.digitChar (n % 10) :: after)

/-- The last `places` decimal digits of a number, zeros in front included. -/
def lastDigits (places n : Nat) : List Char := placesBefore places n []

theorem length_placesBefore (places n : Nat) (after : List Char) :
    (placesBefore places n after).length = places + after.length := by
  induction places generalizing n after with
  | zero => simp [placesBefore]
  | succ k ih => rw [placesBefore, ih, List.length_cons]; omega

@[simp] theorem length_lastDigits (places n : Nat) : (lastDigits places n).length = places := by
  simp [lastDigits, length_placesBefore]

/-- A minus sign for negative numbers. -/
def signText (negative : Bool) : List Char := if negative then ['-'] else []

/-! ## 2. Fixed places -/

/-- A number with exactly `precision` decimal places, rounded from its exact value. A number on
the grid of `2^e` has at most `-e` places, so any further ones are zeros. -/
def fixedText {f : Format} (precision : Nat) : Binary f → List Char
  | .nan => ['N', 'a', 'N']
  | .infinite negative => signText negative ++ ['i', 'n', 'f']
  | .finite negative m e _ =>
    let places := min precision (-e).toNat
    let unit := Nat.pow 10 places
    let n := roundQuotient (m * scaleUp e * unit) (scaleDown e)
    signText negative ++ digits (n / unit) ++
      if precision = 0 then []
      else '.' :: (lastDigits places (n % unit) ++ List.replicate (precision - places) '0')

/-! ## 3. Reading -/

/-- A decimal as it is written: digits before and after the point and a power of ten. -/
structure Decimal where
  negative : Bool
  whole : List Char
  places : List Char
  exponent : Int
  deriving DecidableEq, Repr

namespace Decimal

/-- Reads a sign; none is a plus. -/
def readSign : List Char → Bool × List Char
  | '-' :: cs => (true, cs)
  | '+' :: cs => (false, cs)
  | cs => (false, cs)

/-- Reads what follows the digits: nothing, or `e` with an optional sign and digits. -/
def readExponent? : List Char → Option Int
  | [] => some 0
  | c :: cs =>
    if c = 'e' ∨ c = 'E' then
      let (negative, ds) := readSign cs
      if ds.isEmpty || !ds.all Char.isDigit then none
      else some (if negative then -(ofDigits ds : Int) else ofDigits ds)
    else none

/-- Reads a decimal: an optional sign, digits with an optional point among or around them, and an
optional exponent. -/
def read? (cs : List Char) : Option Decimal :=
  let (negative, cs) := readSign cs
  let whole := cs.takeWhile Char.isDigit
  let cs := cs.dropWhile Char.isDigit
  let (places, cs) := match cs with
    | '.' :: rest => (rest.takeWhile Char.isDigit, rest.dropWhile Char.isDigit)
    | _ => ([], cs)
  if whole.isEmpty && places.isEmpty then none
  else (readExponent? cs).map (⟨negative, whole, places, ·⟩)

/-- The number of a format nearest to the decimal. Digits and exponents so far out that no format
of at most eleven exponent bits reaches them are settled without raising ten to them. -/
def toBinary {f : Format} (d : Decimal) : Binary f :=
  let n := ofDigits (d.whole ++ d.places)
  let e := d.exponent - (d.places.length : Int)
  let magnitude : Int := ((digits n).length : Int) + e
  if n = 0 ∨ magnitude < -400 then .zero d.negative
  else if 400 < magnitude then .infinite d.negative
  else .ofQuotient d.negative (n * Nat.pow 10 e.toNat) (Nat.pow 10 (-e).toNat)

end Decimal

/-- Reads a number of a format: `inf`, `infinity` and `nan` in any case and with any sign, or a
decimal. -/
def Binary.read? {f : Format} (cs : List Char) : Option (Binary f) :=
  let (negative, body) := Decimal.readSign cs
  let word := String.ofList (body.map Char.toLower)
  if word = "inf" ∨ word = "infinity" then some (.infinite negative)
  else if word = "nan" then some .nan
  else (Decimal.read? cs).map Decimal.toBinary

end Stencil.Numeric
