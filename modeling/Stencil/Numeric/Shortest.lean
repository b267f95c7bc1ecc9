import Stencil.Numeric.Decimal

/-!
# Shortest digits

The shortest decimal of a binary number is the one with the fewest digits that reads back as the
number, and of those the nearest to it. Everything is decided in exact arithmetic: the numbers that
read back fill an interval around `m · 2^e` that ends half-way to its neighbours, with the ends
included when `m` is even; for one, two, … digits the two neighbours of the number on that decimal
grid are tried, and the first grid with a hit wins. Two hits at the same distance are told apart by
the caller's rule.

A `Layout` says how digits are written: which exponents are spelled out with zeros and how the
others are marked.
-/

namespace Stencil.Numeric

/-! ## 1. The digits -/

/-- Which of two equally near decimals is taken. -/
inductive Tie where
  /-- The greater one. -/
  | up
  /-- The one with the even last digit. -/
  | even
  deriving DecidableEq, Repr

/-- The decimal `0.d₁d₂…dₙ · 10^point`, without zeros at the end. -/
structure Significant where
  digits : List Char
  point : Int
  deriving DecidableEq, Repr

/-- The `k` with `10^(k-1) ≤ num / den < 10^k`, for positive numbers. -/
def decimalPoint (num den : Nat) : Int :=
  if den ≤ num then (digits (num / den)).length
  else
    let j := (digits (den / num)).length
    if num * Nat.pow 10 (j - 1) = den then 2 - (j : Int) else 1 - (j : Int)

/-- An interval of rationals with one denominator. -/
structure Interval where
  low : Nat
  high : Nat
  den : Nat
  closed : Bool

/-- The interval holds `t · 10^u`. -/
def Interval.holds (i : Interval) (t : Nat) (u : Int) : Bool :=
  let num := t * Nat.pow 10 u.toNat * i.den
  let low := i.low * Nat.pow 10 (-u).toNat
  let high := i.high * Nat.pow 10 (-u).toNat
  if i.closed then low ≤ num && num ≤ high else low < num && num < high

/-- The better of the two neighbours `t` and `t + 1` of `num / den` on the grid of `10^u`, among
those that the interval holds. -/
def nearestOnGrid? (tie : Tie) (i : Interval) (num den t : Nat) (u : Int) : Option Nat :=
  match i.holds t u, i.holds (t + 1) u with
  | true, true =>
    let below := 2 * num * Nat.pow 10 (-u).toNat
    let middle := (2 * t + 1) * Nat.pow 10 u.toNat * den
    if below < middle then some t
    else if middle < below then some (t + 1)
    else match tie with
      | .up => some (t + 1)
      | .even => some (t + t % 2)
  | true, false => some t
  | false, true => some (t + 1)
  | false, false => none

/-- Tries the decimal grids from `n` digits on, `fuel` of them. -/
def searchGrids (tie : Tie) (i : Interval) (num den : Nat) (point : Int) :
    (fuel n : Nat) → Nat × Int
  | 0, n => (num * Nat.pow 10 (n - point).toNat / (den * Nat.pow 10 (point - n).toNat), point - n)
  | fuel + 1, n =>
    let u := point - n
    let t := num * Nat.pow 10 (-u).toNat / (den * Nat.pow 10 u.toNat)
    match nearestOnGrid? tie i num den t u with
    | some t => (t, u)
    | none => searchGrids tie i num den point fuel (n + 1)

/-- The digits without the zeros they end in. -/
def dropTrailingZeros (ds : List Char) : List Char := (ds.reverse.dropWhile (· == '0')).reverse

/-- The shortest decimal of `m · 2^e`, for a positive `m` on the grid of the format. Seventeen
digits tell any two 64-bit numbers apart, so no further grid is tried. -/
def shortest (f : Format) (tie : Tie) (m : Nat) (e : Int) : Significant :=
  let num := 4 * m * scaleUp e
  let den := 4 * scaleDown e
  let below := if m = Nat.pow 2 (f.width - 1) ∧ f.least < e then 1 else 2
  let i : Interval := ⟨(4 * m - below) * scaleUp e, (4 * m + 2) * scaleUp e, den, m % 2 == 0⟩
  let (t, u) := searchGrids tie i num den (decimalPoint num den) 17 1
  let ds := digits t
  ⟨dropTrailingZeros ds, ds.length + u⟩

/-! ## 2. Layouts -/

/-- How the shortest digits of a number are written. -/
structure Layout where
  /-- Which of two equally short and near decimals is written. -/
  tie : Tie
  /-- The exponents of the leading digit for which the number is spelled out with zeros. -/
  spelled : Int → Bool
  /-- Whether a positive exponent carries a plus sign. -/
  plus : Bool

/-- An integer with a minus sign when it is negative. -/
def intText (n : Int) : List Char := signText (n < 0) ++ digits n.natAbs

namespace Layout

/-- Digits spelled out: the point stands among them or zeros fill the way to it, and there is
always a digit on either side. -/
def spell (s : Significant) : List Char :=
  if s.point ≤ 0 then '0' :: '.' :: (List.replicate (-s.point).toNat '0' ++ s.digits)
  else
    let p := s.point.toNat
    if s.digits.length ≤ p then
      s.digits ++ List.replicate (p - s.digits.length) '0' ++ ['.', '0']
    else s.digits.take p ++ '.' :: s.digits.drop p

/-- Digits with an exponent: a point after the first digit when there are more. -/
def withExponent (plus : Bool) (s : Significant) : List Char :=
  let x := s.point - 1
  let mantissa := match s.digits with
    | [] => ['0']
    | [d] => [d]
    | d :: ds => d :: '.' :: ds
  mantissa ++ 'e' :: ((if plus && 0 ≤ x then ['+'] else []) ++ intText x)

/-- The text of a positive decimal. -/
def decimalText (l : Layout) (s : Significant) : List Char :=
  if l.spelled (s.point - 1) then spell s else withExponent l.plus s

/-- The text of a number. -/
def text {f : Format} (l : Layout) : Binary f → List Char
  | .nan => ['N', 'a', 'N']
  | .infinite negative => signText negative ++ ['i', 'n', 'f']
  | .finite negative m e _ =>
    signText negative ++
      if m = 0 then ['0', '.', '0'] else l.decimalText (shortest f l.tie m e)

end Layout

end Stencil.Numeric
