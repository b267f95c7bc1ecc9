import Stencil.Proofs.Layout
import Stencil.Proofs.NearestNumbers

/-!
# Whole numbers

An integer is written in its canonical decimal form. With fixed places it is written as the nearest
floating-point number, which is an integer too, and zeros behind a point.

* `IntegerText`: the canonical decimal form. Each integer has one and no two have the same
  (`integerText_iff`, `intText_inj`);
* `fixedText_whole`: a floating-point number that is whole, with fixed places;
* `integer_places`: an integer of 64 bits with fixed places.
-/

namespace Stencil.Numeric

/-! ## 1. Canonical decimals -/

/-- The digits of a positive number do not start with a zero. -/
theorem exists_leading {n : ℕ} (positive : 0 < n) : ∃ d ds, digits n = d :: ds ∧ d ≠ '0' := by
  induction n using Nat.strong_induction_on with
  | h n ih =>
    have written : digits n = if n < 10 then [n.digitChar] else digits (n / 10) ++ [(n % 10).digitChar] :=
      Nat.toDigits_eq_if (by decide)
    by_cases small : n < 10
    · rw [if_pos small] at written
      refine ⟨_, [], written, fun zero => ?_⟩
      have value := ofDigits_digitChar small
      rw [zero] at value
      exact absurd value.symm positive.ne'
    · rw [if_neg small] at written
      obtain ⟨d, ds, front, nonzero⟩ := ih (n / 10) (by omega) (by omega)
      rw [front, List.cons_append] at written
      exact ⟨d, _, written, nonzero⟩

theorem ofDigits_pos {d : Char} {ds : List Char} (digital : d.isDigit = true) (leading : d ≠ '0') :
    0 < ofDigits (d :: ds) := by
  obtain ⟨k, small, rfl⟩ := exists_digitChar digital
  have value := ofDigits_append [k.digitChar] ds
  rw [List.singleton_append, ofDigits_digitChar small] at value
  have nonzero : k ≠ 0 := fun zero => leading (congrArg Nat.digitChar zero)
  have first : 0 < k * 10 ^ ds.length :=
    Nat.mul_pos (Nat.pos_of_ne_zero nonzero) (Nat.pow_pos (by decide))
  omega

/-- **A run of digits that does not start with a zero is the digits of what it stands for.** -/
theorem digits_ofDigits {d : Char} {ds : List Char} (digital : ∀ c ∈ d :: ds, c.isDigit = true)
    (leading : d ≠ '0') : digits (ofDigits (d :: ds)) = d :: ds := by
  induction ds using List.reverseRecOn with
  | nil =>
    obtain ⟨k, small, rfl⟩ := exists_digitChar (digital d (List.mem_singleton_self d))
    rw [ofDigits_digitChar small]
    exact Nat.toDigits_of_lt_base small
  | append_singleton ds c ih =>
    rw [← List.cons_append] at digital ⊢
    obtain ⟨front, last⟩ := List.forall_mem_append.mp digital
    obtain ⟨k, small, rfl⟩ := exists_digitChar (last c (List.mem_singleton_self c))
    have positive : 0 < ofDigits (d :: ds) := ofDigits_pos (front d List.mem_cons_self) leading
    have value : ofDigits (d :: ds ++ [k.digitChar]) = 10 * ofDigits (d :: ds) + k := by
      rw [ofDigits_append, ofDigits_digitChar small, List.length_singleton]
      ring
    calc digits (ofDigits (d :: ds ++ [k.digitChar]))
      _ = digits (10 * ofDigits (d :: ds) + k) := by rw [value]
      _ = digits (ofDigits (d :: ds)) ++ digits k :=
        (Nat.toDigits_append_toDigits (by decide) positive small).symm
      _ = d :: ds ++ [k.digitChar] := by
        rw [ih front]
        exact congrArg _ (Nat.toDigits_of_lt_base small)

/-- The canonical decimal form of an integer: a single zero, or a run of digits that does not start
with one, behind a minus sign where the integer is negative. -/
inductive IntegerText : ℤ → List Char → Prop where
  | zero : IntegerText 0 ['0']
  | positive {d : Char} {ds : List Char} (digital : ∀ c ∈ d :: ds, c.isDigit = true)
      (leading : d ≠ '0') : IntegerText (ofDigits (d :: ds)) (d :: ds)
  | negative {d : Char} {ds : List Char} (digital : ∀ c ∈ d :: ds, c.isDigit = true)
      (leading : d ≠ '0') : IntegerText (-ofDigits (d :: ds)) ('-' :: d :: ds)

theorem intText_natCast (k : ℕ) : intText k = digits k := by
  rw [intText, decide_eq_false (by omega), Int.natAbs_natCast]
  rfl

theorem intText_neg_natCast {k : ℕ} (positive : 0 < k) : intText (-k) = '-' :: digits k := by
  rw [intText, decide_eq_true (by omega), Int.natAbs_neg, Int.natAbs_natCast]
  rfl

/-- **Each integer has one canonical form, the one that is written.** -/
theorem integerText_iff {n : ℤ} {cs : List Char} : IntegerText n cs ↔ cs = intText n := by
  constructor
  · intro written
    cases written with
    | zero => rfl
    | positive digital leading => rw [intText_natCast, digits_ofDigits digital leading]
    | @negative d ds digital leading =>
      rw [intText_neg_natCast (ofDigits_pos (digital d List.mem_cons_self) leading),
        digits_ofDigits digital leading]
  · intro same
    rw [same]
    have digital : ∀ {k : ℕ} {d ds}, digits k = d :: ds → ∀ c ∈ d :: ds, c.isDigit = true :=
      fun front c mem => FormatSpec.isDigit_of_mem_digits (front ▸ mem)
    obtain ⟨k, rfl | rfl⟩ := n.eq_nat_or_neg
    · obtain rfl | positive := Nat.eq_zero_or_pos k
      · exact .zero
      · obtain ⟨d, ds, front, leading⟩ := exists_leading positive
        have written := IntegerText.positive (digital front) leading
        rwa [← front, FormatSpec.ofDigits_digits, ← intText_natCast] at written
    · obtain rfl | positive := Nat.eq_zero_or_pos k
      · exact .zero
      · obtain ⟨d, ds, front, leading⟩ := exists_leading positive
        have written := IntegerText.negative (digital front) leading
        rwa [← front, FormatSpec.ofDigits_digits, ← intText_neg_natCast positive] at written

theorem minus_mem_intText_iff {n : ℤ} : '-' ∈ intText n ↔ n < 0 := by
  have undigital : '-' ∉ digits n.natAbs := fun mem => by
    cases FormatSpec.isDigit_of_mem_digits mem
  rw [intText, List.mem_append, or_iff_left undigital]
  by_cases negative : n < 0
  · simp [signText, negative]
  · simp [signText, negative]

/-- **No two integers have the same form.** -/
theorem intText_inj {m n : ℤ} : intText m = intText n ↔ m = n := by
  refine ⟨fun same => ?_, congrArg intText⟩
  have sign : m < 0 ↔ n < 0 := by rw [← minus_mem_intText_iff, same, minus_mem_intText_iff]
  have front : decide (m < 0) = decide (n < 0) := decide_eq_decide.mpr sign
  rw [intText, intText, front] at same
  have size := congrArg ofDigits (List.append_cancel_left same)
  rw [FormatSpec.ofDigits_digits, FormatSpec.ofDigits_digits] at size
  omega

end Stencil.Numeric

namespace Stencil

open Numeric

/-! ## 2. Whole numbers with fixed places -/

/-- The fraction of an integer with fixed places. -/
def zerosText (places : ℕ) : List Char :=
  if places = 0 then [] else '.' :: List.replicate places '0'

/-- **A floating-point number that is whole is written with all its digits**, and its places are zeros. -/
theorem fixedText_whole {f : Format} (places : ℕ) {negative : Bool} {m n : ℕ} {e : ℤ}
    {grid : f.OnGrid m e} (whole : (m * 2 ^ e : ℚ) = n) :
    fixedText places (.finite negative m e grid) =
      signText negative ++ digits n ++ zerosText places := by
  have scaled : m * scaleUp e = n * scaleDown e := by
    have scaled : (m * scaleUp e : ℚ) = n * scaleDown e := by
      rw [← two_zpow_eq, ← whole]
      ring
    exact_mod_cast scaled
  have rounded : roundQuotient (m * scaleUp e * 10 ^ places) (scaleDown e) = n * 10 ^ places := by
    refine roundQuotient_of_eq (scaleDown_pos e) ?_
    rw [scaled]
    ring
  have written := placesText_zeros 0 places n
  rw [Nat.zero_add, Nat.pow_zero, Nat.div_one] at written
  rw [fixedText_eq, rounded, written, List.append_assoc]
  rfl

/-- A precision within the bounds and an `f` are a specification. -/
theorem spelledBy_fixed {p : ℕ} (small : p ≤ 65535) :
    (⟨none, none, some p, .fixed⟩ : FormatSpec).SpelledBy s!".{p}f" := by
  have written : s!".{p}f" = FormatSpec.print ⟨none, none, some p, .fixed⟩ := by
    apply String.toList_inj.mp
    simp [FormatSpec.print, FormatSpec.alignText, FormatSpec.kindText, digits, toString]
  rw [FormatSpec.spelledBy_iff, written, FormatSpec.parse_print_iff]
  refine ⟨fun _ width => ?_, fun _ precision => ?_, fun width => ?_⟩
  · cases width
  · cases precision
    exact small
  · cases width

theorem applyFormat_fixed {p : ℕ} (small : p ≤ 65535) (x : Number) :
    applyFormat (.number x) s!".{p}f" = .ok (String.ofList (fixedText p x.toDouble)) :=
  (applyFormat_eq_ok_iff rfl).mpr
    ⟨_, _, spelledBy_fixed small, .fixed x rfl (fixedText_iff.mpr rfl), rfl⟩

/-- With a `d` an integer is written as it is. -/
theorem applyFormat_integer {x : Number} {n : ℤ} (whole : x.integer? = some n) :
    applyFormat (.number x) "d" = .ok (toString n) := by
  have spelled : (⟨none, none, none, .integer⟩ : FormatSpec).SpelledBy "d" :=
    FormatSpec.spelledBy_iff.mpr rfl
  refine (applyFormat_eq_ok_iff rfl).mpr ⟨_, (toString n).toList, spelled, ?_, ?_⟩
  · cases x with
    | signed i =>
      obtain rfl := Option.some.inj whole
      exact .signed i rfl
    | unsigned i =>
      obtain rfl := Option.some.inj whole
      exact .unsigned i rfl
    | float x => cases whole
  · exact String.ofList_toList.symm

/-- Integers of numbers have 64 bits. -/
theorem natAbs_integer {x : Number} {n : ℤ} (whole : x.integer? = some n) :
    n.natAbs ≤ 2 ^ 64 := by
  cases x with
  | signed i =>
    obtain rfl := Option.some.inj whole
    have low := i.le_toInt
    have high := i.toInt_lt
    omega
  | unsigned i =>
    obtain rfl := Option.some.inj whole
    have high := i.toNat_lt
    omega
  | float x => cases whole

theorem toDouble_integer {x : Number} {n : ℤ} (whole : x.integer? = some n) :
    x.toDouble = .ofInt n := by
  cases x with
  | signed i | unsigned i =>
    obtain rfl := Option.some.inj whole
    rfl
  | float x => cases whole

/-- **An integer with fixed places is the nearest floating-point number.** For each integer of 64 bits,
signed or not, there is one rational that the nearest floating-point numbers stand for, and it is an
integer `k`; of two that are equally near it is the one with the even significand. With so many places
the integer is written as all digits of `k`, a point and so many zeros, never shorter and never with an
exponent. This is its own text with the zeros if and only if a floating-point number stands for the
integer itself, as one does up to `2^53`; else `k` is another integer. -/
theorem integer_places {x : Number} {n : ℤ} (whole : x.integer? = some n) {p : ℕ}
    (small : p ≤ 65535) :
    ∃ k : ℤ, (∃ y : Double, y.NearestTo n k) ∧ (∀ (y : Double) (v : ℚ), y.NearestTo n v → v = k) ∧
      applyFormat (.number x) "d" = .ok (toString n) ∧
      applyFormat (.number x) s!".{p}f" = .ok (toString k ++ String.ofList (zerosText p)) ∧
      (applyFormat (.number x) s!".{p}f" = .ok (toString n ++ String.ofList (zerosText p)) ↔
        ∃ y : Double, y.value? = some (n : ℚ)) ∧
      (n.natAbs ≤ 2 ^ 53 → ∃ y : Double, y.value? = some (n : ℚ)) ∧
      ((¬ ∃ y : Double, y.value? = some (n : ℚ)) → k ≠ n) := by
  obtain ⟨k, m, e, grid, rounded, size, near⟩ := Binary.nearestTo_ofInt (natAbs_integer whole)
  have written : applyFormat (.number x) s!".{p}f" =
      .ok (toString k ++ String.ofList (zerosText p)) := by
    rw [applyFormat_fixed small, toDouble_integer whole, rounded, fixedText_whole p size, ← intText,
      intText_eq, String.ofList_append, String.ofList_toList]
  have exact_iff : k = n ↔ ∃ y : Double, y.value? = some (n : ℚ) := by
    constructor
    · rintro rfl
      exact ⟨_, near.value⟩
    · rintro ⟨y, value⟩
      have zero := near.nearest y n value
      rw [sub_self, abs_zero] at zero
      exact_mod_cast sub_eq_zero.mp (abs_eq_zero.mp (le_antisymm zero (abs_nonneg _)))
  refine ⟨k, ⟨_, near⟩, fun y v other => other.unique (by decide) near, applyFormat_integer whole,
    written, ?_, Binary.exists_of_natAbs_le, fun none same => none (exact_iff.mp same)⟩
  rw [written, ← exact_iff, Except.ok.injEq, String.append_left_inj, ← String.toList_inj,
    ← intText_eq, ← intText_eq, intText_inj]

/-- The greatest unsigned integer is written as the power of two above it. -/
theorem integer_places_greatest :
    (Number.unsigned 0xFFFFFFFFFFFFFFFF).integer? = some 18446744073709551615 ∧ 2 ≤ 65535 ∧
    applyFormat (.number (.unsigned 0xFFFFFFFFFFFFFFFF)) ".2f" = .ok "18446744073709551616.00" ∧
    ¬ ∃ y : Double, y.value? = some 18446744073709551615 := by
  have whole : (Number.unsigned 0xFFFFFFFFFFFFFFFF).integer? = some 18446744073709551615 := rfl
  have written : applyFormat (.number (.unsigned 0xFFFFFFFFFFFFFFFF)) ".2f" =
      .ok "18446744073709551616.00" := by decide
  obtain ⟨k, -, -, -, -, same, -⟩ := integer_places whole (p := 2) (by decide)
  refine ⟨whole, by decide, written, fun number => ?_⟩
  have other := same.mpr number
  have text : s!".{2}f" = ".2f" := by decide
  rw [text, written] at other
  revert other
  decide

end Stencil
