import Mathlib.Algebra.Order.Field.Rat
import Mathlib.Algebra.Order.Field.Power
import Mathlib.Tactic.Linarith
import Mathlib.Tactic.Positivity
import Mathlib.Tactic.LinearCombination
import Mathlib.Tactic.NormNum
import Stencil.Proofs.FixedPlaces

/-!
# Nearest numbers of a format

A number of a format stands for a rational. Not every rational has a number; the nearest one stands in
for it, and of two that are equally near the one with the even significand.

* `NearestTo`: the number is a nearest one. All that are stand for one rational (`NearestTo.unique`);
* `Rounds`: so many steps are a rational rounded for a format, nearer than any point of its grid
  (`Rounds.nearest`);
* `ofQuotient_eq_atPoint`, `nearestTo_ofQuotient`: a quotient is rounded to the nearest number;
* `nearestTo_ofInt`: so is an integer of 64 bits, and the number stands for an integer.
-/

namespace Stencil.Numeric

variable {f : Format} {m n : ℕ} {e d : ℤ}

/-! ## 1. What numbers stand for -/

namespace Binary

/-- What a finite number stands for. -/
def value? : Binary f → Option ℚ
  | .finite negative m e _ => some ((if negative then -1 else 1) * (m * 2 ^ e))
  | _ => none

/-- The significand of a finite number. -/
def significand : Binary f → ℕ
  | .finite _ m _ _ => m
  | _ => 0

/-- The number stands for `v`, and no number of the format is nearer to `q`; where another one is as
near, the significand of this one is even. -/
structure NearestTo (q : ℚ) (x : Binary f) (v : ℚ) : Prop where
  value : x.value? = some v
  nearest : ∀ (y : Binary f) (w : ℚ), y.value? = some w → |v - q| ≤ |w - q|
  even : ∀ (y : Binary f) (w : ℚ), y.value? = some w → |w - q| = |v - q| → w ≠ v →
    x.significand % 2 = 0

/-- A finite number is a point of the grid or its negative. -/
theorem exists_grid {x : Binary f} {v : ℚ} (value : x.value? = some v) :
    ∃ e, f.OnGrid x.significand e ∧ |v| = x.significand * 2 ^ e := by
  cases x with
  | nan => cases value
  | infinite => cases value
  | finite negative m e grid =>
    obtain rfl := Option.some.inj value
    have size : (0 : ℚ) ≤ m * 2 ^ e := by positivity
    refine ⟨e, grid, ?_⟩
    cases negative <;> simp [significand, abs_of_nonneg size]

/-- **The numbers of a format are the points of its grid and their negatives.** -/
theorem exists_value_iff {v : ℚ} :
    (∃ x : Binary f, x.value? = some v) ↔ ∃ m e, f.OnGrid m e ∧ |v| = m * 2 ^ e := by
  constructor
  · intro ⟨x, value⟩
    exact ⟨_, exists_grid value⟩
  · intro ⟨m, e, grid, size⟩
    rcases abs_choice v with same | opposite
    · refine ⟨.finite false m e grid, ?_⟩
      simp [value?, ← size, same]
    · refine ⟨.finite true m e grid, ?_⟩
      simp [value?, ← size, opposite]

end Binary

theorem two_zpow_of_le (le : e ≤ d) : (2 : ℚ) ^ d = (2 ^ (d - e).toNat : ℕ) * 2 ^ e := by
  have whole : d = (d - e).toNat + e := by omega
  conv_lhs => rw [whole]
  rw [zpow_add₀ two_ne_zero, zpow_natCast, Nat.cast_pow, Nat.cast_ofNat]

/-- A power is compared without a denominator: what a negative exponent divides by goes to the other
side. -/
theorem zpow_mul_pow {b : ℕ} (positive : 0 < b) (u : ℤ) :
    (b : ℚ) ^ u * (Nat.pow b (-u).toNat : ℕ) = (Nat.pow b u.toNat : ℕ) := by
  rw [Nat.pow_eq, Nat.pow_eq, Nat.cast_pow, Nat.cast_pow, ← zpow_natCast, ← zpow_natCast,
    ← zpow_add₀ (Nat.cast_ne_zero.mpr positive.ne')]
  congr 1
  omega

theorem two_zpow_eq (e : ℤ) : (2 : ℚ) ^ e * scaleDown e = scaleUp e :=
  zpow_mul_pow Nat.two_pos e

/-- A significand has one bit more than the first one of a grid. -/
theorem Format.pow_width (f : Format) (some : 0 < f.width) :
    Nat.pow 2 f.width = 2 * Nat.pow 2 (f.width - 1) := by
  rw [Nat.pow_eq, Nat.pow_eq, ← Nat.pow_succ', Nat.succ_eq_add_one, Nat.sub_add_cancel some]

namespace Format.OnGrid

/-- A point lies below all points of a coarser grid whose significands are full. -/
theorem lt_full (grid : f.OnGrid n d) (finer : d < e) :
    (n : ℚ) * 2 ^ d < (Nat.pow 2 (f.width - 1) : ℕ) * 2 ^ e := by
  have double : n < Nat.pow 2 (f.width - 1) * 2 ^ (e - d).toNat := calc
    n < Nat.pow 2 f.width := grid.1
    _ ≤ Nat.pow 2 (f.width - 1) * 2 ^ 1 := by
      rw [Nat.pow_eq, Nat.pow_eq, ← Nat.pow_add]
      exact Nat.pow_le_pow_right (by decide) (by omega)
    _ ≤ Nat.pow 2 (f.width - 1) * 2 ^ (e - d).toNat :=
      Nat.mul_le_mul_left _ (Nat.pow_le_pow_right (by decide) (by omega))
  rw [two_zpow_of_le finer.le, ← mul_assoc]
  exact mul_lt_mul_of_pos_right (by exact_mod_cast double) (by positivity)

/-- A point above another one does not lie on a finer grid. -/
theorem exponent_le (grid : f.OnGrid m e) (grid' : f.OnGrid n d)
    (less : (m : ℚ) * 2 ^ e < n * 2 ^ d) : e ≤ d := by
  by_contra finer
  have least := grid'.2.1
  have full : Nat.pow 2 (f.width - 1) ≤ m := grid.2.2.2.resolve_right (by omega)
  have below := grid'.lt_full (not_le.mp finer)
  have above : ((Nat.pow 2 (f.width - 1) : ℕ) : ℚ) * 2 ^ e ≤ m * 2 ^ e :=
    mul_le_mul_of_nonneg_right (by exact_mod_cast full) (by positivity)
  linarith

/-- Behind a point with an even significand comes another one on the same grid. -/
theorem succ (grid : f.OnGrid m e) (wide : 1 < f.width) (even : m % 2 = 0) : f.OnGrid (m + 1) e := by
  obtain ⟨bound, least, greatest, full⟩ := grid
  have power := f.pow_width (by omega)
  exact ⟨by omega, least, greatest, full.imp (by omega) id⟩

/-- Two points with even significands are not neighbours. -/
theorem succ_lt (grid : f.OnGrid m e) (grid' : f.OnGrid n d) (even : m % 2 = 0) (even' : n % 2 = 0)
    (less : (m : ℚ) * 2 ^ e < n * 2 ^ d) : ((m + 1 : ℕ) : ℚ) * 2 ^ e < n * 2 ^ d := by
  have coarser := grid.exponent_le grid' less
  rw [two_zpow_of_le coarser, ← mul_assoc] at less ⊢
  have strict := lt_of_mul_lt_mul_right less (by positivity)
  have strict : m < n * 2 ^ (d - e).toNat := by exact_mod_cast strict
  have multiple : n * 2 ^ (d - e).toNat % 2 = 0 := by
    rw [Nat.mul_mod, even', Nat.zero_mul, Nat.zero_mod]
  have apart : m + 1 < n * 2 ^ (d - e).toNat := by omega
  exact mul_lt_mul_of_pos_right (by exact_mod_cast apart) (by positivity)

theorem zero (grid : f.OnGrid m e) : f.OnGrid 0 f.least :=
  ⟨Nat.pow_pos (by decide), le_refl _, grid.2.1.trans grid.2.2.1, .inr rfl⟩

end Format.OnGrid

namespace Binary

variable {x y : Binary f} {q v w : ℚ}

/-- Between two numbers with even significands there is another number. -/
theorem exists_between (wide : 1 < f.width) (value : x.value? = some v) (value' : y.value? = some w)
    (even : x.significand % 2 = 0) (even' : y.significand % 2 = 0) (less : v < w) :
    ∃ (z : Binary f) (u : ℚ), z.value? = some u ∧ v < u ∧ u < w := by
  obtain ⟨e, grid, size⟩ := exists_grid value
  obtain ⟨d, grid', size'⟩ := exists_grid value'
  have found : ∀ {n : ℕ} {d : ℤ} (u : ℚ), f.OnGrid n d → |u| = n * 2 ^ d → v < u → u < w →
      ∃ (z : Binary f) (u : ℚ), z.value? = some u ∧ v < u ∧ u < w := by
    intro n d u grid size above below
    obtain ⟨z, value⟩ := exists_value_iff.mpr ⟨n, d, grid, size⟩
    exact ⟨z, u, value, above, below⟩
  rcases lt_or_ge v 0 with negative | nonnegative
  · rcases lt_or_ge 0 w with positive | nonpositive
    · exact found 0 grid.zero (by simp) negative positive
    · -- both are mirrored at zero
      rw [abs_of_neg negative] at size
      rw [abs_of_nonpos nonpositive] at size'
      have less : (y.significand : ℚ) * 2 ^ d < x.significand * 2 ^ e := by linarith
      have next := grid'.succ_lt grid even' even less
      have step : (y.significand : ℚ) * 2 ^ d < (y.significand + 1 : ℕ) * 2 ^ d :=
        mul_lt_mul_of_pos_right (by exact_mod_cast Nat.lt_succ_self _) (by positivity)
      refine found (-((y.significand + 1 : ℕ) * 2 ^ d)) (grid'.succ wide even') ?_ ?_ ?_
      · rw [abs_neg, abs_of_nonneg (by positivity)]
      · linarith
      · linarith
  · rw [abs_of_nonneg nonnegative] at size
    rw [abs_of_pos (nonnegative.trans_lt less)] at size'
    rw [size, size'] at less
    have next := grid.succ_lt grid' even even' less
    have step : (x.significand : ℚ) * 2 ^ e < (x.significand + 1 : ℕ) * 2 ^ e :=
      mul_lt_mul_of_pos_right (by exact_mod_cast Nat.lt_succ_self _) (by positivity)
    refine found ((x.significand + 1 : ℕ) * 2 ^ e) (grid.succ wide even) ?_ ?_ ?_
    · rw [abs_of_nonneg (by positivity)]
    · rw [size]
      exact step
    · rw [size']
      exact next

/-- **All nearest numbers stand for one rational.** -/
theorem NearestTo.unique (wide : 1 < f.width) (h : NearestTo q x v) (h' : NearestTo q y w) :
    v = w := by
  wlog less : v < w generalizing x y v w
  · rcases (not_lt.mp less).lt_or_eq with more | same
    · exact (this h' h more).symm
    · exact same.symm
  have tie : |w - q| = |v - q| := le_antisymm (h'.nearest x v h.value) (h.nearest y w h'.value)
  obtain ⟨z, u, value, above, below⟩ := exists_between wide h.value h'.value
    (h.even y w h'.value tie less.ne') (h'.even x v h.value tie.symm less.ne) less
  -- `q` is half-way between them, so what is between them is nearer
  have middle : w - q = -(v - q) := (abs_eq_abs.mp tie).resolve_left (by linarith [less.ne'])
  have side : |v - q| = -(v - q) := abs_of_neg (by linarith)
  have nearer : |u - q| < |v - q| := by
    rw [side, abs_lt]
    constructor <;> linarith
  exact absurd (h.nearest z u value) (not_le.mpr nearer)

end Binary

/-! ## 2. Rounding gives the nearest number -/

section Quotients

variable {num den : ℕ} {q : ℚ}

theorem lt_two_zpow_iff (positive : 0 < den) (k : ℤ) :
    (num / den : ℚ) < 2 ^ k ↔ num * scaleDown k < den * scaleUp k := by
  have below : (0 : ℚ) < den := Nat.cast_pos.mpr positive
  have scale : (0 : ℚ) < scaleDown k := Nat.cast_pos.mpr (scaleDown_pos k)
  rw [div_lt_iff₀ below, ← mul_lt_mul_iff_left₀ scale, ← Nat.cast_lt (α := ℚ), Nat.cast_mul,
    Nat.cast_mul, ← two_zpow_eq]
  constructor <;> intro less <;> linarith

/-- The leading bit of a quotient stands at its exponent. -/
theorem logQuotient_bounds (positive : 0 < num) (positive' : 0 < den) :
    (2 : ℚ) ^ logQuotient num den ≤ num / den ∧ (num / den : ℚ) < 2 ^ (logQuotient num den + 1) := by
  have below : (0 : ℚ) < den := Nat.cast_pos.mpr positive'
  have low : (2 : ℚ) ^ (num.log2 : ℤ) ≤ num := by
    exact_mod_cast Nat.log2_self_le positive.ne'
  have high : (num : ℚ) < 2 ^ ((num.log2 : ℤ) + 1) := by
    exact_mod_cast Nat.lt_log2_self (n := num)
  have low' : (2 : ℚ) ^ (den.log2 : ℤ) ≤ den := by
    exact_mod_cast Nat.log2_self_le positive'.ne'
  have high' : (den : ℚ) < 2 ^ ((den.log2 : ℤ) + 1) := by
    exact_mod_cast Nat.lt_log2_self (n := den)
  -- the quotient of the leading bits is right or one too high
  have upper : (num / den : ℚ) < 2 ^ ((num.log2 : ℤ) - den.log2 + 1) := by
    rw [div_lt_iff₀ below]
    calc (num : ℚ) < 2 ^ ((num.log2 : ℤ) + 1) := high
      _ = 2 ^ ((num.log2 : ℤ) - den.log2 + 1) * 2 ^ (den.log2 : ℤ) := by
        rw [← zpow_add₀ two_ne_zero]
        congr 1
        omega
      _ ≤ 2 ^ ((num.log2 : ℤ) - den.log2 + 1) * den := mul_le_mul_of_nonneg_left low' (by positivity)
  have lower : (2 : ℚ) ^ ((num.log2 : ℤ) - den.log2 - 1) ≤ num / den := by
    rw [le_div_iff₀ below]
    calc (2 : ℚ) ^ ((num.log2 : ℤ) - den.log2 - 1) * den
        ≤ 2 ^ ((num.log2 : ℤ) - den.log2 - 1) * 2 ^ ((den.log2 : ℤ) + 1) :=
          mul_le_mul_of_nonneg_left high'.le (by positivity)
      _ = 2 ^ (num.log2 : ℤ) := by
        rw [← zpow_add₀ two_ne_zero]
        congr 1
        omega
      _ ≤ num := low
  unfold logQuotient
  dsimp only
  split
  · rename_i less
    rw [← lt_two_zpow_iff positive'] at less
    rw [sub_add_cancel]
    exact ⟨lower, less⟩
  · rename_i not_less
    rw [← lt_two_zpow_iff positive', not_lt] at not_less
    exact ⟨not_less, upper⟩

/-- The nearest number of steps is at most half a step away, and half a step only when it is even. -/
theorem IsNearest.steps {step scale : ℚ} (near : IsNearest num den m) (scaled : 0 < scale)
    (numerator : (num : ℚ) = q * scale) (denominator : (den : ℚ) = step * scale) :
    2 * |m * step - q| ≤ step ∧ (2 * |m * step - q| = step → m % 2 = 0) := by
  obtain ⟨above, below, even⟩ := near
  have above : (2 * num : ℚ) ≤ 2 * (m * den) + den := by exact_mod_cast above
  have below : (2 * (m * den) : ℚ) ≤ 2 * num + den := by exact_mod_cast below
  have even : (2 * num : ℚ) = 2 * (m * den) + den ∨ (2 * (m * den) : ℚ) = 2 * num + den → m % 2 = 0 := by
    exact_mod_cast even
  rw [numerator, denominator] at above below even
  have above : 2 * q ≤ 2 * (m * step) + step := le_of_mul_le_mul_right (by linarith) scaled
  have below : 2 * (m * step) ≤ 2 * q + step := le_of_mul_le_mul_right (by linarith) scaled
  rcases abs_cases (m * step - q) with ⟨size, -⟩ | ⟨size, -⟩
  · rw [size]
    refine ⟨by linarith, fun half => even (.inr ?_)⟩
    have half : 2 * (m * step) = 2 * q + step := by linarith
    linear_combination scale * half
  · rw [size]
    refine ⟨by linarith, fun half => even (.inl ?_)⟩
    have half : 2 * q = 2 * (m * step) + step := by linarith
    linear_combination scale * half

/-- No number of steps is nearer than that. -/
theorem steps_nearest {step : ℚ} (positive : 0 < step) (near : 2 * |m * step - q| ≤ step) (j : ℤ) :
    |m * step - q| ≤ |j * step - q| ∧
      (|j * step - q| = |m * step - q| → j * step ≠ m * step → 2 * |m * step - q| = step) := by
  by_cases same : j = m
  · subst same
    exact ⟨le_refl _, fun _ apart => absurd rfl apart⟩
  · have away : (1 : ℚ) ≤ |(j : ℚ) - m| := by
      exact_mod_cast Int.one_le_abs (sub_ne_zero.mpr same)
    have apart : step ≤ |j * step - q| + |m * step - q| := calc
      step ≤ |(j : ℚ) - m| * step := le_mul_of_one_le_left positive.le away
      _ = |(j * step - q) - (m * step - q)| := by
        rw [← abs_of_pos positive, ← abs_mul, abs_of_pos positive]
        congr 1
        ring
      _ ≤ |j * step - q| + |m * step - q| := abs_sub _ _
    exact ⟨by linarith, fun tie _ => by linarith⟩

/-- So many steps of `2^e` are a rational rounded for a format: it is at most half a step away, and half
a step only when their number is even. The steps are the finest of the format, or the rational has as
many of them as a significand has. -/
structure Format.Rounds (f : Format) (q : ℚ) (m : ℕ) (e : ℤ) : Prop where
  near : 2 * |m * 2 ^ e - q| ≤ 2 ^ e
  even : 2 * |m * 2 ^ e - q| = 2 ^ e → m % 2 = 0
  full : e = f.least ∨ (Nat.pow 2 (f.width - 1) : ℕ) * 2 ^ e ≤ q
  bounded : q < (Nat.pow 2 f.width : ℕ) * 2 ^ e

/-- **No point of the format is nearer than a rational rounded for it**: finer points than the steps lie
below it all. -/
theorem Format.Rounds.nearest (rounds : f.Rounds q m e) {y : ℚ} (grid : f.OnGrid n d)
    (size : |y| = n * 2 ^ d) : |m * 2 ^ e - q| ≤ |y - q| ∧
      (|y - q| = |m * 2 ^ e - q| → y ≠ m * 2 ^ e → m % 2 = 0) := by
  have positive : (0 : ℚ) < 2 ^ e := by positivity
  rcases le_or_gt e d with coarse | fine
  · -- the point is a number of steps
    obtain ⟨j, rfl⟩ : ∃ j : ℤ, y = j * 2 ^ e := by
      rw [two_zpow_of_le coarse, ← mul_assoc] at size
      rcases abs_choice y with same | opposite
      · refine ⟨(n * 2 ^ (d - e).toNat : ℕ), ?_⟩
        rw [← same, size]
        push_cast
        ring
      · refine ⟨-(n * 2 ^ (d - e).toNat : ℕ), ?_⟩
        rw [← neg_eq_iff_eq_neg.mpr opposite, size]
        push_cast
        ring
    obtain ⟨nearest, tie⟩ := steps_nearest positive rounds.near j
    exact ⟨nearest, fun same apart => rounds.even (tie same apart)⟩
  · have least := grid.2.1
    have leading := rounds.full.resolve_left (by omega)
    have below := (le_abs_self y).trans_lt (size ▸ grid.lt_full fine)
    have nearer := (steps_nearest positive rounds.near (Nat.pow 2 (f.width - 1) : ℕ)).1
    rw [Int.cast_natCast] at nearer
    have between : |((Nat.pow 2 (f.width - 1) : ℕ) : ℚ) * 2 ^ e - q| < |y - q| := by
      rw [abs_of_nonpos (by linarith), abs_of_neg (by linarith)]
      linarith
    have strict := nearer.trans_lt between
    exact ⟨strict.le, fun tie => absurd tie strict.ne'⟩

/-- The steps that a quotient is rounded to. -/
theorem rounds_quotient (wide : 1 < f.width) (positive : 0 < num) (positive' : 0 < den)
    (exponent : e = max f.least (logQuotient num den - (f.width - 1 : Nat)))
    (rounded : m = roundQuotient (num * scaleDown e) (den * scaleUp e)) :
    f.Rounds (num / den) m e := by
  have scaled : 0 < den * scaleUp e := Nat.mul_pos positive' (Nat.pow_pos (by decide))
  -- both sides of the quotient are scaled by the same number
  have scale : (0 : ℚ) < (den * scaleDown e : ℕ) :=
    Nat.cast_pos.mpr (Nat.mul_pos positive' (scaleDown_pos e))
  have numerator : ((num * scaleDown e : ℕ) : ℚ) = num / den * (den * scaleDown e : ℕ) := by
    have nonzero : (den : ℚ) ≠ 0 := Nat.cast_ne_zero.mpr positive'.ne'
    rw [Nat.cast_mul, Nat.cast_mul, ← mul_assoc, div_mul_cancel₀ _ nonzero]
  have denominator : ((den * scaleUp e : ℕ) : ℚ) = 2 ^ e * (den * scaleDown e : ℕ) := by
    rw [Nat.cast_mul, Nat.cast_mul, ← two_zpow_eq]
    ring
  obtain ⟨near, even⟩ := ((isNearest_iff scaled).mpr rounded).steps scale numerator denominator
  obtain ⟨leading, high⟩ := logQuotient_bounds positive positive'
  have power : ∀ k : ℕ, ((Nat.pow 2 k : ℕ) : ℚ) * 2 ^ e = 2 ^ (k + e) := by
    intro k
    rw [Nat.pow_eq, Nat.cast_pow, Nat.cast_ofNat, ← zpow_natCast, ← zpow_add₀ two_ne_zero]
  refine ⟨near, even, ?_, ?_⟩
  · rw [power]
    rcases max_choice f.least (logQuotient num den - (f.width - 1 : ℕ)) with least | highest
    · exact .inl (exponent.trans least)
    · exact .inr ((zpow_le_zpow_right₀ one_le_two (by omega)).trans leading)
  · rw [power]
    exact high.trans_le (zpow_le_zpow_right₀ one_le_two (by omega))

/-- A rounded rational has at most one more bit than a significand. -/
theorem Format.Rounds.le (rounds : f.Rounds q m e) : m ≤ Nat.pow 2 f.width := by
  by_contra more
  have positive : (0 : ℚ) < 2 ^ e := by positivity
  have more : ((Nat.pow 2 f.width : ℕ) : ℚ) + 1 ≤ m := by exact_mod_cast not_le.mp more
  have above := mul_le_mul_of_nonneg_right more positive.le
  have near := (le_abs_self _).trans (by linarith [rounds.near] : |m * 2 ^ e - q| ≤ 2 ^ e / 2)
  have bounded := rounds.bounded
  linarith

/-- It has as many bits as a significand, unless the steps are the finest ones. -/
theorem Format.Rounds.leading (rounds : f.Rounds q m e) :
    Nat.pow 2 (f.width - 1) ≤ m ∨ e = f.least := by
  refine rounds.full.symm.imp_left fun full => ?_
  by_contra fewer
  have positive : (0 : ℚ) < 2 ^ e := by positivity
  have fewer : (m : ℚ) + 1 ≤ (Nat.pow 2 (f.width - 1) : ℕ) := by exact_mod_cast not_le.mp fewer
  have below := mul_le_mul_of_nonneg_right fewer positive.le
  have near := (neg_abs_le _).trans' (by linarith [rounds.near] : -(2 ^ e / 2) ≤ -|m * 2 ^ e - q|)
  linarith

end Quotients

namespace Binary

variable {num den : ℕ} (negative : Bool)

/-- The number at a point of the grids, or the infinity where the point lies beyond them. -/
def atPoint (m : ℕ) (e : ℤ) : Binary f :=
  if grid : f.OnGrid m e then .finite negative m e grid else .infinite negative

/-- A quotient is rounded to so many steps of its grid; when these have one bit too many the number is on
the next grid. -/
theorem ofQuotient_eq_atPoint (wide : 1 < f.width) (positive : 0 < num) (positive' : 0 < den) :
    ∃ (m : ℕ) (e : ℤ), e = max f.least (logQuotient num den - (f.width - 1 : ℕ)) ∧
      f.Rounds (num / den) m e ∧ (ofQuotient negative num den : Binary f) =
        if m = Nat.pow 2 f.width then atPoint negative (m / 2) (e + 1) else atPoint negative m e := by
  refine ⟨_, _, rfl, rounds_quotient wide positive positive' rfl rfl, ?_⟩
  rw [ofQuotient, if_neg positive.ne']
  dsimp only
  split <;> rfl

/-- Below the coarsest grid this number is finite and stands for the steps. -/
theorem exists_rounds (wide : 1 < f.width) (positive : 0 < num) (positive' : 0 < den)
    (fits : max f.least (logQuotient num den - (f.width - 1 : ℕ)) < f.greatest) :
    ∃ (m n : ℕ) (e d : ℤ) (grid : f.OnGrid n d),
      ofQuotient negative num den = .finite negative n d grid ∧ f.Rounds (num / den) m e ∧
      (n * 2 ^ d : ℚ) = m * 2 ^ e ∧ (m % 2 = 0 → n % 2 = 0) := by
  obtain ⟨m, e, exponent, rounds, written⟩ :=
    ofQuotient_eq_atPoint (f := f) negative wide positive positive'
  have least := le_max_left f.least (logQuotient num den - (f.width - 1 : ℕ))
  rw [← exponent] at fits least
  by_cases carried : m = Nat.pow 2 f.width
  · obtain ⟨k, power⟩ : ∃ k, Nat.pow 2 f.width = 4 * k :=
      ⟨2 ^ (f.width - 2), by rw [Nat.pow_eq, show 4 = 2 ^ 2 from rfl, ← Nat.pow_add,
        Nat.add_sub_cancel' wide]⟩
    have double := f.pow_width (by omega)
    have some : 0 < Nat.pow 2 f.width := Nat.pow_pos (by decide)
    have grid : f.OnGrid (m / 2) (e + 1) := ⟨by omega, by omega, by omega, .inl (by omega)⟩
    have half : m / 2 = 2 * k := by omega
    rw [if_pos carried, atPoint, dif_pos grid] at written
    refine ⟨m, _, e, _, grid, written, rounds, ?_, fun _ => by omega⟩
    rw [half, carried, power, zpow_add_one₀ two_ne_zero]
    push_cast
    ring
  · have grid : f.OnGrid m e :=
      ⟨lt_of_le_of_ne rounds.le carried, least, fits.le, rounds.leading⟩
    rw [if_neg carried, atPoint, dif_pos grid] at written
    exact ⟨m, m, e, e, grid, written, rounds, rfl, id⟩

/-- **Rounding a quotient gives the number nearest to it**, with its sign, unless it is too large for
the format. -/
theorem nearestTo_ofQuotient (wide : 1 < f.width) (positive : 0 < den)
    (fits : max f.least (logQuotient num den - (f.width - 1 : ℕ)) < f.greatest) :
    ∃ (n : ℕ) (d : ℤ) (grid : f.OnGrid n d), ofQuotient negative num den = .finite negative n d grid ∧
      NearestTo ((if negative then -1 else 1) * (num / den)) (.finite negative n d grid)
        ((if negative then -1 else 1) * (n * 2 ^ d)) := by
  obtain rfl | nonzero := Nat.eq_zero_or_pos num
  · have least := (le_max_left _ _).trans fits.le
    have grid : f.OnGrid 0 f.least := ⟨Nat.pow_pos (by decide), le_refl _, least, .inr rfl⟩
    rw [ofQuotient, if_pos rfl, zero, dif_pos grid]
    exact ⟨0, _, grid, rfl, rfl, fun y w _ => by simp, fun _ _ _ _ _ => rfl⟩
  · obtain ⟨m, n, e, d, grid, same, rounds, size, even⟩ :=
      exists_rounds negative wide nonzero positive fits
    have sign : |(if negative then -1 else 1 : ℚ)| = 1 := by cases negative <;> simp
    generalize (num / den : ℚ) = q at rounds
    generalize signed : (if negative then -1 else 1 : ℚ) = s at sign
    have square : s * s = 1 := by rw [← abs_mul_abs_self, sign, one_mul]
    -- the sign goes to the other side
    have mirror : ∀ w, |w - s * q| = |s * w - q| := by
      intro w
      rw [← one_mul |s * w - q|, ← sign, ← abs_mul, mul_sub, ← mul_assoc, square, one_mul]
    have point : ∀ (y : Binary f) (w : ℚ), y.value? = some w → |m * 2 ^ e - q| ≤ |s * w - q| ∧
        (|s * w - q| = |m * 2 ^ e - q| → s * w ≠ m * 2 ^ e → m % 2 = 0) := by
      intro y w value
      obtain ⟨d, grid, size⟩ := exists_grid value
      refine rounds.nearest grid ?_
      rw [abs_mul, sign, one_mul, size]
    have own : s * (s * (n * 2 ^ d)) = m * 2 ^ e := by rw [← mul_assoc, square, one_mul, size]
    refine ⟨n, d, grid, same, congrArg (fun s => some (s * _)) signed, ?_, ?_⟩
    · intro y w value
      rw [mirror, mirror, own]
      exact (point y w value).1
    · intro y w value tie apart
      rw [mirror, mirror, own] at tie
      refine even ((point y w value).2 tie fun equal => apart ?_)
      rw [size, ← equal, ← mul_assoc, square, one_mul]

/-! ## 3. Integers -/

/-- Integers of at most 53 bits have numbers. -/
theorem exists_of_natAbs_le {n : ℤ} (small : n.natAbs ≤ 2 ^ 53) : ∃ x : Double, x.value? = some n := by
  refine exists_value_iff.mpr ?_
  rw [← Int.cast_abs, ← Int.natCast_natAbs, Int.cast_natCast]
  generalize n.natAbs = m at small
  obtain rfl | nonzero := Nat.eq_zero_or_pos m
  · exact ⟨0, -1074, by decide, by simp⟩
  obtain rfl | less := small.eq_or_lt
  · exact ⟨2 ^ 52, 1, by decide, by norm_num⟩
  · -- the leading bit is moved to the front
    have low := Nat.log2_self_le nonzero.ne'
    have high := Nat.lt_log2_self (n := m)
    have short : m.log2 < 53 := (Nat.log2_lt nonzero.ne').mpr less
    have full : 2 ^ 52 = 2 ^ m.log2 * 2 ^ (52 - m.log2) := by
      rw [← Nat.pow_add, Nat.add_sub_cancel' (by omega)]
    have bound : 2 ^ 53 = 2 ^ (m.log2 + 1) * 2 ^ (52 - m.log2) := by
      rw [Nat.pow_succ', Nat.pow_succ' (n := m.log2), Nat.mul_assoc, ← full]
    refine ⟨m * 2 ^ (52 - m.log2), -(52 - m.log2 : ℕ), ⟨?_, ?_, ?_, .inl ?_⟩, ?_⟩
    · show m * 2 ^ (52 - m.log2) < 2 ^ 53
      rw [bound]
      exact Nat.mul_lt_mul_of_pos_right high (Nat.pow_pos (by decide))
    · show (-1074 : ℤ) ≤ _
      omega
    · show _ ≤ (971 : ℤ)
      omega
    · show 2 ^ 52 ≤ m * 2 ^ (52 - m.log2)
      rw [full]
      exact Nat.mul_le_mul_right _ low
    · rw [Nat.cast_mul, mul_assoc, Nat.cast_pow, Nat.cast_ofNat, ← zpow_natCast,
        ← zpow_add₀ two_ne_zero, add_neg_cancel, zpow_zero, mul_one]

/-- A number nearest to an integer stands for an integer. -/
theorem NearestTo.exists_int {n : ℤ} {x : Double} {v : ℚ} (h : NearestTo n x v) : ∃ k : ℤ, v = k := by
  rcases Nat.lt_or_ge (2 ^ 53) n.natAbs with large | small
  · -- it is at least as large as the greatest of those integers
    obtain ⟨n', size', between⟩ : ∃ n' : ℤ, n'.natAbs ≤ 2 ^ 53 ∧
        (n' - n).natAbs + 2 ^ 53 = n.natAbs := by
      rcases n.natAbs_eq with same | opposite
      · exact ⟨2 ^ 53, by decide, by omega⟩
      · exact ⟨-2 ^ 53, by decide, by omega⟩
    obtain ⟨y, value⟩ := exists_of_natAbs_le size'
    have near := h.nearest y n' value
    have between : |(n' : ℚ) - n| + 2 ^ 53 = |(n : ℚ)| := by
      rw [← Int.cast_sub, ← Int.cast_abs, ← Int.cast_abs, ← Nat.cast_natAbs, ← Nat.cast_natAbs]
      exact_mod_cast between
    have apart := abs_sub_abs_le_abs_sub (n : ℚ) v
    rw [abs_sub_comm] at apart
    obtain ⟨e, grid, size⟩ := exists_grid h.value
    have bound : (x.significand : ℚ) < 2 ^ 53 := by exact_mod_cast grid.1
    have coarse : 0 ≤ e := by
      by_contra fine
      have small : (x.significand : ℚ) * 2 ^ e ≤ x.significand :=
        mul_le_of_le_one_right (Nat.cast_nonneg _) (zpow_le_one_of_nonpos₀ one_le_two (by omega))
      linarith
    rw [two_zpow_of_le coarse, zpow_zero, mul_one] at size
    rcases abs_choice v with same | opposite
    · exact ⟨(x.significand * 2 ^ (e - 0).toNat : ℕ), by rw [← same, size]; push_cast; rfl⟩
    · exact ⟨-(x.significand * 2 ^ (e - 0).toNat : ℕ), by
        rw [← neg_eq_iff_eq_neg.mpr opposite, size]; push_cast; rfl⟩
  · obtain ⟨y, value⟩ := exists_of_natAbs_le small
    have near := h.nearest y n value
    rw [sub_self, abs_zero] at near
    exact ⟨n, sub_eq_zero.mp (abs_eq_zero.mp (le_antisymm near (abs_nonneg _)))⟩

/-- A number nearest to a negative integer is negative. -/
theorem NearestTo.neg {n : ℤ} {x : Double} {v : ℚ} (h : NearestTo n x v) (negative : n < 0) :
    v < 0 := by
  obtain ⟨y, value⟩ := exists_of_natAbs_le (n := -1) (by decide)
  have near := h.nearest y _ value
  have below : (n : ℚ) ≤ -1 := by exact_mod_cast Int.le_sub_one_of_lt negative
  by_contra positive
  rw [abs_of_nonneg (by linarith), Int.cast_neg, Int.cast_one, abs_of_nonneg (by linarith)] at near
  linarith

/-- **The number of an integer of 64 bits is the nearest one**, and it stands for an integer of the
same sign. -/
theorem nearestTo_ofInt {n : ℤ} (small : n.natAbs ≤ 2 ^ 64) :
    ∃ (k : ℤ) (m : ℕ) (e : ℤ) (grid : Format.double.OnGrid m e),
      ofInt n = .finite (k < 0) m e grid ∧ (m * 2 ^ e : ℚ) = k.natAbs ∧
      NearestTo n (.finite (k < 0) m e grid) k := by
  have leading : logQuotient n.natAbs 1 ≤ n.natAbs.log2 := by
    unfold logQuotient
    rw [show Nat.log2 1 = 0 from rfl]
    dsimp only
    split <;> omega
  have short : n.natAbs.log2 < 65 := by
    obtain zero | nonzero := Nat.eq_zero_or_pos n.natAbs
    · rw [zero]
      decide
    · exact (Nat.log2_lt nonzero.ne').mpr (by omega)
  have fits : max Format.double.least (logQuotient n.natAbs 1 - (Format.double.width - 1 : ℕ)) <
      Format.double.greatest := by
    simp only [Format.double]
    omega
  obtain ⟨m, e, grid, rounded, near⟩ := nearestTo_ofQuotient (n < 0) (by decide) Nat.one_pos fits
  have whole : (if decide (n < 0) then -1 else 1 : ℚ) * (n.natAbs / (1 : ℕ)) = n := by
    rw [Nat.cast_one, div_one, Nat.cast_natAbs, Int.cast_abs]
    rcases lt_or_ge n 0 with negative | nonnegative
    · rw [decide_eq_true negative, if_pos rfl, abs_of_neg (Int.cast_lt_zero.mpr negative)]
      ring
    · rw [decide_eq_false (not_lt.mpr nonnegative), if_neg Bool.false_ne_true, one_mul,
        abs_of_nonneg (Int.cast_nonneg nonnegative)]
  rw [whole] at near
  obtain ⟨k, value⟩ := near.exists_int
  have size : (m * 2 ^ e : ℚ) = k.natAbs := by
    have positive : (0 : ℚ) ≤ m * 2 ^ e := by positivity
    rw [Nat.cast_natAbs, Int.cast_abs, ← value, abs_mul, abs_of_nonneg positive]
    split <;> simp
  have sign : decide (n < 0) = decide (k < 0) := by
    rcases lt_or_ge n 0 with negative | nonnegative
    · have below : k < 0 := by exact_mod_cast value ▸ near.neg negative
      rw [decide_eq_true negative, decide_eq_true below]
    · rw [decide_eq_false (not_lt.mpr nonnegative), if_neg Bool.false_ne_true, one_mul, size] at value
      have above : 0 ≤ k := by
        rw [← Int.cast_nonneg_iff (R := ℚ), ← value]
        exact Nat.cast_nonneg _
      rw [decide_eq_false (not_lt.mpr nonnegative), decide_eq_false (not_lt.mpr above)]
  refine ⟨k, m, e, grid, ?_, size, ?_⟩
  · rw [← sign]
    exact rounded
  · rw [← sign, ← value]
    exact near

end Binary

end Stencil.Numeric
