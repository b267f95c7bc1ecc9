import Stencil.Proofs.NearestNumbers

/-!
# What is rounded to a number

The quotients that are rounded to one number of a format fill an interval around it. It ends half-way to
the numbers next to it, and the ends belong to it when the significand is even. Below the first point of a
grid the next point lies on a finer one, only half as far away.

* `Covers`: a rational lies in the interval around a point;
* `Covers.unique`: no rational lies in two intervals;
* `ofQuotient_eq_iff`: a quotient is rounded to a number if and only if it lies in the interval around it.
-/

namespace Stencil.Numeric

variable {f : Format} {m n : ℕ} {e d : ℤ} {q r : ℚ}

/-! ## 1. Intervals -/

/-- How many quarters of a step it is from a point down to the lower end of its interval. -/
def Format.quartersBelow (f : Format) (m : ℕ) (e : ℤ) : ℕ :=
  if m = Nat.pow 2 (f.width - 1) ∧ f.least < e then 1 else 2

/-- The rational lies in the interval around `m · 2^e`; all is counted in quarters of a step. -/
structure Format.Covers (f : Format) (m : ℕ) (e : ℤ) (q : ℚ) : Prop where
  low : ((4 * m - f.quartersBelow m e : ℕ) : ℚ) * 2 ^ e ≤ 4 * q
  high : 4 * q ≤ ((4 * m + 2 : ℕ) : ℚ) * 2 ^ e
  /-- The ends belong to even significands only. -/
  inside : m % 2 = 1 →
    ((4 * m - f.quartersBelow m e : ℕ) : ℚ) * 2 ^ e < 4 * q ∧ 4 * q < ((4 * m + 2 : ℕ) : ℚ) * 2 ^ e

/-- The pair is written with as many bits as a significand has, unless it lies on the finest grid. -/
def Format.Normal (f : Format) (m : ℕ) (e : ℤ) : Prop :=
  m < Nat.pow 2 f.width ∧ f.least ≤ e ∧ (Nat.pow 2 (f.width - 1) ≤ m ∨ e = f.least)

instance (f : Format) (m : ℕ) (e : ℤ) : Decidable (f.Normal m e) := by
  unfold Format.Normal
  infer_instance

namespace Format

/-- A pair is on a grid if it is normal and not too large. -/
theorem onGrid_iff : f.OnGrid m e ↔ f.Normal m e ∧ e ≤ f.greatest :=
  ⟨fun ⟨bounded, least, greatest, full⟩ => ⟨⟨bounded, least, full⟩, greatest⟩,
    fun ⟨⟨bounded, least, full⟩, greatest⟩ => ⟨bounded, least, greatest, full⟩⟩

theorem quartersBelow_le (f : Format) (m : ℕ) (e : ℤ) : f.quartersBelow m e ≤ 2 := by
  unfold quartersBelow
  split <;> omega

theorem quartersBelow_pos (f : Format) (m : ℕ) (e : ℤ) : 0 < f.quartersBelow m e := by
  unfold quartersBelow
  split <;> omega

/-- The significand of the first point of a grid is even. -/
theorem first_even (f : Format) (wide : 1 < f.width) : Nat.pow 2 (f.width - 1) % 2 = 0 := by
  obtain ⟨k, width⟩ := Nat.exists_eq_add_of_lt wide
  rw [width, Nat.pow_eq, show 1 + k + 1 - 1 = k + 1 by omega, Nat.pow_succ, Nat.mul_mod_left]

namespace Covers

/-- What lies between two covered rationals is covered. -/
theorem between (h : f.Covers m e q) (h' : f.Covers m e r) {s : ℚ} (above : q ≤ s) (below : s ≤ r) :
    f.Covers m e s where
  low := h.low.trans (by linarith)
  high := h'.high.trans' (by linarith)
  inside odd := ⟨(h.inside odd).1.trans_le (by linarith), (h'.inside odd).2.trans_le' (by linarith)⟩

/-- A point is covered by its own interval. -/
theorem self (f : Format) {m : ℕ} (positive : 0 < m) (e : ℤ) : f.Covers m e (m * 2 ^ e) := by
  have step : (0 : ℚ) < 2 ^ e := by positivity
  have whole : (4 * (m * 2 ^ e) : ℚ) = (4 * m : ℕ) * 2 ^ e := by
    push_cast
    ring
  have nonzero := f.quartersBelow_pos m e
  have low : ((4 * m - f.quartersBelow m e : ℕ) : ℚ) * 2 ^ e < 4 * (m * 2 ^ e) := by
    rw [whole]
    exact mul_lt_mul_of_pos_right (by exact_mod_cast (by omega)) step
  have high : (4 * (m * 2 ^ e) : ℚ) < (4 * m + 2 : ℕ) * 2 ^ e := by
    rw [whole]
    exact mul_lt_mul_of_pos_right (by exact_mod_cast (by omega)) step
  exact ⟨low.le, high.le, fun _ => ⟨low, high⟩⟩

/-- Nothing but what is positive is covered by a point that is. -/
theorem pos (h : f.Covers m e q) (nonzero : 0 < m) : 0 < q := by
  have most := f.quartersBelow_le m e
  have low : (0 : ℚ) < ((4 * m - f.quartersBelow m e : ℕ) : ℚ) * 2 ^ e :=
    mul_pos (by exact_mod_cast (by omega)) (by positivity)
  linarith [h.low]

theorem pos_of_decimal {t : ℕ} {u : ℤ} (h : f.Covers m e (t * 10 ^ u)) (nonzero : 0 < m) : 0 < t := by
  refine Nat.pos_of_ne_zero fun zero => ?_
  have above := h.pos nonzero
  rw [zero, Nat.cast_zero, zero_mul] at above
  exact absurd above (lt_irrefl 0)

/-- Where an end is reached the significand is even. -/
theorem even_of_high (h : f.Covers m e q) (reached : 4 * q = ((4 * m + 2 : ℕ) : ℚ) * 2 ^ e) :
    m % 2 = 0 := by
  by_contra odd
  exact absurd reached (h.inside (by omega)).2.ne

theorem even_of_low (h : f.Covers m e q)
    (reached : ((4 * m - f.quartersBelow m e : ℕ) : ℚ) * 2 ^ e = 4 * q) : m % 2 = 0 := by
  by_contra odd
  exact absurd reached (h.inside (by omega)).1.ne

/-- The intervals around two points of one grid are apart. -/
theorem not_lt_significand (h : f.Covers m e q) (h' : f.Covers n e q) : ¬ m < n := by
  intro less
  have step : (0 : ℚ) < 2 ^ e := by positivity
  have meets := le_of_mul_le_mul_right (h'.low.trans h.high) step
  have meets : 4 * n - f.quartersBelow n e ≤ 4 * m + 2 := by exact_mod_cast meets
  have most := f.quartersBelow_le n e
  -- they meet in one end at most, and one of two neighbours is odd
  have ends : 4 * n - f.quartersBelow n e = 4 * m + 2 := by omega
  have high := h.high
  have low := h'.low
  rw [ends] at low
  have reached := le_antisymm high low
  have even := h.even_of_high reached
  have even' := h'.even_of_low (by rw [ends, reached])
  omega

/-- The interval around a point of a coarser grid lies above those of a finer one. -/
theorem not_lt_exponent (h : f.Covers m e q) (h' : f.Covers n d q) (wide : 1 < f.width)
    (normal : f.Normal m e) (normal' : f.Normal n d) : ¬ e < d := by
  intro finer
  obtain ⟨bounded, least, -⟩ := normal
  have full : Nat.pow 2 (f.width - 1) ≤ n := normal'.2.2.resolve_right (by omega)
  have double := f.pow_width (by omega)
  have start : 4 * Nat.pow 2 (f.width - 1) - 1 ≤ 4 * n - f.quartersBelow n d := by
    by_cases first : n = Nat.pow 2 (f.width - 1)
    · rw [quartersBelow, if_pos ⟨first, by omega⟩, first]
    · have most := f.quartersBelow_le n d
      omega
  have step : (0 : ℚ) < 2 ^ (e + 1) := by positivity
  have last : ((4 * m + 2 : ℕ) : ℚ) * 2 ^ e = ((2 * m + 1 : ℕ) : ℚ) * 2 ^ (e + 1) := by
    rw [zpow_add_one₀ two_ne_zero]
    push_cast
    ring
  have coarser : (2 : ℚ) ^ (e + 1) ≤ 2 ^ d := zpow_le_zpow_right₀ one_le_two finer
  have above : ((4 * Nat.pow 2 (f.width - 1) - 1 : ℕ) : ℚ) * 2 ^ (e + 1) ≤ 4 * q := calc
    _ ≤ ((4 * n - f.quartersBelow n d : ℕ) : ℚ) * 2 ^ (e + 1) :=
      mul_le_mul_of_nonneg_right (by exact_mod_cast start) step.le
    _ ≤ ((4 * n - f.quartersBelow n d : ℕ) : ℚ) * 2 ^ d :=
      mul_le_mul_of_nonneg_left coarser (Nat.cast_nonneg _)
    _ ≤ 4 * q := h'.low
  have below := h.high
  rw [last] at below
  have meets := le_of_mul_le_mul_right (above.trans below) step
  have meets : 4 * Nat.pow 2 (f.width - 1) - 1 ≤ 2 * m + 1 := by exact_mod_cast meets
  -- the last point of a grid is odd
  have ends : 2 * m + 1 = 4 * Nat.pow 2 (f.width - 1) - 1 := by omega
  have even := h.even_of_high (by rw [last, ends]; exact le_antisymm (by rwa [← ends]) above)
  omega

/-- **No rational lies in two intervals.** -/
theorem unique (h : f.Covers m e q) (h' : f.Covers n d q) (wide : 1 < f.width)
    (normal : f.Normal m e) (normal' : f.Normal n d) : m = n ∧ e = d := by
  have finer := h.not_lt_exponent h' wide normal normal'
  have coarser := h'.not_lt_exponent h wide normal' normal
  obtain rfl : e = d := by omega
  have less := h.not_lt_significand h'
  have more := h'.not_lt_significand h
  exact ⟨by omega, rfl⟩

end Covers

/-- What is nearer to a point than half a finer step is covered. -/
theorem covers_of_near {s : ℚ} (wide : 1 < f.width) (nonzero : 0 < m) (near : 2 * |q - m * 2 ^ e| ≤ s)
    (fine : s < 2 ^ e) (first : m = Nat.pow 2 (f.width - 1) → 2 * s ≤ 2 ^ e) : f.Covers m e q := by
  obtain ⟨far, near⟩ : -(s / 2) ≤ q - m * 2 ^ e ∧ q - m * 2 ^ e ≤ s / 2 := abs_le.mp (by linarith)
  have high : 4 * q < ((4 * m + 2 : ℕ) : ℚ) * 2 ^ e := by
    push_cast
    linarith
  by_cases start : m = Nat.pow 2 (f.width - 1) ∧ f.least < e
  · have one : f.quartersBelow m e = 1 := if_pos start
    have even := f.first_even wide
    have half := first start.1
    refine ⟨?_, high.le, fun odd => by omega⟩
    rw [one, Nat.cast_sub (by omega)]
    push_cast
    linarith
  · have two : f.quartersBelow m e = 2 := if_neg start
    have low : ((4 * m - f.quartersBelow m e : ℕ) : ℚ) * 2 ^ e < 4 * q := by
      rw [two, Nat.cast_sub (by omega)]
      push_cast
      linarith
    exact ⟨low.le, high.le, fun _ => ⟨low, high⟩⟩

end Format

/-! ## 2. Rounding -/

/-- A rational is covered by the steps that it is rounded to. -/
theorem Format.Rounds.covers (rounds : f.Rounds q m e) (nonnegative : 0 ≤ q) (wide : 1 < f.width) :
    f.Covers m e q := by
  obtain ⟨near, even, full, -⟩ := rounds
  have step : (0 : ℚ) < 2 ^ e := by positivity
  have above : ((4 * m + 2 : ℕ) : ℚ) * 2 ^ e = 4 * (m * 2 ^ e) + 2 * 2 ^ e := by
    push_cast
    ring
  obtain ⟨far, near⟩ : -(2 ^ e / 2) ≤ m * 2 ^ e - q ∧ m * 2 ^ e - q ≤ 2 ^ e / 2 :=
    abs_le.mp (by linarith)
  have high : 4 * q ≤ ((4 * m + 2 : ℕ) : ℚ) * 2 ^ e := by linarith
  by_cases first : m = Nat.pow 2 (f.width - 1) ∧ f.least < e
  · -- nothing below the first point of a grid is rounded on that grid
    have above := full.resolve_left (by omega)
    rw [← first.1] at above
    have fewer : ((4 * m - f.quartersBelow m e : ℕ) : ℚ) ≤ 4 * m := by
      exact_mod_cast Nat.sub_le (4 * m) _
    have low := mul_le_mul_of_nonneg_right fewer step.le
    have even := f.first_even wide
    exact ⟨by linarith, high, fun odd => by omega⟩
  · have two : f.quartersBelow m e = 2 := if_neg first
    obtain rfl | positive := Nat.eq_zero_or_pos m
    · refine ⟨?_, high, fun odd => by omega⟩
      rw [Nat.mul_zero, Nat.zero_sub, Nat.cast_zero, zero_mul]
      linarith
    · have below : ((4 * m - f.quartersBelow m e : ℕ) : ℚ) * 2 ^ e = 4 * (m * 2 ^ e) - 2 * 2 ^ e := by
        rw [two, Nat.cast_sub (by omega)]
        push_cast
        ring
      refine ⟨by linarith, high, fun odd => ?_⟩
      have apart : 2 * |m * 2 ^ e - q| ≠ 2 ^ e := fun half => absurd (even half) (by omega)
      have strict : |m * 2 ^ e - q| < 2 ^ e / 2 :=
        lt_of_le_of_ne (abs_le.mpr ⟨far, near⟩) fun half => apart (by linarith)
      obtain ⟨far, near⟩ := abs_lt.mp strict
      constructor <;> linarith

/-- What is rounded to one bit too many is covered by the first point of the next grid. -/
theorem Format.Rounds.covers_next (rounds : f.Rounds q m e) (wide : 1 < f.width)
    (least : f.least ≤ e) (carried : m = Nat.pow 2 f.width) : f.Covers (m / 2) (e + 1) q := by
  obtain ⟨near, -, -, bounded⟩ := rounds
  have step : (0 : ℚ) < 2 ^ e := by positivity
  have double := f.pow_width (by omega)
  have even := f.first_even wide
  have half : m / 2 = Nat.pow 2 (f.width - 1) := by omega
  obtain ⟨k, first⟩ : ∃ k, Nat.pow 2 (f.width - 1) = k + 1 :=
    ⟨_, (Nat.sub_add_cancel (Nat.pow_pos (by decide))).symm⟩
  have one : f.quartersBelow (m / 2) (e + 1) = 1 := if_pos ⟨half, by omega⟩
  have far := (abs_le.mp (by linarith : |m * 2 ^ e - q| ≤ 2 ^ e / 2)).2
  rw [carried, double, first] at far
  rw [double, first] at bounded
  rw [half, first] at one ⊢
  refine ⟨?_, ?_, fun odd => by omega⟩
  · rw [one, zpow_add_one₀ two_ne_zero, Nat.cast_sub (by omega)]
    push_cast at far ⊢
    linarith
  · rw [zpow_add_one₀ two_ne_zero]
    push_cast at bounded ⊢
    linarith

namespace Binary

variable {num den : ℕ} {negative : Bool}

/-- A quotient is rounded to the point whose interval it lies in. -/
theorem exists_covers (negative : Bool) (wide : 1 < f.width) (positive : 0 < num)
    (positive' : 0 < den) : ∃ (n : ℕ) (d : ℤ), f.Normal n d ∧ f.Covers n d (num / den) ∧
      (ofQuotient negative num den : Binary f) = atPoint negative n d := by
  obtain ⟨m, e, exponent, rounds, written⟩ :=
    ofQuotient_eq_atPoint (f := f) negative wide positive positive'
  have least : f.least ≤ e := exponent ▸ le_max_left _ _
  by_cases carried : m = Nat.pow 2 f.width
  · rw [if_pos carried] at written
    have double := f.pow_width (by omega)
    have nonzero : 0 < Nat.pow 2 f.width := Nat.pow_pos (by decide)
    exact ⟨m / 2, e + 1, ⟨by omega, by omega, .inl (by omega)⟩,
      rounds.covers_next wide least carried, written⟩
  · rw [if_neg carried] at written
    exact ⟨m, e, ⟨lt_of_le_of_ne rounds.le carried, least, rounds.leading⟩,
      rounds.covers (by positivity) wide, written⟩

/-- **A quotient is rounded to a number if and only if it lies in the interval around it**, and has its
sign. -/
theorem ofQuotient_eq_iff {negative' : Bool} (wide : 1 < f.width) (positive : 0 < den) (nonzero : 0 < m)
    {grid : f.OnGrid m e} : ofQuotient negative num den = .finite negative' m e grid ↔
      negative = negative' ∧ f.Covers m e (num / den) := by
  obtain ⟨normal, bound⟩ := Format.onGrid_iff.mp grid
  obtain rfl | above := Nat.eq_zero_or_pos num
  · constructor
    · intro rounded
      rw [ofQuotient, if_pos rfl, zero] at rounded
      split at rounded <;> cases rounded
      cases nonzero
    · rintro ⟨-, covers⟩
      have above := covers.pos nonzero
      rw [Nat.cast_zero, zero_div] at above
      exact absurd above (lt_irrefl 0)
  · obtain ⟨n, d, normal', covers', written⟩ := exists_covers (f := f) negative wide above positive
    constructor
    · intro rounded
      rw [written, atPoint] at rounded
      split at rounded <;> cases rounded
      exact ⟨rfl, covers'⟩
    · rintro ⟨rfl, covers⟩
      obtain ⟨rfl, rfl⟩ := covers.unique covers' wide normal normal'
      rw [written, atPoint, dif_pos grid]

end Binary

end Stencil.Numeric
