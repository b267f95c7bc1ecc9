import Stencil.Numeric.Shortest
import Stencil.Proofs.RoundingIntervals
import Stencil.Proofs.WholeNumbers

/-!
# Shortest digits

The search for shortest digits goes through decimal grids, each ten times finer than the one before, and
on each tries the two neighbours of a number. It is enough to try these: a decimal between them lies on a
finer grid. The first grid with a hit therefore has as many digits as a shortest decimal, and there is one
among the first seventeen.

* `holds_iff`: what the search looks for is what is rounded to the number;
* `decimalPoint_bounds`: where the first digit of a quotient stands;
* `decimal_le_or_ge`: no decimal of so many digits lies strictly between the neighbours on their grid;
* `hit?_seventeen`: seventeen digits are enough;
* `shortestAt_shortest`: what is found has the fewest digits of all decimals that are rounded to the
  number, and of those with as few lies nearest to it.
-/

namespace Stencil.Numeric

variable {f : Format} {m n t : ℕ} {e u : ℤ} {q : ℚ}

/-! ## 1. Powers of ten -/

theorem ten_zpow_eq (u : ℤ) :
    (10 : ℚ) ^ u * (Nat.pow 10 (-u).toNat : ℕ) = (Nat.pow 10 u.toNat : ℕ) :=
  zpow_mul_pow (Nat.succ_pos 9) u

/-- The interval that the search for shortest digits goes through. -/
def Format.interval (f : Format) (m : ℕ) (e : ℤ) : Interval :=
  ⟨(4 * m - f.quartersBelow m e) * scaleUp e, (4 * m + 2) * scaleUp e, 4 * scaleDown e, m % 2 == 0⟩

/-- **The interval holds the decimals that are rounded to its point.** -/
theorem holds_iff : (f.interval m e).holds t u = true ↔ f.Covers m e (t * 10 ^ u) := by
  have scale : (0 : ℚ) < (Nat.pow 10 (-u).toNat : ℕ) * scaleDown e :=
    mul_pos (Nat.cast_pos.mpr (Nat.pow_pos (by decide))) (Nat.cast_pos.mpr (scaleDown_pos e))
  have decimal : ((t * Nat.pow 10 u.toNat * (4 * scaleDown e) : ℕ) : ℚ) =
      4 * (t * 10 ^ u) * ((Nat.pow 10 (-u).toNat : ℕ) * scaleDown e) := by
    rw [Nat.cast_mul, Nat.cast_mul, ← ten_zpow_eq]
    push_cast
    ring
  have ends : ∀ k : ℕ, ((k * scaleUp e * Nat.pow 10 (-u).toNat : ℕ) : ℚ) =
      k * 2 ^ e * ((Nat.pow 10 (-u).toNat : ℕ) * scaleDown e) := by
    intro k
    rw [Nat.cast_mul, Nat.cast_mul, ← two_zpow_eq]
    ring
  -- all is compared without denominators
  have le_iff : ∀ k : ℕ, k * scaleUp e * Nat.pow 10 (-u).toNat ≤
      t * Nat.pow 10 u.toNat * (4 * scaleDown e) ↔ (k : ℚ) * 2 ^ e ≤ 4 * (t * 10 ^ u) := by
    intro k
    rw [← Nat.cast_le (α := ℚ), ends, decimal, mul_le_mul_iff_left₀ scale]
  have ge_iff : ∀ k : ℕ, t * Nat.pow 10 u.toNat * (4 * scaleDown e) ≤
      k * scaleUp e * Nat.pow 10 (-u).toNat ↔ 4 * (t * 10 ^ u) ≤ (k : ℚ) * 2 ^ e := by
    intro k
    rw [← Nat.cast_le (α := ℚ), ends, decimal, mul_le_mul_iff_left₀ scale]
  rw [Interval.holds, Format.interval]
  dsimp only
  obtain even | odd : m % 2 = 0 ∨ m % 2 = 1 := by omega
  · rw [even, beq_self_eq_true, if_pos rfl, Bool.and_eq_true, decide_eq_true_iff, decide_eq_true_iff,
      le_iff, ge_iff]
    exact ⟨fun ⟨low, high⟩ => ⟨low, high, fun odd => by omega⟩, fun h => ⟨h.low, h.high⟩⟩
  · rw [odd, if_neg (by decide), Bool.and_eq_true, decide_eq_true_iff, decide_eq_true_iff,
      ← not_le, ← not_le, le_iff, ge_iff, not_le, not_le]
    exact ⟨fun ⟨low, high⟩ => ⟨low.le, high.le, fun _ => ⟨low, high⟩⟩, fun h => h.inside odd⟩

theorem pow_le_of_length_digits {n : ℕ} (positive : 0 < n) : 10 ^ ((digits n).length - 1) ≤ n := by
  obtain one | more : (digits n).length - 1 = 0 ∨ 0 < (digits n).length - 1 := by omega
  · rw [one]
    exact positive
  · rw [← not_lt, ← Nat.length_toDigits_le_iff (by decide) more]
    exact Nat.not_le.mpr (Nat.sub_lt (by omega) Nat.one_pos)

theorem lt_pow_length_digits (n : ℕ) : n < 10 ^ (digits n).length :=
  (Nat.length_toDigits_le_iff (by decide) Nat.length_toDigits_pos).mp (le_refl _)

/-! ## 2. Decimal grids -/

section Grids

variable {num den : ℕ}

/-- The digits of a floor bound what it is the floor of. -/
theorem digits_div_bounds (positive : 0 < den) (le : den ≤ num) :
    (10 : ℚ) ^ (((digits (num / den)).length : ℤ) - 1) * den ≤ num ∧
      (num : ℚ) < 10 ^ ((digits (num / den)).length : ℤ) * den := by
  have digit : 0 < (digits (num / den)).length := Nat.length_toDigits_pos
  have low : 10 ^ ((digits (num / den)).length - 1) * den ≤ num := calc
    _ ≤ num / den * den := Nat.mul_le_mul_right den (pow_le_of_length_digits (Nat.div_pos le positive))
    _ ≤ num := Nat.div_mul_le_self num den
  have high : num < 10 ^ (digits (num / den)).length * den :=
    (Nat.div_lt_iff_lt_mul positive).mp (lt_pow_length_digits (num / den))
  constructor
  · rw [show ((digits (num / den)).length : ℤ) - 1 = ((digits (num / den)).length - 1 : ℕ) by omega,
      zpow_natCast]
    exact_mod_cast low
  · rw [zpow_natCast]
    exact_mod_cast high

/-- Below one the digits of the reciprocal count the zeros behind the point. -/
theorem decimalPoint_bounds_of_lt (positive : 0 < num) (less : num < den) :
    (10 : ℚ) ^ (decimalPoint num den - 1) ≤ num / den ∧ (num / den : ℚ) < 10 ^ decimalPoint num den := by
  have above : (0 : ℚ) < den := Nat.cast_pos.mpr (positive.trans less)
  obtain ⟨low, high⟩ := digits_div_bounds positive less.le
  have digit : 0 < (digits (den / num)).length := Nat.length_toDigits_pos
  rw [decimalPoint, if_neg (Nat.not_le.mpr less)]
  dsimp only
  generalize (digits (den / num)).length = j at low high digit
  have cancel : ∀ k : ℤ, (10 : ℚ) ^ (-k) * 10 ^ k = 1 := fun k => by
    rw [← zpow_add₀ (by decide), neg_add_cancel, zpow_zero]
  have back : ((Nat.pow 10 (j - 1) : ℕ) : ℚ) = 10 ^ ((j : ℤ) - 1) := by
    rw [show (j : ℤ) - 1 = (j - 1 : ℕ) by omega, zpow_natCast, Nat.pow_eq, Nat.cast_pow, Nat.cast_ofNat]
  -- a power of ten is its own floor
  split
  · rename_i whole
    have whole : (num : ℚ) * 10 ^ ((j : ℤ) - 1) = den := by rw [← back, ← whole, Nat.cast_mul]
    have quotient : (num / den : ℚ) = 10 ^ (-((j : ℤ) - 1)) := by
      rw [div_eq_iff above.ne', ← whole, mul_left_comm, cancel, mul_one]
    rw [quotient]
    exact ⟨zpow_le_zpow_right₀ (by norm_num) (by omega), zpow_lt_zpow_right₀ (by norm_num) (by omega)⟩
  · rename_i part
    have strict : (10 : ℚ) ^ ((j : ℤ) - 1) * num < den := by
      refine lt_of_le_of_ne low fun whole => part ?_
      have whole : ((num * Nat.pow 10 (j - 1) : ℕ) : ℚ) = den := by
        rw [Nat.cast_mul, back, mul_comm, whole]
      exact_mod_cast whole
    constructor
    · rw [le_div_iff₀ above, show (1 - (j : ℤ) - 1) = -j by omega]
      calc (10 : ℚ) ^ (-(j : ℤ)) * den ≤ 10 ^ (-(j : ℤ)) * (10 ^ (j : ℤ) * num) :=
            mul_le_mul_of_nonneg_left high.le (by positivity)
        _ = num := by rw [← mul_assoc, cancel, one_mul]
    · rw [div_lt_iff₀ above, show (1 - (j : ℤ)) = -((j : ℤ) - 1) by omega]
      calc (num : ℚ) = 10 ^ (-((j : ℤ) - 1)) * (10 ^ ((j : ℤ) - 1) * num) := by
            rw [← mul_assoc, cancel, one_mul]
        _ < 10 ^ (-((j : ℤ) - 1)) * den := mul_lt_mul_of_pos_left strict (by positivity)

/-- The first digit of a quotient stands right behind its point. -/
theorem decimalPoint_bounds (positive : 0 < num) (positive' : 0 < den) :
    (10 : ℚ) ^ (decimalPoint num den - 1) ≤ num / den ∧ (num / den : ℚ) < 10 ^ decimalPoint num den := by
  rcases le_or_gt den num with le | less
  · have above : (0 : ℚ) < den := Nat.cast_pos.mpr positive'
    obtain ⟨low, high⟩ := digits_div_bounds positive' le
    rw [decimalPoint, if_pos le]
    exact ⟨(le_div_iff₀ above).mpr low, (div_lt_iff₀ above).mpr high⟩
  · exact decimalPoint_bounds_of_lt positive less

/-- The number of whole steps of `10^u` in a quotient. -/
def wholeSteps (num den : ℕ) (u : ℤ) : ℕ := num * Nat.pow 10 (-u).toNat / (den * Nat.pow 10 u.toNat)

theorem wholeSteps_bounds (num : ℕ) (positive : 0 < den) (u : ℤ) :
    (wholeSteps num den u : ℚ) * 10 ^ u ≤ num / den ∧
      (num / den : ℚ) < ((wholeSteps num den u + 1 : ℕ) : ℚ) * 10 ^ u := by
  have above : (0 : ℚ) < den := Nat.cast_pos.mpr positive
  have scale : (0 : ℚ) < (Nat.pow 10 (-u).toNat : ℕ) := Nat.cast_pos.mpr (Nat.pow_pos (by decide))
  have nonzero : 0 < den * Nat.pow 10 u.toNat := Nat.mul_pos positive (Nat.pow_pos (by decide))
  have low := Nat.div_mul_le_self (num * Nat.pow 10 (-u).toNat) (den * Nat.pow 10 u.toNat)
  have high := Nat.lt_mul_div_succ (num * Nat.pow 10 (-u).toNat) nonzero
  rw [← wholeSteps, ← Nat.cast_le (α := ℚ), Nat.cast_mul, Nat.cast_mul, Nat.cast_mul,
    ← ten_zpow_eq u] at low
  rw [← wholeSteps, ← Nat.cast_lt (α := ℚ), Nat.cast_mul, Nat.cast_mul, Nat.cast_mul,
    ← ten_zpow_eq u] at high
  constructor
  · rw [le_div_iff₀ above, ← mul_le_mul_iff_left₀ scale]
    linarith
  · rw [div_lt_iff₀ above, ← mul_lt_mul_iff_left₀ scale]
    linarith

/-- **Every decimal of so many digits lies on one side of a quotient's neighbours on the grid of as many
digits**: it lies on that grid too, or below its first point. -/
theorem decimal_le_or_ge (positive : 0 < num) (positive' : 0 < den) {n : ℕ} (nonzero : 0 < n)
    (decimal : t < 10 ^ n) (w : ℤ) :
    (t * 10 ^ w : ℚ) ≤ wholeSteps num den (decimalPoint num den - n) * 10 ^ (decimalPoint num den - n) ∨
      ((wholeSteps num den (decimalPoint num den - n) + 1 : ℕ) : ℚ) * 10 ^ (decimalPoint num den - n) ≤
        t * 10 ^ w := by
  have low := (decimalPoint_bounds positive positive').1
  have high := (wholeSteps_bounds num positive' (decimalPoint num den - n)).2
  generalize decimalPoint num den = point at low high
  generalize wholeSteps num den (point - n) = steps at high
  have step : (0 : ℚ) < 10 ^ (point - n) := by positivity
  rcases le_or_gt (point - n) w with coarse | fine
  · obtain ⟨k, rfl⟩ : ∃ k : ℕ, w = point - n + k := ⟨(w - (point - n)).toNat, by omega⟩
    have whole : (t * 10 ^ (point - n + k) : ℚ) = ((t * 10 ^ k : ℕ) : ℚ) * 10 ^ (point - n) := by
      rw [zpow_add₀ (by decide), zpow_natCast]
      push_cast
      ring
    rw [whole]
    obtain below | above : t * 10 ^ k ≤ steps ∨ steps + 1 ≤ t * 10 ^ k := by omega
    · exact .inl (mul_le_mul_of_nonneg_right (by exact_mod_cast below) step.le)
    · exact .inr (mul_le_mul_of_nonneg_right (by exact_mod_cast above) step.le)
  · have first : (10 : ℚ) ^ (point - 1) = ((10 ^ (n - 1) : ℕ) : ℚ) * 10 ^ (point - n) := by
      rw [Nat.cast_pow, Nat.cast_ofNat, ← zpow_natCast, ← zpow_add₀ (by decide)]
      congr 1
      omega
    have steps_ge : 10 ^ (n - 1) ≤ steps := by
      have less := lt_of_mul_lt_mul_right (first ▸ low.trans_lt high) step.le
      exact Nat.lt_succ_iff.mp (by exact_mod_cast less)
    left
    calc (t * 10 ^ w : ℚ) ≤ ((10 ^ n : ℕ) : ℚ) * 10 ^ w :=
          mul_le_mul_of_nonneg_right (by exact_mod_cast decimal.le) (by positivity)
      _ = 10 ^ (n + w) := by
        rw [Nat.cast_pow, Nat.cast_ofNat, ← zpow_natCast, ← zpow_add₀ (by decide)]
      _ ≤ 10 ^ (point - 1) := zpow_le_zpow_right₀ (by norm_num) (by omega)
      _ = ((10 ^ (n - 1) : ℕ) : ℚ) * 10 ^ (point - n) := first
      _ ≤ steps * 10 ^ (point - n) :=
        mul_le_mul_of_nonneg_right (by exact_mod_cast steps_ge) step.le

/-! ## 3. The search -/

variable {tie : Tie} {i : Interval}

theorem nearestOnGrid?_eq_none_iff : nearestOnGrid? tie i num den t u = none ↔
    i.holds t u = false ∧ i.holds (t + 1) u = false := by
  unfold nearestOnGrid?
  cases i.holds t u <;> cases i.holds (t + 1) u <;>
    simp only [reduceCtorEq, false_and, and_false, and_self]
  split_ifs <;> cases tie <;> simp

/-- Where both neighbours are held, the middle between them says which is taken. -/
theorem nearestOnGrid?_of_both {k : ℕ} (positive : 0 < den) (first : i.holds t u = true)
    (second : i.holds (t + 1) u = true) (h : nearestOnGrid? tie i num den t u = some k) :
    k = t ∧ (2 * (num / den) : ℚ) ≤ (2 * t + 1) * 10 ^ u ∨
      k = t + 1 ∧ ((2 * t + 1) * 10 ^ u : ℚ) ≤ 2 * (num / den) := by
  have above : (0 : ℚ) < den := Nat.cast_pos.mpr positive
  have scale : (0 : ℚ) < den * (Nat.pow 10 (-u).toNat : ℕ) :=
    mul_pos above (Nat.cast_pos.mpr (Nat.pow_pos (by decide)))
  have left : ((2 * num * Nat.pow 10 (-u).toNat : ℕ) : ℚ) =
      2 * (num / den) * (den * (Nat.pow 10 (-u).toNat : ℕ)) := by
    have cancel : (num / den : ℚ) * den = num := div_mul_cancel₀ _ above.ne'
    rw [Nat.cast_mul, Nat.cast_mul, Nat.cast_ofNat]
    linear_combination (-2 * ((Nat.pow 10 (-u).toNat : ℕ) : ℚ)) * cancel
  have right : (((2 * t + 1) * Nat.pow 10 u.toNat * den : ℕ) : ℚ) =
      (2 * t + 1) * 10 ^ u * (den * (Nat.pow 10 (-u).toNat : ℕ)) := by
    rw [Nat.cast_mul, Nat.cast_mul, ← ten_zpow_eq u]
    push_cast
    ring
  have le_iff : 2 * num * Nat.pow 10 (-u).toNat ≤ (2 * t + 1) * Nat.pow 10 u.toNat * den ↔
      (2 * (num / den) : ℚ) ≤ (2 * t + 1) * 10 ^ u := by
    rw [← Nat.cast_le (α := ℚ), left, right, mul_le_mul_iff_left₀ scale]
  have ge_iff : (2 * t + 1) * Nat.pow 10 u.toNat * den ≤ 2 * num * Nat.pow 10 (-u).toNat ↔
      ((2 * t + 1) * 10 ^ u : ℚ) ≤ 2 * (num / den) := by
    rw [← Nat.cast_le (α := ℚ), left, right, mul_le_mul_iff_left₀ scale]
  rw [nearestOnGrid?.eq_def, first, second] at h
  dsimp only at h
  rw [← le_iff, ← ge_iff]
  split_ifs at h with less more
  · exact .inl ⟨(Option.some.inj h).symm, less.le⟩
  · exact .inr ⟨(Option.some.inj h).symm, more.le⟩
  · -- the middle itself goes to either side
    cases tie with
    | up => exact .inr ⟨(Option.some.inj h).symm, Nat.le_of_not_lt less⟩
    | even =>
      have taken := Option.some.inj h
      obtain even | odd : t % 2 = 0 ∨ t % 2 = 1 := by omega
      · exact .inl ⟨by omega, Nat.le_of_not_lt more⟩
      · exact .inr ⟨by omega, Nat.le_of_not_lt less⟩

/-- **On a grid the nearest of the two neighbours is taken**, among those that the interval holds. -/
theorem nearestOnGrid?_eq_some {k : ℕ} (positive : 0 < den)
    (h : nearestOnGrid? tie i num den (wholeSteps num den u) u = some k) :
    i.holds k u = true ∧ (k = wholeSteps num den u ∨ k = wholeSteps num den u + 1) ∧
      ∀ j, j = wholeSteps num den u ∨ j = wholeSteps num den u + 1 → i.holds j u = true →
        |(k * 10 ^ u - num / den : ℚ)| ≤ |(j * 10 ^ u - num / den : ℚ)| := by
  obtain ⟨low, high⟩ := wholeSteps_bounds num positive u
  generalize wholeSteps num den u = t at h low high
  cases first : i.holds t u with
  | false =>
    cases second : i.holds (t + 1) u with
    | false => cases h.symm.trans (nearestOnGrid?_eq_none_iff.mpr ⟨first, second⟩)
    | true =>
      rw [nearestOnGrid?.eq_def, first, second] at h
      cases h
      refine ⟨second, .inr rfl, fun j among holds => ?_⟩
      rcases among with rfl | rfl
      · cases first.symm.trans holds
      · exact le_refl _
  | true =>
    cases second : i.holds (t + 1) u with
    | false =>
      rw [nearestOnGrid?.eq_def, first, second] at h
      cases h
      refine ⟨first, .inl rfl, fun j among holds => ?_⟩
      rcases among with rfl | rfl
      · exact le_refl _
      · cases second.symm.trans holds
    | true =>
      have size : |(t * 10 ^ u - num / den : ℚ)| = num / den - t * 10 ^ u := by
        rw [abs_of_nonpos (by linarith), neg_sub]
      have size' : |((t + 1 : ℕ) * 10 ^ u - num / den : ℚ)| = (t + 1 : ℕ) * 10 ^ u - num / den :=
        abs_of_nonneg (by linarith)
      have next : ((t + 1 : ℕ) * 10 ^ u : ℚ) = t * 10 ^ u + 10 ^ u := by
        push_cast
        ring
      rcases nearestOnGrid?_of_both positive first second h with ⟨rfl, near⟩ | ⟨rfl, near⟩
      · refine ⟨first, .inl rfl, fun j among _ => ?_⟩
        rcases among with rfl | rfl
        · exact le_refl _
        · rw [size, size', next]
          linarith
      · refine ⟨second, .inr rfl, fun j among _ => ?_⟩
        rcases among with rfl | rfl
        · rw [size, size', next]
          linarith
        · exact le_refl _

/-- What is found on the grid of so many digits. -/
def hit? (tie : Tie) (i : Interval) (num den : ℕ) (n : ℕ) : Option ℕ :=
  nearestOnGrid? tie i num den (wholeSteps num den (decimalPoint num den - n))
    (decimalPoint num den - n)

/-- **The search stops at the first grid with a hit**, by induction on the grids that are left. -/
theorem searchGrids_of_hit {fuel first n k : ℕ} (low : first ≤ n) (high : n < first + fuel)
    (before : ∀ l, first ≤ l → l < n → hit? tie i num den l = none)
    (hit : hit? tie i num den n = some k) :
    searchGrids tie i num den (decimalPoint num den) fuel first = (k, decimalPoint num den - n) := by
  induction fuel generalizing first with
  | zero => omega
  | succ fuel ih =>
    rw [searchGrids]
    obtain rfl | more := low.eq_or_lt
    · rw [← wholeSteps, ← hit?, hit]
    · have missed := before first (le_refl _) more
      rw [← wholeSteps, ← hit?, missed]
      exact ih more (by omega) fun l above below => before l (by omega) below

end Grids

/-! ## 4. Hits -/

section Hits

variable {tie : Tie} {num den : ℕ}

theorem not_covers_of_hit?_eq_none (positive : 0 < num) (positive' : 0 < den) (nonzero : 0 < m)
    (quotient : (num / den : ℚ) = m * 2 ^ e) {n : ℕ} (digit : 0 < n)
    (none : hit? tie (f.interval m e) num den n = none) (decimal : t < 10 ^ n) (w : ℤ) :
    ¬ f.Covers m e (t * 10 ^ w) := by
  intro covers
  obtain ⟨low, high⟩ := wholeSteps_bounds num positive' (decimalPoint num den - n)
  rw [quotient] at low high
  obtain ⟨below, above⟩ := nearestOnGrid?_eq_none_iff.mp none
  have self := Format.Covers.self f nonzero e
  rcases decimal_le_or_ge positive positive' digit decimal w with le | ge
  · exact absurd (holds_iff.mpr (covers.between self le low)) (by rw [below]; decide)
  · exact absurd (holds_iff.mpr (self.between covers high.le ge)) (by rw [above]; decide)

/-- **What is hit is rounded to the point**, and no decimal of so many digits that is lies nearer to
it. -/
theorem nearest_of_hit?_eq_some (positive : 0 < num) (positive' : 0 < den) (nonzero : 0 < m)
    (quotient : (num / den : ℚ) = m * 2 ^ e) {n k : ℕ} (digit : 0 < n)
    (hit : hit? tie (f.interval m e) num den n = some k) :
    f.Covers m e (k * 10 ^ (decimalPoint num den - n)) ∧ k ≤ 10 ^ n ∧
      ∀ (t : ℕ) (w : ℤ), t < 10 ^ n → f.Covers m e (t * 10 ^ w) →
        |(k * 10 ^ (decimalPoint num den - n) - m * 2 ^ e : ℚ)| ≤ |(t * 10 ^ w - m * 2 ^ e : ℚ)| := by
  have bound := (decimalPoint_bounds positive positive').2
  obtain ⟨low, high⟩ := wholeSteps_bounds num positive' (decimalPoint num den - n)
  obtain ⟨holds, among, nearest⟩ := nearestOnGrid?_eq_some positive' hit
  rw [quotient] at low high bound
  have self := Format.Covers.self f nonzero e
  have step : (0 : ℚ) < 10 ^ (decimalPoint num den - n) := by positivity
  refine ⟨holds_iff.mp holds, ?_, fun t w decimal covers => ?_⟩
  · -- the quotient has so many whole digits on the grid
    have whole : (10 : ℚ) ^ decimalPoint num den =
        ((10 ^ n : ℕ) : ℚ) * 10 ^ (decimalPoint num den - n) := by
      rw [Nat.cast_pow, Nat.cast_ofNat, ← zpow_natCast, ← zpow_add₀ (by decide)]
      congr 1
      omega
    have less := lt_of_mul_lt_mul_right (whole ▸ low.trans_lt bound) step.le
    have less : wholeSteps num den (decimalPoint num den - n) < 10 ^ n := by exact_mod_cast less
    omega
  · rw [quotient] at nearest
    rcases decimal_le_or_ge positive positive' digit decimal w with le | ge
    · refine (nearest _ (.inl rfl) (holds_iff.mpr (covers.between self le low))).trans ?_
      rw [abs_of_nonpos (by linarith), abs_of_nonpos (by linarith)]
      linarith
    · refine (nearest _ (.inr rfl) (holds_iff.mpr (self.between covers high.le ge))).trans ?_
      rw [abs_of_nonneg (by linarith), abs_of_nonneg (by linarith)]
      linarith

/-- **Seventeen digits tell any two numbers of a format apart** that is not too wide. -/
theorem hit?_seventeen (positive : 0 < num) (positive' : 0 < den) (nonzero : 0 < m)
    (quotient : (num / den : ℚ) = m * 2 ^ e) (wide : 1 < f.width)
    (narrow : Nat.pow 2 f.width ≤ 10 ^ 16) (bounded : m < Nat.pow 2 f.width) :
    hit? tie (f.interval m e) num den 17 ≠ none := by
  intro none
  obtain ⟨below, above⟩ := nearestOnGrid?_eq_none_iff.mp none
  have bound := (decimalPoint_bounds positive positive').1
  obtain ⟨low, high⟩ := wholeSteps_bounds num positive' (decimalPoint num den - (17 : ℕ))
  rw [quotient] at bound low high
  have sixteen : (10 : ℚ) ^ (decimalPoint num den - 1) =
      10 ^ 16 * 10 ^ (decimalPoint num den - (17 : ℕ)) := by
    rw [← zpow_natCast, ← zpow_add₀ (by decide)]
    congr 1
    omega
  rw [sixteen] at bound
  generalize decimalPoint num den - (17 : ℕ) = u at below above bound low high
  generalize wholeSteps num den u = t at below above low high
  have power : (0 : ℚ) < 2 ^ e := by positivity
  -- a step of the decimal grid is finer than one of the binary grid
  have fine : (10 : ℚ) ^ u < 2 ^ e := by
    have less : (m : ℚ) < 10 ^ 16 := by exact_mod_cast bounded.trans_le narrow
    have scaled := mul_lt_mul_of_pos_right less power
    linarith
  have first : m = Nat.pow 2 (f.width - 1) → 2 * (10 : ℚ) ^ u ≤ 2 ^ e := by
    intro first
    have double := f.pow_width (by omega)
    have less : (2 * m : ℚ) ≤ 10 ^ 16 := by exact_mod_cast (by omega : 2 * m ≤ 10 ^ 16)
    have scaled := mul_le_mul_of_nonneg_right less power.le
    linarith
  have missed : ∀ k : ℕ, (f.interval m e).holds k u = false →
      ¬ 2 * |(k * 10 ^ u - m * 2 ^ e : ℚ)| ≤ 10 ^ u := by
    intro k misses near
    cases misses.symm.trans (holds_iff.mpr (Format.covers_of_near wide nonzero near fine first))
  have apart := missed t below
  have apart' := missed (t + 1) above
  rw [abs_of_nonpos (by linarith)] at apart
  rw [abs_of_nonneg (by linarith)] at apart'
  push_cast at apart'
  linarith

/-- The search comes to a grid with a hit, and there is none before it. -/
theorem exists_hit (tie : Tie) (positive : 0 < num) (positive' : 0 < den) (nonzero : 0 < m)
    (quotient : (num / den : ℚ) = m * 2 ^ e) (wide : 1 < f.width)
    (narrow : Nat.pow 2 f.width ≤ 10 ^ 16) (bounded : m < Nat.pow 2 f.width) :
    ∃ n k, 0 < n ∧ n ≤ 17 ∧ hit? tie (f.interval m e) num den n = some k ∧
      ∀ l, 1 ≤ l → l < n → hit? tie (f.interval m e) num den l = none := by
  classical
  have last : ∃ n, 0 < n ∧ hit? tie (f.interval m e) num den n ≠ none :=
    ⟨17, by decide, hit?_seventeen positive positive' nonzero quotient wide narrow bounded⟩
  obtain ⟨digit, found⟩ := Nat.find_spec last
  obtain ⟨k, hit⟩ := Option.ne_none_iff_exists'.mp found
  refine ⟨Nat.find last, k, digit, Nat.find_min' last ?_, hit, fun l above below => ?_⟩
  · exact ⟨by decide, hit?_seventeen positive positive' nonzero quotient wide narrow bounded⟩
  · by_contra found
    exact Nat.find_min last below ⟨above, found⟩

end Hits

/-! ## 5. Shortest decimals -/

/-- What digits with a point stand for. -/
def Significant.value (s : Significant) : ℚ := ofDigits s.digits * 10 ^ (s.point - s.digits.length)

/-- The digits are those of a shortest decimal that is rounded to the point, without zeros at either end:
no decimal that is has fewer digits, and none with as few lies nearer to the point. -/
structure Format.ShortestAt (f : Format) (m : ℕ) (e : ℤ) (s : Significant) : Prop where
  digital : ∀ c ∈ s.digits, c.isDigit = true
  leading : ∃ d ds, s.digits = d :: ds ∧ d ≠ '0'
  trailing : ∀ c ∈ s.digits.getLast?, c ≠ '0'
  covers : f.Covers m e s.value
  least : ∀ (t : ℕ) (w : ℤ), f.Covers m e (t * 10 ^ w) → s.digits.length ≤ (digits t).length
  nearest : ∀ (t : ℕ) (w : ℤ), f.Covers m e (t * 10 ^ w) → (digits t).length ≤ s.digits.length →
    |s.value - m * 2 ^ e| ≤ |(t * 10 ^ w - m * 2 ^ e : ℚ)|

/-- Digits are those in front of the zeros at their end, and these zeros. -/
theorem exists_append_zeros (ds : List Char) : ∃ j, ds = dropTrailingZeros ds ++ List.replicate j '0' := by
  have zeros : ∃ j, ds.reverse.takeWhile (· == '0') = List.replicate j '0' :=
    ⟨_, List.eq_replicate_of_mem fun c mem => by simpa using List.mem_takeWhile_imp mem⟩
  obtain ⟨j, zeros⟩ := zeros
  refine ⟨j, ?_⟩
  calc ds = (ds.reverse.takeWhile (· == '0') ++ ds.reverse.dropWhile (· == '0')).reverse := by
        rw [List.takeWhile_append_dropWhile, List.reverse_reverse]
    _ = dropTrailingZeros ds ++ (ds.reverse.takeWhile (· == '0')).reverse := List.reverse_append
    _ = dropTrailingZeros ds ++ List.replicate j '0' := by rw [zeros, List.reverse_replicate]

theorem getLast?_dropTrailingZeros {ds : List Char} {c : Char}
    (last : c ∈ (dropTrailingZeros ds).getLast?) : c ≠ '0' := by
  have first := List.head?_dropWhile_not (· == '0') ds.reverse
  rw [dropTrailingZeros, List.getLast?_reverse, Option.mem_def] at last
  rw [last] at first
  simpa using first

theorem ofDigits_append_zeros (ds : List Char) (j : ℕ) :
    ofDigits (ds ++ List.replicate j '0') = ofDigits ds * 10 ^ j := by
  have zeros : ofDigits (List.replicate j '0') = 0 := by
    induction j with
    | zero => rfl
    | succ j ih =>
      rw [List.replicate_succ', ofDigits_append, ih]
      rfl
  rw [ofDigits_append, zeros, List.length_replicate, Nat.add_zero]

/-- The significant digits of a number: what is left of its digits without the zeros at their end. -/
theorem exists_significant {k : ℕ} (positive : 0 < k) : ∃ (d : Char) (ds : List Char) (j : ℕ),
    dropTrailingZeros (digits k) = d :: ds ∧ d ≠ '0' ∧ (∀ c ∈ d :: ds, c.isDigit = true) ∧
      (digits k).length = (d :: ds).length + j ∧ k = ofDigits (d :: ds) * 10 ^ j := by
  obtain ⟨j, parts⟩ := exists_append_zeros (digits k)
  obtain ⟨d, ds, written, leading⟩ := exists_leading positive
  have value : k = ofDigits (dropTrailingZeros (digits k)) * 10 ^ j := by
    rw [← ofDigits_append_zeros, ← parts, FormatSpec.ofDigits_digits]
  have size := congrArg List.length parts
  rw [List.length_append, List.length_replicate] at size
  have digital : ∀ c ∈ dropTrailingZeros (digits k), c.isDigit = true := by
    intro c mem
    have among : c ∈ digits k := by
      rw [parts]
      exact List.mem_append_left _ mem
    exact FormatSpec.isDigit_of_mem_digits among
  cases front : dropTrailingZeros (digits k) with
  | nil =>
    rw [front] at value
    exact absurd (value.trans (Nat.zero_mul _)) positive.ne'
  | cons c cs =>
    rw [front] at parts value size digital
    rw [written] at parts
    obtain ⟨same, -⟩ := List.cons.inj parts
    exact ⟨c, cs, j, rfl, same ▸ leading, digital, size, value⟩

/-- Up to a power of ten there are only as many significant digits as below it, since the power has one. -/
theorem length_significant_le {k n : ℕ} (positive : 0 < k) (digit : 0 < n) (le : k ≤ 10 ^ n) :
    (dropTrailingZeros (digits k)).length ≤ n := by
  obtain ⟨d, ds, j, front, leading, digital, size, value⟩ := exists_significant positive
  have trailing : '0' ∉ (dropTrailingZeros (digits k)).getLast? := fun last =>
    getLast?_dropTrailingZeros last rfl
  rw [front] at trailing ⊢
  by_contra more
  have nonzero : 0 < ofDigits (d :: ds) := ofDigits_pos (digital d List.mem_cons_self) leading
  have low := pow_le_of_length_digits nonzero
  rw [digits_ofDigits digital leading] at low
  have full : 10 ^ n ≤ ofDigits (d :: ds) :=
    (Nat.pow_le_pow_right (by decide) (by omega)).trans low
  have few : ofDigits (d :: ds) ≤ k := by
    rw [value]
    exact Nat.le_mul_of_pos_right _ (Nat.pow_pos (by decide))
  -- so they would be the digits of the power of ten, the last of which is a zero
  have same : ofDigits (d :: ds) = 10 * 10 ^ (n - 1) + 0 := by
    rw [Nat.add_zero, ← Nat.pow_succ', Nat.succ_eq_add_one, Nat.sub_add_cancel digit]
    omega
  have tens : digits (10 * 10 ^ (n - 1) + 0) = digits (10 ^ (n - 1)) ++ ['0'] :=
    (Nat.toDigits_append_toDigits (by decide) (Nat.pow_pos (by decide)) (by decide)).symm
  rw [← same, digits_ofDigits digital leading] at tens
  refine trailing ?_
  rw [tens, List.getLast?_concat]
  rfl

/-- The significant digits of `k · 10^u`. -/
def significantOf (k : ℕ) (u : ℤ) : Significant := ⟨dropTrailingZeros (digits k), (digits k).length + u⟩

theorem value_significantOf {k : ℕ} (positive : 0 < k) (u : ℤ) :
    (significantOf k u).value = k * 10 ^ u := by
  obtain ⟨d, ds, j, front, -, -, size, value⟩ := exists_significant positive
  have point : (((d :: ds).length + j : ℕ) : ℤ) + u - (d :: ds).length = j + u := by
    push_cast
    ring
  rw [Significant.value, significantOf]
  dsimp only
  rw [front, size, value, point, zpow_add₀ (by decide), zpow_natCast]
  push_cast
  ring

/-- **The search gives a shortest decimal.** -/
theorem shortestAt_shortest (tie : Tie) (wide : 1 < f.width) (narrow : Nat.pow 2 f.width ≤ 10 ^ 16)
    (bounded : m < Nat.pow 2 f.width) (nonzero : 0 < m) (e : ℤ) :
    f.ShortestAt m e (shortest f tie m e) := by
  have above : 0 < 4 * m * scaleUp e :=
    Nat.mul_pos (Nat.mul_pos (by decide) nonzero) (Nat.pow_pos (by decide))
  have above' : 0 < 4 * scaleDown e := Nat.mul_pos (by decide) (scaleDown_pos e)
  have quotient : ((4 * m * scaleUp e : ℕ) / (4 * scaleDown e : ℕ) : ℚ) = m * 2 ^ e := by
    rw [div_eq_iff (Nat.cast_ne_zero.mpr above'.ne'), Nat.cast_mul, ← two_zpow_eq]
    push_cast
    ring
  have unfolded : shortest f tie m e = (fun found => significantOf found.1 found.2)
      (searchGrids tie (f.interval m e) (4 * m * scaleUp e) (4 * scaleDown e)
        (decimalPoint (4 * m * scaleUp e) (4 * scaleDown e)) 17 1) := rfl
  obtain ⟨n, k, digit, most, hit, before⟩ :=
    exists_hit tie above above' nonzero quotient wide narrow bounded
  obtain ⟨covers, le, nearest⟩ := nearest_of_hit?_eq_some above above' nonzero quotient digit hit
  rw [unfolded, searchGrids_of_hit digit (by omega) before hit]
  dsimp only
  generalize decimalPoint (4 * m * scaleUp e) (4 * scaleDown e) - n = u at covers nearest
  have positive : 0 < k := covers.pos_of_decimal nonzero
  have few := length_significant_le positive digit le
  obtain ⟨d, ds, -, front, leading, digital, -⟩ := exists_significant positive
  rw [← front] at digital
  refine ⟨digital, ⟨d, ds, front, leading⟩, fun _ => getLast?_dropTrailingZeros, ?_, fun t w covers' => ?_,
    fun t w covers' fewer => ?_⟩
  · rwa [value_significantOf positive]
  · -- a shorter one would be on a grid without a hit
    refine few.trans (Nat.le_of_not_lt fun less => ?_)
    have digit' : 0 < (digits t).length := Nat.length_toDigits_pos
    exact not_covers_of_hit?_eq_none above above' nonzero quotient digit' (before _ digit' less)
      (lt_pow_length_digits t) w covers'
  · rw [value_significantOf positive]
    have decimal : t < 10 ^ n :=
      (lt_pow_length_digits t).trans_le (Nat.pow_le_pow_right (by decide) (fewer.trans few))
    exact nearest t w decimal covers'

end Stencil.Numeric
