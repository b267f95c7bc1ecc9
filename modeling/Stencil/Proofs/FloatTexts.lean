import Stencil.Number
import Stencil.Proofs.ShortestDigits

/-!
# Texts of floating-point numbers

A floating-point number is written as its shortest decimal, in full or with an exponent. It is read back
from its text, whatever its size.

* `Decimal.toBinary_eq_iff`: a decimal is read as a number if and only if it lies in the interval around
  the number;
* `Significant.ShortestFor`: the shortest decimals of a number;
* `spelled_iff`: the numbers that are written in full, by their size;
* `FloatText`: the texts of numbers. Every number has one (`floatText_text`), and it is read as the
  number (`read?_of_floatText`).
-/

namespace Stencil.Numeric

variable {m n : ℕ} {e : ℤ} {q : ℚ}

/-! ## 1. Reading decimals -/

/-- A decimal stands between two powers of ten, by where its first digit stands. -/
theorem decimal_bounds (nonzero : 0 < n) (u : ℤ) :
    (10 : ℚ) ^ ((digits n).length + u - 1) ≤ n * 10 ^ u ∧
      (n * 10 ^ u : ℚ) < 10 ^ ((digits n).length + u) := by
  have digit : 0 < (digits n).length := Nat.length_toDigits_pos
  have step : (0 : ℚ) < 10 ^ u := by positivity
  have low := pow_le_of_length_digits nonzero
  have high := lt_pow_length_digits n
  constructor
  · rw [show ((digits n).length : ℤ) + u - 1 = ((digits n).length - 1 : ℕ) + u by omega,
      zpow_add₀ (by decide), zpow_natCast]
    exact mul_le_mul_of_nonneg_right (by exact_mod_cast low) step.le
  · rw [zpow_add₀ (by decide), zpow_natCast]
    exact mul_lt_mul_of_pos_right (by exact_mod_cast high) step

theorem two_zpow_le : (2 : ℚ) ^ (1197 : ℤ) ≤ 10 ^ (400 : ℤ) := by
  calc (2 : ℚ) ^ (1197 : ℤ) = (2 ^ 9) ^ 133 := by rw [← pow_mul]; rfl
    _ ≤ (10 ^ 3) ^ 133 := pow_le_pow_left₀ (by norm_num) (by norm_num) 133
    _ = 10 ^ 399 := by rw [← pow_mul]
    _ ≤ 10 ^ 400 := pow_le_pow_right₀ (by norm_num) (by decide)
    _ = 10 ^ (400 : ℤ) := rfl

/-- What is rounded to a number of 64 bits is neither too large nor too small for one. -/
theorem Format.Covers.bounds (covers : Format.double.Covers m e q) (nonzero : 0 < m)
    (grid : Format.double.OnGrid m e) : (10 : ℚ) ^ (-400 : ℤ) ≤ q ∧ q < 10 ^ (400 : ℤ) := by
  obtain ⟨bounded, least, greatest, -⟩ := grid
  have bounded : m < 2 ^ 53 := bounded
  have least : (-1074 : ℤ) ≤ e := least
  have greatest : e ≤ 971 := greatest
  have most := Format.double.quartersBelow_le m e
  have power : (0 : ℚ) < 2 ^ e := by positivity
  constructor
  · have low : (2 : ℚ) * 2 ^ e ≤ 4 * q := by
      refine le_trans ?_ covers.low
      exact mul_le_mul_of_nonneg_right (by exact_mod_cast (by omega)) power.le
    have finest : (2 : ℚ) ^ (-1073 : ℤ) ≤ 2 * 2 ^ e := by
      rw [← zpow_one_add₀ two_ne_zero]
      exact zpow_le_zpow_right₀ one_le_two (by omega)
    have half : (2 : ℚ) ^ (-1073 : ℤ) = 4 * 2 ^ (-1075 : ℤ) := by
      rw [show (-1073 : ℤ) = 2 + -1075 by decide, zpow_add₀ two_ne_zero]
      norm_num
    have power : (2 : ℚ) ^ (1075 : ℤ) ≤ 10 ^ (400 : ℤ) :=
      (zpow_le_zpow_right₀ one_le_two (by decide)).trans two_zpow_le
    calc (10 : ℚ) ^ (-400 : ℤ) ≤ 2 ^ (-1075 : ℤ) := by
          rw [zpow_neg, zpow_neg]
          exact inv_anti₀ (by positivity) power
      _ ≤ q := by linarith
  · have high : 4 * q ≤ (2 ^ (56 : ℤ) : ℚ) * 2 ^ e := by
      refine covers.high.trans ?_
      exact mul_le_mul_of_nonneg_right (by exact_mod_cast (by omega)) power.le
    have coarsest : (2 ^ (56 : ℤ) : ℚ) * 2 ^ e ≤ 2 ^ (1027 : ℤ) := by
      rw [← zpow_add₀ two_ne_zero]
      exact zpow_le_zpow_right₀ one_le_two (by omega)
    calc q ≤ 4 * q := by linarith [covers.pos nonzero]
      _ ≤ 2 ^ (1027 : ℤ) := high.trans coarsest
      _ < 2 ^ (1197 : ℤ) := zpow_lt_zpow_right₀ one_lt_two (by decide)
      _ ≤ 10 ^ (400 : ℤ) := two_zpow_le

namespace Decimal

/-- What a decimal stands for, without its sign. -/
def value (d : Decimal) : ℚ := ofDigits (d.whole ++ d.places) * 10 ^ (d.exponent - d.places.length)

/-- **A decimal is read as a number if and only if the number covers it** and has its sign. -/
theorem toBinary_eq_iff {d : Decimal} {negative : Bool} {grid : Format.double.OnGrid m e}
    (nonzero : 0 < m) : d.toBinary = .finite negative m e grid ↔
      d.negative = negative ∧ Format.double.Covers m e d.value := by
  rw [toBinary, value]
  generalize ofDigits (d.whole ++ d.places) = n
  generalize d.exponent - d.places.length = u
  have scale : 0 < Nat.pow 10 (-u).toNat := Nat.pow_pos (by decide)
  have quotient : ((n * Nat.pow 10 u.toNat : ℕ) / (Nat.pow 10 (-u).toNat : ℕ) : ℚ) = n * 10 ^ u := by
    rw [div_eq_iff (Nat.cast_ne_zero.mpr scale.ne'), Nat.cast_mul, ← ten_zpow_eq u, mul_assoc]
  constructor
  · intro read
    split_ifs at read
    · rw [Binary.zero] at read
      split at read <;> cases read
      cases nonzero
    · rw [← quotient]
      exact (Binary.ofQuotient_eq_iff (by decide) scale nonzero).mp read
  · rintro ⟨rfl, covers⟩
    have positive : 0 < n := covers.pos_of_decimal nonzero
    obtain ⟨low, high⟩ := covers.bounds nonzero grid
    obtain ⟨low', high'⟩ := decimal_bounds positive u
    have above : -400 < (digits n).length + u :=
      (zpow_lt_zpow_iff_right₀ (by norm_num : (1 : ℚ) < 10)).mp (low.trans_lt high')
    have below : (digits n).length + u - 1 < 400 :=
      (zpow_lt_zpow_iff_right₀ (by norm_num : (1 : ℚ) < 10)).mp (low'.trans_lt high)
    rw [if_neg (by omega), if_neg (by omega)]
    rw [← quotient] at covers
    exact (Binary.ofQuotient_eq_iff (by decide) scale nonzero).mpr ⟨rfl, covers⟩

end Decimal

/-! ## 2. Shortest decimals -/

namespace Decimal

/-- How many digits a decimal has, without zeros in front. -/
def count (d : Decimal) : ℕ := (digits (ofDigits (d.whole ++ d.places))).length

end Decimal

/-- Digits with a point, as a decimal with a sign. -/
def Significant.decimal (s : Significant) (negative : Bool) : Decimal :=
  ⟨negative, s.digits, [], s.point - s.digits.length⟩

/-- The digits are those of a shortest decimal that is read as the number, without zeros at either end:
no decimal that is read as it has fewer digits, and none with as few lies nearer to it. -/
structure Significant.ShortestFor (s : Significant) (negative : Bool) {m : ℕ} {e : ℤ}
    (grid : Format.double.OnGrid m e) : Prop where
  digital : ∀ c ∈ s.digits, c.isDigit = true
  leading : ∃ d ds, s.digits = d :: ds ∧ d ≠ '0'
  trailing : ∀ c ∈ s.digits.getLast?, c ≠ '0'
  reads : (s.decimal negative).toBinary = .finite negative m e grid
  least : ∀ d : Decimal, d.toBinary = .finite negative m e grid → s.digits.length ≤ d.count
  nearest : ∀ d : Decimal, d.toBinary = .finite negative m e grid → d.count ≤ s.digits.length →
    |s.value - m * 2 ^ e| ≤ |d.value - m * 2 ^ e|

theorem Significant.value_decimal (s : Significant) (negative : Bool) :
    (s.decimal negative).value = s.value := by
  rw [Decimal.value, value, decimal, List.append_nil, List.length_nil, Nat.cast_zero, sub_zero]

/-- All decimals that stand for what a shortest one does are read alike. -/
theorem Significant.ShortestFor.reads_of_value {s : Significant} {grid : Format.double.OnGrid m e}
    {d : Decimal} (h : s.ShortestFor d.negative grid) (nonzero : 0 < m) (same : d.value = s.value) :
    d.toBinary = .finite d.negative m e grid := by
  have covers := ((Decimal.toBinary_eq_iff nonzero).mp h.reads).2
  rw [s.value_decimal, ← same] at covers
  exact (Decimal.toBinary_eq_iff nonzero).mpr ⟨rfl, covers⟩

namespace Format.ShortestAt

variable {s : Significant} {negative : Bool} {grid : Format.double.OnGrid m e}

theorem shortestFor (h : Format.double.ShortestAt m e s) (nonzero : 0 < m) (negative : Bool)
    (grid : Format.double.OnGrid m e) : s.ShortestFor negative grid where
  digital := h.digital
  leading := h.leading
  trailing := h.trailing
  reads := (Decimal.toBinary_eq_iff nonzero).mpr ⟨rfl, s.value_decimal negative ▸ h.covers⟩
  least _ reads := h.least _ _ ((Decimal.toBinary_eq_iff nonzero).mp reads).2
  nearest _ reads := h.nearest _ _ ((Decimal.toBinary_eq_iff nonzero).mp reads).2

variable {f : Format}

/-- The point stands in front of the digits. -/
theorem value_bounds (h : f.ShortestAt m e s) :
    (10 : ℚ) ^ (s.point - 1) ≤ s.value ∧ s.value < 10 ^ s.point := by
  obtain ⟨d, ds, written, leading⟩ := h.leading
  have digital := h.digital
  rw [written] at digital
  have positive : 0 < ofDigits (d :: ds) := ofDigits_pos (digital d List.mem_cons_self) leading
  have bounds := decimal_bounds positive (s.point - s.digits.length)
  rwa [digits_ofDigits digital leading, ← written, add_sub_cancel] at bounds

theorem pow_le_value_iff (h : f.ShortestAt m e s) (k : ℤ) : (10 : ℚ) ^ k ≤ s.value ↔ k < s.point := by
  obtain ⟨low, high⟩ := h.value_bounds
  constructor
  · intro le
    exact (zpow_lt_zpow_iff_right₀ (by norm_num : (1 : ℚ) < 10)).mp (le.trans_lt high)
  · intro less
    exact low.trans' (zpow_le_zpow_right₀ (by norm_num) (by omega))

/-- A power of ten that is covered is at most as near as the shortest decimal, since it has one digit. -/
theorem le_of_pow (h : f.ShortestAt m e s) {k : ℤ} (covers : f.Covers m e (10 ^ k)) :
    |s.value - m * 2 ^ e| ≤ |(10 ^ k - m * 2 ^ e : ℚ)| := by
  obtain ⟨d, ds, written, -⟩ := h.leading
  have near := h.nearest 1 k (by rwa [Nat.cast_one, one_mul])
  rw [Nat.cast_one, one_mul] at near
  refine near ?_
  rw [written]
  exact Nat.succ_le_succ (Nat.zero_le _)

/-- **The shortest decimal and its number lie on one side of each power of ten.** -/
theorem pow_le_value (h : f.ShortestAt m e s) (nonzero : 0 < m) {k : ℤ} (le : (10 : ℚ) ^ k ≤ m * 2 ^ e) :
    (10 : ℚ) ^ k ≤ s.value := by
  by_contra less
  have less := not_le.mp less
  have near := h.le_of_pow (h.covers.between (Format.Covers.self f nonzero e) less.le le)
  rw [abs_of_nonpos (by linarith), abs_of_nonpos (by linarith)] at near
  linarith

theorem value_le_pow (h : f.ShortestAt m e s) (nonzero : 0 < m) {k : ℤ} (le : (m * 2 ^ e : ℚ) ≤ 10 ^ k) :
    s.value ≤ 10 ^ k := by
  by_contra less
  have less := not_le.mp less
  have near := h.le_of_pow ((Format.Covers.self f nonzero e).between h.covers le less.le)
  rw [abs_of_nonneg (by linarith), abs_of_nonneg (by linarith)] at near
  linarith

/-- A number just below a power of ten that the shortest decimal is can only be the nearest one. -/
theorem covers_pow (h : f.ShortestAt m e s) (nonzero : 0 < m) {k : ℤ} (less : (m * 2 ^ e : ℚ) < 10 ^ k)
    (point : k < s.point) : f.Covers m e (10 ^ k) := by
  have same := le_antisymm (h.value_le_pow nonzero less.le) ((h.pow_le_value_iff k).mpr point)
  exact same ▸ h.covers

end Format.ShortestAt

/-- Ten to the sixteenth is a number of 64 bits, and the one nearest to a ten-thousandth lies above
that. -/
theorem covers_greatest : Format.double.Covers 5000000000000000 1 (10 ^ (16 : ℤ)) := by
  have whole : (10 ^ (16 : ℤ) : ℚ) = (5000000000000000 : ℕ) * 2 ^ (1 : ℤ) := by norm_num
  rw [whole]
  exact Format.Covers.self _ (by decide) 1

theorem covers_least : Format.double.Covers 7378697629483821 (-66) (10 ^ (-4 : ℤ)) := by
  have two : Format.double.quartersBelow 7378697629483821 (-66) = 2 := by decide
  have low : ((4 * 7378697629483821 - 2 : ℕ) : ℚ) * 2 ^ (-66 : ℤ) < 4 * 10 ^ (-4 : ℤ) := by norm_num
  have high : (4 * 10 ^ (-4 : ℤ) : ℚ) < ((4 * 7378697629483821 + 2 : ℕ) : ℚ) * 2 ^ (-66 : ℤ) := by
    norm_num
  rw [← two] at low
  exact ⟨low.le, high.le, fun _ => ⟨low, high⟩⟩

/-- **A number is spelled out from a ten-thousandth up to below ten to the sixteenth.** -/
theorem Format.ShortestAt.spelled_iff {s : Significant} (h : Format.double.ShortestAt m e s)
    (nonzero : 0 < m) (grid : Format.double.OnGrid m e) :
    Number.displayLayout.spelled (s.point - 1) = true ↔
      (10 : ℚ) ^ (-4 : ℤ) ≤ m * 2 ^ e ∧ (m * 2 ^ e : ℚ) < 10 ^ (16 : ℤ) := by
  obtain ⟨normal, -⟩ := Format.onGrid_iff.mp grid
  have spelled : Number.displayLayout.spelled (s.point - 1) = true ↔ -4 < s.point ∧ ¬ 16 < s.point := by
    rw [Number.displayLayout, Bool.and_eq_true, decide_eq_true_iff, decide_eq_true_iff]
    omega
  rw [spelled]
  constructor
  · rintro ⟨low, high⟩
    constructor
    · by_contra less
      have less := not_le.mp less
      have covers := h.covers_pow nonzero less low
      obtain ⟨rfl, rfl⟩ := covers.unique covers_least (by decide) normal (by decide)
      norm_num at less
    · by_contra le
      exact high ((h.pow_le_value_iff 16).mp (h.pow_le_value nonzero (not_lt.mp le)))
  · rintro ⟨low, high⟩
    refine ⟨(h.pow_le_value_iff (-4)).mp (h.pow_le_value nonzero low), fun above => ?_⟩
    have covers := h.covers_pow nonzero high above
    obtain ⟨rfl, rfl⟩ := covers.unique covers_greatest (by decide) normal (by decide)
    norm_num at high

/-! ## 3. Texts -/

/-- Places behind a point, and no point where there are none. -/
def fractionText (places : List Char) : List Char := if places = [] then [] else '.' :: places

/-- The text of a floating-point number, by what it is a text of. -/
inductive FloatText : Double → List Char → Prop where
  | nan : FloatText .nan ['N', 'a', 'N']
  | infinite (negative : Bool) : FloatText (.infinite negative) (signText negative ++ ['i', 'n', 'f'])
  | zero {negative : Bool} {e : ℤ} {grid : Format.double.OnGrid 0 e} :
      FloatText (.finite negative 0 e grid) (signText negative ++ ['0', '.', '0'])
  /-- From a ten-thousandth up to below ten to the sixteenth a number is written in full, as its shortest
  decimal, with one place at least and else without zeros at the end. -/
  | plain {negative : Bool} {m : ℕ} {e : ℤ} {grid : Format.double.OnGrid m e} {s : Significant} {n : ℕ}
      {places : List Char} (nonzero : 0 < m) (shortest : s.ShortestFor negative grid)
      (low : (10 : ℚ) ^ (-4 : ℤ) ≤ m * 2 ^ e) (high : (m * 2 ^ e : ℚ) < 10 ^ (16 : ℤ))
      (fraction : places ≠ []) (digital : ∀ c ∈ places, c.isDigit = true)
      (value : (n + ofDigits places / 10 ^ places.length : ℚ) = s.value)
      (trailing : places = ['0'] ∨ ∀ c ∈ places.getLast?, c ≠ '0') :
      FloatText (.finite negative m e grid) (signText negative ++ (digits n ++ '.' :: places))
  /-- Other numbers are written with the point behind the first digit of the shortest decimal, if it has
  more, and with the exponent of this digit. -/
  | exponent {negative : Bool} {m : ℕ} {e : ℤ} {grid : Format.double.OnGrid m e} {s : Significant}
      {d : Char} {ds : List Char} (nonzero : 0 < m) (shortest : s.ShortestFor negative grid)
      (size : (m * 2 ^ e : ℚ) < 10 ^ (-4 : ℤ) ∨ (10 : ℚ) ^ (16 : ℤ) ≤ m * 2 ^ e)
      (written : s.digits = d :: ds) : FloatText (.finite negative m e grid)
        (signText negative ++ (d :: (fractionText ds ++ 'e' :: intText (s.point - 1))))

/-- Digits with a point, spelled out as a whole part and some places. -/
structure Spelled (s : Significant) (n : ℕ) (places : List Char) : Prop where
  text : Layout.spell s = digits n ++ '.' :: places
  fraction : places ≠ []
  digital : ∀ c ∈ places, c.isDigit = true
  value : (n + ofDigits places / 10 ^ places.length : ℚ) = s.value
  trailing : places = ['0'] ∨ ∀ c ∈ places.getLast?, c ≠ '0'

theorem isDigit_of_mem_zeros {j : ℕ} {c : Char} (mem : c ∈ List.replicate j '0') : c.isDigit = true := by
  rw [List.eq_of_mem_replicate mem]
  rfl

namespace Format.ShortestAt

variable {f : Format} {s : Significant}

/-- Digits behind the point: zeros fill the way to it. -/
theorem spelled_behind (h : f.ShortestAt m e s) {j : ℕ} (point : s.point = -j) :
    Spelled s 0 (List.replicate j '0' ++ s.digits) where
  text := by
    rw [Layout.spell, if_pos (by omega), point, neg_neg, Int.toNat_natCast]
    rfl
  fraction := by
    obtain ⟨d, ds, written, -⟩ := h.leading
    rw [written]
    simp
  digital c mem := by
    rcases List.mem_append.mp mem with zero | digit
    · exact isDigit_of_mem_zeros zero
    · exact h.digital c digit
  value := by
    have none : ofDigits ([] ++ List.replicate j '0') = 0 := by
      rw [ofDigits_append_zeros]
      exact Nat.zero_mul _
    rw [Significant.value, ofDigits_append, ← List.nil_append (List.replicate j '0'), none, point,
      Nat.zero_mul, Nat.zero_add, Nat.cast_zero, zero_add, div_eq_mul_inv, ← zpow_natCast, ← zpow_neg,
      List.nil_append, List.length_append, List.length_replicate]
    congr 2
    push_cast
    ring
  trailing := by
    obtain ⟨d, ds, written, -⟩ := h.leading
    rw [List.getLast?_append_of_ne_nil _ (by rw [written]; exact List.cons_ne_nil d ds)]
    exact .inr h.trailing

/-- Digits in front of the point: zeros fill the way to it, and one stands behind it. -/
theorem spelled_before (h : f.ShortestAt m e s) {k : ℕ} (point : s.point = s.digits.length + k) :
    Spelled s (ofDigits s.digits * 10 ^ k) ['0'] where
  text := by
    obtain ⟨d, ds, written, leading⟩ := h.leading
    have digital := h.digital
    have whole : digits (ofDigits s.digits * 10 ^ k) = s.digits ++ List.replicate k '0' := by
      rw [← ofDigits_append_zeros]
      rw [written] at digital ⊢
      refine digits_ofDigits (fun c mem => ?_) leading
      rcases List.mem_append.mp (List.cons_append ▸ mem) with digit | zero
      · exact digital c digit
      · exact isDigit_of_mem_zeros zero
    have some : 0 < s.digits.length := by
      rw [written]
      exact Nat.succ_pos _
    rw [Layout.spell, if_neg (by omega), whole, point]
    dsimp only
    rw [if_pos (by omega), show (s.digits.length + k : ℤ).toNat - s.digits.length = k by omega]
  fraction := List.cons_ne_nil _ _
  digital := by simp
  value := by
    rw [Significant.value, point, add_sub_cancel_left, zpow_natCast]
    simp [ofDigits]
  trailing := .inl rfl

/-- Digits on both sides of the point. -/
theorem spelled_among (h : f.ShortestAt m e s) {p : ℕ} (point : s.point = p + 1)
    (short : p + 1 < s.digits.length) :
    Spelled s (ofDigits (s.digits.take (p + 1))) (s.digits.drop (p + 1)) where
  text := by
    obtain ⟨d, ds, written, leading⟩ := h.leading
    have front : ∀ c ∈ d :: ds.take p, c.isDigit = true := fun c mem =>
      h.digital c (List.mem_of_mem_take (i := p + 1) (written ▸ mem))
    rw [Layout.spell, if_neg (by omega), point]
    dsimp only
    rw [show ((p : ℤ) + 1).toNat = p + 1 by omega, if_neg (by omega), written, List.take_succ_cons,
      digits_ofDigits front leading]
  fraction none := by
    have size := congrArg List.length none
    rw [List.length_drop, List.length_nil] at size
    omega
  digital c mem := h.digital c (List.mem_of_mem_drop mem)
  value := by
    have size : s.point - s.digits.length = -((s.digits.drop (p + 1)).length : ℤ) := by
      rw [List.length_drop, point]
      omega
    rw [Significant.value, size, zpow_neg, zpow_natCast, ← div_eq_mul_inv, eq_div_iff (by positivity),
      add_mul, div_mul_cancel₀ _ (by positivity)]
    conv_rhs => rw [← List.take_append_drop (p + 1) s.digits, ofDigits_append]
    push_cast
    ring
  trailing := by
    have parts := List.take_append_drop (p + 1) s.digits
    have some : s.digits.drop (p + 1) ≠ [] := fun none => by
      have size := congrArg List.length none
      rw [List.length_drop, List.length_nil] at size
      omega
    rw [← List.getLast?_append_of_ne_nil (s.digits.take (p + 1)) some, parts]
    exact .inr h.trailing

theorem exists_spelled (h : f.ShortestAt m e s) : ∃ n places, Spelled s n places := by
  rcases le_or_gt s.point 0 with behind | positive
  · exact ⟨_, _, h.spelled_behind (j := (-s.point).toNat) (by omega)⟩
  · rcases le_or_gt (s.digits.length : ℤ) s.point with before | among
    · exact ⟨_, _, h.spelled_before (k := (s.point - s.digits.length).toNat) (by omega)⟩
    · exact ⟨_, _, h.spelled_among (p := s.point.toNat - 1) (by omega) (by omega)⟩

end Format.ShortestAt

variable {negative : Bool}

theorem withExponent_eq {s : Significant} {d : Char} {ds : List Char} (written : s.digits = d :: ds) :
    Layout.withExponent false s = d :: (fractionText ds ++ 'e' :: intText (s.point - 1)) := by
  rw [Layout.withExponent, written]
  cases ds <;> rfl

/-- The shortest decimal is laid out by the size of its number. -/
theorem floatText_decimalText {s : Significant} (h : Format.double.ShortestAt m e s) (nonzero : 0 < m)
    (grid : Format.double.OnGrid m e) : FloatText (.finite negative m e grid)
      (signText negative ++ Number.displayLayout.decimalText s) := by
  have spelled := h.spelled_iff nonzero grid
  rw [Layout.decimalText]
  by_cases size : Number.displayLayout.spelled (s.point - 1) = true
  · obtain ⟨low, high⟩ := spelled.mp size
    obtain ⟨n, places, spelled⟩ := h.exists_spelled
    rw [if_pos size, spelled.text]
    exact .plain nonzero (h.shortestFor nonzero negative grid) low high spelled.fraction spelled.digital
      spelled.value spelled.trailing
  · obtain ⟨d, ds, written, -⟩ := h.leading
    have size' := mt spelled.mpr size
    rw [not_and_or, not_le, not_lt] at size'
    have exponent := FloatText.exponent nonzero (h.shortestFor nonzero negative grid) size' written
    rw [if_neg size]
    rwa [← withExponent_eq written] at exponent

/-- **Every number has its text.** -/
theorem floatText_text (x : Double) : FloatText x (Number.displayLayout.text x) := by
  cases x with
  | nan => exact .nan
  | infinite negative => exact .infinite negative
  | finite negative m e grid =>
    rw [Layout.text]
    obtain rfl | nonzero := Nat.eq_zero_or_pos m
    · exact .zero
    · rw [if_neg nonzero.ne']
      have shortest := shortestAt_shortest .up (by decide) (by decide) grid.1 nonzero e
      exact floatText_decimalText shortest nonzero grid

/-! ## 4. Reading texts -/

/-- A sign in front of a digit is read. -/
theorem readSign_text {c : Char} (digit : c.isDigit = true) (negative : Bool) (cs : List Char) :
    Decimal.readSign (signText negative ++ c :: cs) = (negative, c :: cs) := by
  cases negative with
  | true => rfl
  | false =>
    show Decimal.readSign (c :: cs) = _
    unfold Decimal.readSign
    split
    · rename_i same
      obtain ⟨rfl, -⟩ := List.cons.inj same
      cases digit
    · rename_i same
      obtain ⟨rfl, -⟩ := List.cons.inj same
      cases digit
    · rfl

theorem readExponent?_text (x : ℤ) : Decimal.readExponent? ('e' :: intText x) = some x := by
  have all : (digits x.natAbs).all Char.isDigit = true :=
    List.all_eq_true.mpr fun c => FormatSpec.isDigit_of_mem_digits
  have value := FormatSpec.ofDigits_digits x.natAbs
  rw [Decimal.readExponent?, if_pos (.inl rfl), intText]
  cases written : digits x.natAbs with
  | nil => exact absurd written (FormatSpec.digits_ne_nil _)
  | cons c cs =>
    rw [written] at all value
    have digit : c.isDigit = true := List.all_eq_true.mp all c List.mem_cons_self
    rw [readSign_text digit]
    dsimp only
    rw [all, value, if_neg (by simp)]
    by_cases negative : x < 0
    · rw [decide_eq_true negative, if_pos rfl]
      congr 1
      omega
    · rw [decide_eq_false negative, if_neg Bool.false_ne_true]
      congr 1
      omega

/-- **A text of digits, places and an exponent is read as the decimal that they are.** -/
theorem read?_decimal {c : Char} {cs places rest : List Char} {x : ℤ} (negative : Bool)
    (digital : ∀ d ∈ c :: cs, d.isDigit = true) (digital' : ∀ d ∈ places, d.isDigit = true)
    (exponent : Decimal.readExponent? rest = some x)
    (stop : ∀ d ∈ rest.head?, d.isDigit = false ∧ d ≠ '.') :
    Decimal.read? (signText negative ++ (c :: cs ++ (fractionText places ++ rest))) =
      some ⟨negative, c :: cs, places, x⟩ := by
  have digit := digital c List.mem_cons_self
  have halt : ∀ d ∈ (fractionText places ++ rest).head?, d.isDigit = false := by
    intro d first
    rw [fractionText] at first
    split at first
    · exact (stop d first).1
    · cases first
      rfl
  obtain ⟨front, back⟩ := FormatSpec.takeWhile_isDigit_iff.mpr ⟨rfl, digital, halt⟩
  obtain ⟨front', back'⟩ := FormatSpec.takeWhile_isDigit_iff.mpr ⟨rfl, digital', fun d first =>
    (stop d first).1⟩
  rw [Decimal.read?, List.cons_append, readSign_text digit]
  dsimp only
  rw [← List.cons_append, front, back]
  cases places with
  | nil =>
    cases rest with
    | nil => simp [fractionText, exponent]
    | cons d rest =>
      have other : d ≠ '.' := (stop d rfl).2
      simp [fractionText, exponent, other]
  | cons d ds =>
    rw [List.cons_append] at front' back'
    simp [fractionText, exponent, front', back']

/-- A text that starts with a digit is no word, so it is read as a decimal. -/
theorem read?_of_digit {c : Char} {cs : List Char} {d : Decimal} {negative : Bool}
    (digit : c.isDigit = true) (read : Decimal.read? (signText negative ++ c :: cs) = some d) :
    (Binary.read? (signText negative ++ c :: cs) : Option Double) = some d.toBinary := by
  have other : ∀ {w : String} {a : Char} {as : List Char}, w.toList = a :: as → a.isDigit = false →
      String.ofList ((c :: cs).map Char.toLower) ≠ w := by
    rintro w a as letters letter rfl
    rw [String.toList_ofList] at letters
    obtain ⟨rfl, -⟩ := List.cons.inj letters
    have every : ∀ d < 10, (Nat.digitChar d).toLower.isDigit = true := by decide
    obtain ⟨d, small, rfl⟩ := exists_digitChar digit
    rw [every d small] at letter
    cases letter
  rw [Binary.read?, readSign_text digit]
  dsimp only
  rw [if_neg, if_neg, read]
  · rfl
  · exact other rfl rfl
  · rw [not_or]
    exact ⟨other rfl rfl, other rfl rfl⟩

/-- **Every text of a number is read as the number**, also where it is not finite or a zero with a
sign. -/
theorem read?_of_floatText {x : Double} {cs : List Char} (written : FloatText x cs) :
    Binary.read? cs = some x := by
  cases written with
  | nan => decide
  | infinite negative => cases negative <;> decide
  | @zero negative e grid =>
    have least : e = Format.double.least := grid.2.2.2.resolve_left (by decide)
    subst least
    cases negative <;> rfl
  | @plain negative m e grid s n places nonzero shortest low high fraction digital value trailing =>
    obtain ⟨c, cs, front⟩ := List.exists_cons_of_ne_nil (FormatSpec.digits_ne_nil n)
    have digital' : ∀ d ∈ c :: cs, d.isDigit = true := fun d mem =>
      FormatSpec.isDigit_of_mem_digits (front ▸ mem)
    have read : Decimal.read? (signText negative ++ (c :: cs ++ (fractionText places ++ []))) =
        some ⟨negative, c :: cs, places, 0⟩ :=
      read?_decimal negative digital' digital rfl nofun
    rw [fractionText, if_neg fraction, List.append_nil, List.cons_append] at read
    have same : (⟨negative, c :: cs, places, 0⟩ : Decimal).value = s.value := by
      rw [Decimal.value, ← value, ← front, ofDigits_append, FormatSpec.ofDigits_digits, zero_sub,
        zpow_neg, zpow_natCast, ← div_eq_mul_inv, div_eq_iff (by positivity), add_mul,
        div_mul_cancel₀ _ (by positivity)]
      push_cast
      ring
    rw [front, List.cons_append, read?_of_digit (digital' c List.mem_cons_self) read,
      shortest.reads_of_value nonzero same]
  | @exponent negative m e grid s d ds nonzero shortest size written =>
    have digital := shortest.digital
    rw [written] at digital
    obtain ⟨first, others⟩ := List.forall_mem_cons.mp digital
    have read : Decimal.read? (signText negative ++ ([d] ++ (fractionText ds ++
        'e' :: intText (s.point - 1)))) = some ⟨negative, [d], ds, s.point - 1⟩ :=
      read?_decimal negative (List.forall_mem_singleton.mpr first) others (readExponent?_text _)
        fun c mem => by cases mem; decide
    have same : (⟨negative, [d], ds, s.point - 1⟩ : Decimal).value = s.value := by
      rw [Decimal.value, Significant.value, written, List.singleton_append, List.length_cons]
      congr 2
      push_cast
      ring
    rw [List.singleton_append] at read
    rw [read?_of_digit first read, shortest.reads_of_value nonzero same]

end Stencil.Numeric
