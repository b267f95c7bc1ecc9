import Stencil.Numeric.Decimal
import Mathlib.Data.List.Induction
import Mathlib.Tactic.Ring
import Mathlib.Tactic.SplitIfs

/-!
# Numbers with fixed places

A finite number is written with fixed places as the decimal with so many places that is nearest to it,
a half going to the even one. Only as many places are worked out as its exact expansion has, and zeros
are written behind them; that is the same.

* `IsNearest`: the natural number nearest to a quotient, of two the even one. There is one, and
  rounding gives it (`isNearest_iff`);
* `ofDigits_append`, `ofDigits_lastDigits`: what runs of digits stand for;
* `fixedText_eq`: a finite number is its nearest decimal, written out in full;
* `FixedText`: what a text with fixed places says of its number. There is one for each number, and it is
  the one that is written (`fixedText_iff`).
-/

namespace Stencil.Numeric

/-! ## 1. Nearest numbers -/

/-- The natural number nearest to `num / den`, and of two that are equally near the even one. -/
structure IsNearest (num den n : Nat) : Prop where
  above : 2 * num ≤ 2 * (n * den) + den
  below : 2 * (n * den) ≤ 2 * num + den
  /-- Half-way between two numbers it is the even one. -/
  even : 2 * num = 2 * (n * den) + den ∨ 2 * (n * den) = 2 * num + den → n % 2 = 0

/-- **There is one nearest number, and rounding gives it.** -/
theorem isNearest_iff {num den n : Nat} (positive : 0 < den) :
    IsNearest num den n ↔ n = roundQuotient num den := by
  have split := Nat.div_add_mod num den
  have less := Nat.mod_lt num positive
  rw [Nat.mul_comm] at split
  generalize quotient : num / den = q at split
  generalize remainder : num % den = r at split less
  -- the nearest number is the quotient or the next one
  have unfolded : roundQuotient num den =
      if 2 * r < den then q else if den < 2 * r then q + 1 else q + q % 2 := by
    rw [roundQuotient, quotient, remainder]
  have next : (q + 1) * den = q * den + den := by ring
  constructor
  · intro near
    obtain ⟨above, below, even⟩ := near
    have low : q ≤ n := by
      by_contra smaller
      have step : (n + 1) * den ≤ q * den := Nat.mul_le_mul_right den (by omega)
      have shifted : (n + 1) * den = n * den + den := by ring
      omega
    have high : n ≤ q + 1 := by
      by_contra larger
      have step : (q + 2) * den ≤ n * den := Nat.mul_le_mul_right den (by omega)
      have shifted : (q + 2) * den = q * den + 2 * den := by ring
      omega
    rw [unfolded]
    obtain rfl | rfl : n = q ∨ n = q + 1 := by omega
    · split_ifs <;> omega
    · split_ifs <;> omega
  · intro rounded
    rw [unfolded] at rounded
    split_ifs at rounded with down up
    · subst rounded
      exact ⟨by omega, by omega, by omega⟩
    · subst rounded
      exact ⟨by omega, by omega, by omega⟩
    · obtain even | odd : q % 2 = 0 ∨ q % 2 = 1 := by omega
      · rw [even, Nat.add_zero] at rounded
        subst rounded
        exact ⟨by omega, by omega, fun _ => even⟩
      · rw [odd] at rounded
        subst rounded
        exact ⟨by omega, by omega, by omega⟩

/-- A quotient without remainder is nearest to itself. -/
theorem roundQuotient_of_eq {num den n : Nat} (positive : 0 < den) (exact : num = n * den) :
    roundQuotient num den = n := by
  rw [exact]
  exact roundQuotient_mul_right n positive

/-! ## 2. Runs of digits -/

theorem ofDigits_append (front back : List Char) :
    ofDigits (front ++ back) = ofDigits front * 10 ^ back.length + ofDigits back := by
  have parts : ofDigits (front ++ back) = Nat.ofDigitChars 10 back (ofDigits front) :=
    Nat.ofDigitChars_append 0
  rw [parts, Nat.ofDigitChars_eq_ofDigitChars_zero, Nat.mul_comm]
  rfl

theorem ofDigits_digitChar {d : Nat} (small : d < 10) : ofDigits [Nat.digitChar d] = d :=
  (Nat.ofDigitChars_cons_digitChar_of_lt_ten small).trans (Nat.zero_add d)

theorem placesBefore_eq (places n : Nat) (after : List Char) :
    placesBefore places n after = lastDigits places n ++ after := by
  induction places generalizing n after with
  | zero => rfl
  | succ places ih =>
    rw [lastDigits, placesBefore, placesBefore, ih, ih (n / 10) [_], List.append_assoc]
    rfl

/-- The last digits are those of the tenth part and then the last one. -/
theorem lastDigits_succ (places n : Nat) :
    lastDigits (places + 1) n = lastDigits places (n / 10) ++ [Nat.digitChar (n % 10)] := by
  rw [lastDigits, placesBefore, placesBefore_eq]

theorem isDigit_of_mem_lastDigits {places n : Nat} {c : Char} (mem : c ∈ lastDigits places n) :
    c.isDigit = true := by
  induction places generalizing n with
  | zero => cases mem
  | succ places ih =>
    rw [lastDigits_succ] at mem
    rcases List.mem_append.mp mem with front | last
    · exact ih front
    · rw [List.mem_singleton.mp last]
      exact Nat.isDigit_digitChar.trans (decide_eq_true (Nat.mod_lt n (by decide)))

/-- **The last digits of a number stand for its remainder.** -/
theorem ofDigits_lastDigits (places n : Nat) :
    ofDigits (lastDigits places n) = n % 10 ^ places := by
  induction places generalizing n with
  | zero => simp [lastDigits, placesBefore, ofDigits, Nat.mod_one]
  | succ places ih =>
    have last : ofDigits [Nat.digitChar (n % 10)] = n % 10 :=
      ofDigits_digitChar (Nat.mod_lt n (by decide))
    have parts : n % 10 ^ (places + 1) = n % 10 + 10 * (n / 10 % 10 ^ places) := by
      rw [Nat.pow_succ', Nat.mod_mul]
    rw [lastDigits_succ, ofDigits_append, ih, last, parts, List.length_singleton]
    ring

/-- A digit is the character of what it stands for. -/
theorem exists_digitChar {c : Char} (digit : c.isDigit = true) : ∃ d < 10, Nat.digitChar d = c := by
  obtain ⟨low, high⟩ := Char.isDigit_iff_toNat.mp digit
  have zero : '0'.toNat = 48 := rfl
  have nine : '9'.toNat = 57 := rfl
  have small : c.toNat - 48 < 10 := by omega
  refine ⟨c.toNat - 48, small, Char.toNat_inj.mp ?_⟩
  rw [Nat.toNat_digitChar_of_lt_ten small]
  omega

/-- **A run of digits is the last digits of a number that ends in what it stands for.** -/
theorem lastDigits_of_isDigit {ds : List Char} (digital : ∀ c ∈ ds, c.isDigit = true) (front : Nat) :
    lastDigits ds.length (front * 10 ^ ds.length + ofDigits ds) = ds := by
  induction ds using List.reverseRecOn with
  | nil => rfl
  | append_singleton ds d ih =>
    obtain ⟨others, last⟩ := List.forall_mem_append.mp digital
    obtain ⟨d, small, rfl⟩ := exists_digitChar (last d (List.mem_singleton_self d))
    have value : front * 10 ^ (ds.length + 1) + (ofDigits ds * 10 ^ 1 + d) =
        10 * (front * 10 ^ ds.length + ofDigits ds) + d := by ring
    have tenth : ∀ n : Nat, (10 * n + d) / 10 = n := by omega
    have rest : ∀ n : Nat, (10 * n + d) % 10 = d := by omega
    rw [List.length_append, List.length_singleton, ofDigits_append, List.length_singleton,
      ofDigits_digitChar small, value, lastDigits_succ, tenth, rest, ih others]

/-- A run of digits stands for less than the power of ten above it. -/
theorem ofDigits_lt {ds : List Char} (digital : ∀ c ∈ ds, c.isDigit = true) :
    ofDigits ds < 10 ^ ds.length := by
  have whole := lastDigits_of_isDigit digital 0
  rw [Nat.zero_mul, Nat.zero_add] at whole
  rw [← whole, ofDigits_lastDigits, length_lastDigits]
  exact Nat.mod_lt _ (Nat.pow_pos (by decide))

/-- What is above the last digits does not matter. -/
theorem lastDigits_mod (places n : Nat) : lastDigits places (n % 10 ^ places) = lastDigits places n := by
  induction places generalizing n with
  | zero => rfl
  | succ places ih =>
    have tenth : n % 10 ^ (places + 1) / 10 = n / 10 % 10 ^ places := by
      rw [Nat.pow_succ', Nat.mod_mul_right_div_self]
    have last : n % 10 ^ (places + 1) % 10 = n % 10 := by
      rw [Nat.pow_succ', Nat.mod_mul_right_mod]
    rw [lastDigits_succ, lastDigits_succ, tenth, last, ih]

/-- Zeros behind the last digits are the last digits of a multiple. -/
theorem lastDigits_append_zeros (places more n : Nat) :
    lastDigits places n ++ List.replicate more '0' = lastDigits (places + more) (n * 10 ^ more) := by
  induction more with
  | zero => simp
  | succ more ih =>
    have tenth : n * 10 ^ (more + 1) / 10 = n * 10 ^ more := by
      rw [Nat.pow_succ, ← Nat.mul_assoc, Nat.mul_div_cancel _ (by decide)]
    have last : n * 10 ^ (more + 1) % 10 = 0 := by
      rw [Nat.pow_succ, ← Nat.mul_assoc, Nat.mul_mod_left]
    rw [List.replicate_succ', ← List.append_assoc, ih, ← Nat.add_assoc, lastDigits_succ, tenth, last]
    rfl

/-! ## 3. Fixed places -/

/-- The decimal with `n` units of its last place, of which there are so many, without its sign. -/
def placesText (precision n : Nat) : List Char :=
  digits (n / 10 ^ precision) ++ if precision = 0 then [] else '.' :: lastDigits precision n

/-- A decimal whose further places are zeros is the one with fewer places. -/
theorem placesText_zeros (places more n : Nat) : placesText (places + more) (n * 10 ^ more) =
    digits (n / 10 ^ places) ++
      if places + more = 0 then [] else '.' :: (lastDigits places n ++ List.replicate more '0') := by
  have whole : n * 10 ^ more / 10 ^ (places + more) = n / 10 ^ places := by
    rw [Nat.pow_add, Nat.mul_div_mul_right _ _ (Nat.pow_pos (by decide))]
  rw [placesText, whole, lastDigits_append_zeros]

/-- Behind as many places as the exact expansion has nothing is rounded, and the others are zeros. -/
theorem roundQuotient_zeros {num den places : Nat} (positive : 0 < den) (exact : den ∣ 10 ^ places)
    (more : Nat) : roundQuotient (num * 10 ^ (places + more)) den =
      roundQuotient (num * 10 ^ places) den * 10 ^ more := by
  obtain ⟨part, divides⟩ := exact
  have first : num * 10 ^ places = num * part * den := by
    rw [divides]
    ring
  have further : num * 10 ^ (places + more) = num * part * 10 ^ more * den := by
    rw [Nat.pow_add, divides]
    ring
  rw [roundQuotient_of_eq positive first, roundQuotient_of_eq positive further]

variable {f : Format}

theorem scaleDown_pos (e : Int) : 0 < scaleDown e := Nat.pow_pos (by decide)

/-- A number on the grid of `2^e` has at most `-e` places. -/
theorem scaleDown_dvd (e : Int) : scaleDown e ∣ 10 ^ (-e).toNat := by
  refine ⟨5 ^ (-e).toNat, ?_⟩
  rw [scaleDown, Nat.pow_eq, ← Nat.mul_pow]

/-- **A finite number is written as the decimal nearest to it**, in full. -/
theorem fixedText_eq (precision : Nat) (negative : Bool) (m : Nat) (e : Int) (grid : f.OnGrid m e) :
    fixedText precision (.finite negative m e grid) = signText negative ++
      placesText precision (roundQuotient (m * scaleUp e * 10 ^ precision) (scaleDown e)) := by
  rcases Nat.le_total precision (-e).toNat with few | many
  · rw [fixedText, Nat.min_eq_left few, Nat.sub_self, Nat.pow_eq, lastDigits_mod, placesText,
      List.replicate_zero, List.append_nil, List.append_assoc]
  · obtain ⟨more, whole⟩ := Nat.exists_eq_add_of_le many
    subst whole
    rw [fixedText, Nat.min_eq_right many, Nat.add_sub_cancel_left, Nat.pow_eq, lastDigits_mod,
      roundQuotient_zeros (scaleDown_pos e) (scaleDown_dvd e), placesText_zeros, List.append_assoc]

/-- A text with fixed places, by the number that it is of. -/
inductive FixedText (precision : Nat) : Binary f → List Char → Prop where
  | nan : FixedText precision .nan ['N', 'a', 'N']
  | infinite (negative : Bool) :
      FixedText precision (.infinite negative) (signText negative ++ ['i', 'n', 'f'])
  /-- A sign, the digits of the whole part and, behind a point, so many digits: together they are
  the nearest number of units of the last place. -/
  | finite {negative : Bool} {m : Nat} {e : Int} {grid : f.OnGrid m e} {whole : Nat}
      {places : List Char} (length : places.length = precision)
      (digital : ∀ c ∈ places, c.isDigit = true)
      (nearest : IsNearest (m * scaleUp e * 10 ^ precision) (scaleDown e)
        (whole * 10 ^ precision + ofDigits places)) :
      FixedText precision (.finite negative m e grid) (signText negative ++
        (digits whole ++ if precision = 0 then [] else '.' :: places))

/-- **A number has one text with fixed places, the one that is written.** -/
theorem fixedText_iff {precision : Nat} {x : Binary f} {cs : List Char} :
    FixedText precision x cs ↔ cs = fixedText precision x := by
  have power : 0 < 10 ^ precision := Nat.pow_pos (by decide)
  constructor
  · intro written
    cases written with
    | nan => rfl
    | infinite negative => rfl
    | @finite negative m e grid whole places length digital nearest =>
      have small := ofDigits_lt digital
      rw [length] at small
      have front : (whole * 10 ^ precision + ofDigits places) / 10 ^ precision = whole := by
        rw [Nat.mul_comm, Nat.mul_add_div power, Nat.div_eq_of_lt small, Nat.add_zero]
      have back : lastDigits precision (whole * 10 ^ precision + ofDigits places) = places := by
        rw [← length]
        exact lastDigits_of_isDigit digital whole
      have rounded := (isNearest_iff (scaleDown_pos e)).mp nearest
      rw [fixedText_eq, ← rounded, placesText, front, back]
  · intro same
    rw [same]
    cases x with
    | nan => exact .nan
    | infinite negative => exact .infinite negative
    | finite negative m e grid =>
      rw [fixedText_eq, placesText]
      generalize rounded : roundQuotient (m * scaleUp e * 10 ^ precision) (scaleDown e) = n
      refine .finite (length_lastDigits precision n) (fun c => isDigit_of_mem_lastDigits) ?_
      have parts : n / 10 ^ precision * 10 ^ precision + n % 10 ^ precision = n := by
        rw [Nat.mul_comm]
        exact Nat.div_add_mod n _
      rw [ofDigits_lastDigits, parts]
      exact (isNearest_iff (scaleDown_pos e)).mpr rounded.symm

end Stencil.Numeric
