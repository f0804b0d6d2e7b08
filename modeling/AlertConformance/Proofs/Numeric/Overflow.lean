/-
AlertConformance.Proofs.Numeric.Overflow — which results are infinite.

Rounding brings a value to a significand of 53 bits, or to the least
exponent when it is too small for that. The largest finite double has 53
bits set at the largest exponent, so what lies half a unit above it, or
higher, is rounded to a power of two that no double has, and becomes an
infinity. Everything below stays finite.

* `roundQuotient_le`, `roundQuotient_eq_iff` — a quotient that is rounded
  up to a bound.
* `targetExponent_bounds` — the exponent fits the value.
* `isFinite_ofScaledRatio_iff` — the values that are rounded to infinity.
* `isFinite_add_iff`, `isFinite_mul_iff` — the sums and products that
  overflow.
* `isWritable_of_roundToInt?_mul` — a product that does not is near an
  integer with a text.
-/
import AlertConformance.Proofs.Numeric.Decimal
import AlertConformance.Proofs.Numeric.Whole

namespace AlertConformance

/-! ## Quotients -/

theorem roundQuotient_le {num den limit : Nat} (h : num < limit * den) :
    roundQuotient num den ≤ limit := by
  have hquotient : num / den < limit := Nat.div_lt_of_lt_mul (Nat.mul_comm limit den ▸ h)
  simp only [roundQuotient]
  repeat' split
  all_goals omega

/-- An even bound is reached from half a unit below it. -/
theorem roundQuotient_eq_iff {num den limit : Nat} (heven : limit % 2 = 0) (hden : 0 < den)
    (h : num < limit * den) :
    roundQuotient num den = limit ↔ (2 * limit - 1) * den ≤ 2 * num := by
  have hquotient : num / den < limit := Nat.div_lt_of_lt_mul (Nat.mul_comm limit den ▸ h)
  have hdivision := Nat.div_add_mod num den
  have hremainder := Nat.mod_lt num hden
  simp only [roundQuotient]
  generalize num / den = quotient at *
  generalize num % den = remainder at *
  obtain ⟨gap, rfl⟩ := Nat.exists_eq_add_of_lt hquotient
  have hbound : (2 * (quotient + gap + 1) - 1) * den = 2 * (den * quotient) + 2 * (gap * den) + den := by
    rw [show 2 * (quotient + gap + 1) - 1 = 2 * quotient + 2 * gap + 1 by omega]
    ring
  rw [hbound]
  cases gap with
  | zero =>
    -- one unit below the bound: the remainder decides
    simp only [Nat.zero_mul]
    repeat' split
    all_goals omega
  | succ gap =>
    -- more than one unit below the bound
    have hgap : den ≤ (gap + 1) * den := Nat.le_mul_of_pos_left den (Nat.succ_pos gap)
    repeat' split
    all_goals omega

namespace Binary64

variable {num den : Nat} {e : Int}

/-! ## The exponent -/

theorem shiftRatio_div_lt_iff (num : Nat) (hden : 0 < den) (shift : Int) (limit : Nat) :
    (shiftRatio num den shift).1 / (shiftRatio num den shift).2 < limit ↔
      (num : ℚ) / den * 2 ^ shift < limit := by
  have hpos := shiftRatio_pos num hden shift
  rw [← shiftRatio_value num hden shift, Nat.div_lt_iff_lt_mul hpos,
    div_lt_iff₀ (by exact_mod_cast hpos)]
  exact_mod_cast Iff.rfl

/-- What fits a significand at an exponent. -/
theorem shiftRatio_fits_iff (num : Nat) (hden : 0 < den) (e target : Int) :
    (shiftRatio num den (e - target)).1 / (shiftRatio num den (e - target)).2 <
        Nat.pow 2 precision ↔ (num : ℚ) / den * 2 ^ e < 2 ^ (target + 53) := by
  have htwo : (2 : ℚ) ≠ 0 := by norm_num
  have hlimit : ((Nat.pow 2 precision : Nat) : ℚ) = 2 ^ (53 : Int) := by norm_num [precision]
  rw [shiftRatio_div_lt_iff num hden, hlimit, zpow_sub₀ htwo, ← mul_div_assoc,
    div_lt_iff₀ (by positivity), ← zpow_add₀ htwo, Int.add_comm 53 target]

/-- A fraction by the lengths of its numbers in bits. -/
theorem ratio_bounds (hnum : num ≠ 0) (hden : 0 < den) :
    (2 : ℚ) ^ ((num.log2 : Int) - den.log2 - 1) < (num : ℚ) / den ∧
      (num : ℚ) / den < 2 ^ ((num.log2 : Int) - den.log2 + 1) := by
  have htwo : (2 : ℚ) ≠ 0 := by norm_num
  have hden' : (0 : ℚ) < den := by exact_mod_cast hden
  have hnumLow : (2 : ℚ) ^ (num.log2 : Int) ≤ num := by
    exact_mod_cast Nat.log2_self_le hnum
  have hnumHigh : (num : ℚ) < 2 ^ ((num.log2 : Int) + 1) := by
    exact_mod_cast (Nat.lt_log2_self : num < 2 ^ (num.log2 + 1))
  have hdenLow : (2 : ℚ) ^ (den.log2 : Int) ≤ den := by
    exact_mod_cast Nat.log2_self_le hden.ne'
  have hdenHigh : (den : ℚ) < 2 ^ ((den.log2 : Int) + 1) := by
    exact_mod_cast (Nat.lt_log2_self : den < 2 ^ (den.log2 + 1))
  constructor
  · rw [lt_div_iff₀ hden']
    calc (2 : ℚ) ^ ((num.log2 : Int) - den.log2 - 1) * den
        < 2 ^ ((num.log2 : Int) - den.log2 - 1) * 2 ^ ((den.log2 : Int) + 1) :=
          mul_lt_mul_of_pos_left hdenHigh (by positivity)
      _ = 2 ^ (num.log2 : Int) := by rw [← zpow_add₀ htwo]; congr 1; ring
      _ ≤ num := hnumLow
  · rw [div_lt_iff₀ hden']
    calc (num : ℚ) < 2 ^ ((num.log2 : Int) + 1) := hnumHigh
      _ = 2 ^ ((num.log2 : Int) - den.log2 + 1) * 2 ^ (den.log2 : Int) := by
          rw [← zpow_add₀ htwo]; congr 1; ring
      _ ≤ 2 ^ ((num.log2 : Int) - den.log2 + 1) * den :=
          mul_le_mul_of_nonneg_left hdenLow (by positivity)

/-- **The exponent** leaves at most 53 bits before the point, and exactly as
many unless it is the least one. -/
theorem targetExponent_bounds (hnum : num ≠ 0) (hden : 0 < den) (e : Int) :
    minExponent ≤ targetExponent num den e ∧
      (num : ℚ) / den * 2 ^ e < 2 ^ (targetExponent num den e + 53) ∧
      (targetExponent num den e = minExponent ∨
        2 ^ (targetExponent num den e + 52) ≤ (num : ℚ) / den * 2 ^ e) := by
  have htwo : (2 : ℚ) ≠ 0 := by norm_num
  have hmono : ∀ {i j : Int}, i ≤ j → (2 : ℚ) ^ i ≤ 2 ^ j := fun hij =>
    zpow_le_zpow_right₀ (by norm_num) hij
  obtain ⟨hlow, hhigh⟩ := ratio_bounds hnum hden
  obtain ⟨near, hnear⟩ : ∃ near : Int, e + num.log2 - den.log2 - precision = near := ⟨_, rfl⟩
  have hnear' : e + num.log2 - den.log2 - 53 = near := hnear
  -- the lengths in bits give the exponent up to one
  have hpow : (0 : ℚ) < 2 ^ e := by positivity
  have hvalueLow := mul_lt_mul_of_pos_right hlow hpow
  have hvalueHigh := mul_lt_mul_of_pos_right hhigh hpow
  rw [← zpow_add₀ htwo, show (num.log2 : Int) - den.log2 - 1 + e = near + 52 by omega] at hvalueLow
  rw [← zpow_add₀ htwo, show (num.log2 : Int) - den.log2 + 1 + e = near + 54 by omega] at hvalueHigh
  have hfits := shiftRatio_fits_iff num hden e
  simp only [targetExponent, hnear]
  split
  · rename_i hfit
    rw [hfits] at hfit
    refine ⟨le_max_left _ _, hfit, ?_⟩
    rcases le_total near minExponent with hleast | hleast
    · exact .inl (max_eq_left hleast)
    · rw [max_eq_right hleast]
      exact .inr hvalueLow.le
  · rename_i hfit
    rw [hfits, not_lt] at hfit
    -- at the least exponent a value that is too long for it would be longer than it is
    have hguess : minExponent ≤ near := by
      by_contra hless
      rw [max_eq_left (by omega)] at hfit
      exact absurd (hfit.trans_lt hvalueHigh) (not_lt.mpr (hmono (by omega)))
    rw [max_eq_right hguess] at hfit ⊢
    refine ⟨by omega, ?_, .inr ?_⟩
    · rwa [show near + 1 + 53 = near + 54 by ring]
    · rwa [show near + 1 + 52 = near + 53 by ring]

/-! ## Rounding -/

theorem abs_signed (negative : Bool) (m : Nat) : |(signed negative m : ℚ)| = m := by
  cases negative <;> simp [signed]

/-- Half a unit above the largest finite number. -/
def overflowBound : ℚ := (2 ^ 54 - 1) * 2 ^ (970 : Int)

theorem lt_overflowBound : (2 : ℚ) ^ (1023 : Int) < overflowBound := by
  have hsplit : (2 : ℚ) ^ (1023 : Int) = 2 ^ 53 * 2 ^ (970 : Int) := by
    rw [show (1023 : Int) = 53 + 970 by norm_num, zpow_add₀ (by norm_num)]
    rfl
  rw [hsplit, overflowBound]
  exact mul_lt_mul_of_pos_right (by norm_num) (by positivity)

theorem overflowBound_lt : overflowBound < (2 : ℚ) ^ (1024 : Int) := by
  have hsplit : (2 : ℚ) ^ (1024 : Int) = 2 ^ 54 * 2 ^ (970 : Int) := by
    rw [show (1024 : Int) = 54 + 970 by norm_num, zpow_add₀ (by norm_num)]
    rfl
  rw [hsplit, overflowBound]
  exact mul_lt_mul_of_pos_right (by norm_num) (by positivity)

theorem isFinite_pack_iff (negative : Bool) (m : Nat) (e : Int) :
    (pack negative m e).isFinite = true ↔
      e < maxExponent ∨ e = maxExponent ∧ m ≠ 2 ^ precision := by
  unfold pack
  by_cases hm : m = 2 ^ precision
  · simp only [Nat.pow_eq, if_pos hm]
    by_cases he : maxExponent < e + 1
    · simp [he, isFinite, hm]
      omega
    · simp [he, isFinite, hm]
      omega
  · simp only [Nat.pow_eq, if_neg hm]
    by_cases he : maxExponent < e
    · simp [he, isFinite, hm]
      omega
    · simp [he, isFinite, hm]
      omega

/-- At the largest exponent a significand that is rounded up to the next power
of two is one of half a unit above the largest finite number. -/
theorem roundQuotient_max_iff (num : Nat) (hden : 0 < den) (e : Int)
    (h : (num : ℚ) / den * 2 ^ e < 2 ^ (maxExponent + 53)) :
    roundQuotient (shiftRatio num den (e - maxExponent)).1
        (shiftRatio num den (e - maxExponent)).2 = 2 ^ precision ↔
      overflowBound ≤ (num : ℚ) / den * 2 ^ e := by
  have htwo : (2 : ℚ) ≠ 0 := by norm_num
  have hpos := shiftRatio_pos num hden (e - maxExponent)
  have hratio := shiftRatio_value num hden (e - maxExponent)
  generalize (shiftRatio num den (e - maxExponent)).1 = n at *
  generalize (shiftRatio num den (e - maxExponent)).2 = d at *
  have hd : (0 : ℚ) < d := by exact_mod_cast hpos
  have hvalue : (num : ℚ) / den * 2 ^ e = (2 * n : Nat) / d * 2 ^ (970 : Int) := by
    have hsplit : (2 : ℚ) ^ e = 2 ^ (e - maxExponent) * 2 * 2 ^ (970 : Int) := by
      rw [← zpow_add_one₀ htwo, ← zpow_add₀ htwo]
      congr 1
      unfold maxExponent
      ring
    generalize (2 : ℚ) ^ (970 : Int) = unit at hsplit ⊢
    rw [hsplit, ← mul_assoc, ← mul_assoc, ← hratio]
    push_cast
    ring
  have hlt : n < 2 ^ precision * d := by
    rw [hvalue, show maxExponent + 53 = 54 + 970 by decide, zpow_add₀ htwo,
      mul_lt_mul_iff_of_pos_right (by positivity), div_lt_iff₀ hd] at h
    have hcast : 2 * n < 2 ^ 54 * d := by exact_mod_cast h
    rw [precision]
    omega
  rw [roundQuotient_eq_iff (by decide) hpos hlt, hvalue, overflowBound,
    mul_le_mul_iff_of_pos_right (by positivity), le_div_iff₀ hd]
  have hbound : ((2 * 2 ^ precision - 1 : Nat) : ℚ) = 2 ^ 54 - 1 := by norm_num [precision]
  rw [← hbound]
  exact_mod_cast Iff.rfl

/-- **Overflow**: a value is rounded to an infinity when it is half a unit
above the largest finite number, or higher. -/
theorem isFinite_ofScaledRatio_iff (negative : Bool) (num : Nat) (hden : 0 < den) (e : Int) :
    (ofScaledRatio negative num den e).isFinite = true ↔
      (num : ℚ) / den * 2 ^ e < overflowBound := by
  have hmono : ∀ {i j : Int}, i ≤ j → (2 : ℚ) ^ i ≤ 2 ^ j := fun hij =>
    zpow_le_zpow_right₀ (by norm_num) hij
  unfold ofScaledRatio
  by_cases hnum : num = 0
  · have hpos : (0 : ℚ) < overflowBound := lt_trans (by positivity) lt_overflowBound
    simp [hnum, zero, isFinite, hpos]
  rw [if_neg hnum]
  obtain ⟨hleast, hhigh, hlow⟩ := targetExponent_bounds hnum hden e
  simp only
  generalize targetExponent num den e = target at *
  rw [isFinite_pack_iff]
  rcases lt_trichotomy target maxExponent with hless | rfl | hmore
  · refine iff_of_true (.inl hless) (hhigh.trans_le ?_)
    unfold maxExponent at hless
    exact (hmono (by omega)).trans lt_overflowBound.le
  · simp only [lt_self_iff_false, true_and, false_or]
    rw [← not_le]
    exact not_congr (roundQuotient_max_iff num hden e hhigh)
  · refine iff_of_false (by omega) (not_lt.mpr ?_)
    unfold maxExponent at hmore
    unfold minExponent at hlow
    have hlow := hlow.resolve_left (by omega)
    exact (overflowBound_lt.le.trans (hmono (by omega))).trans hlow

/-- Rounding does not lift a value over a power of two. -/
theorem exists_toRat?_ofScaledRatio (negative : Bool) (num : Nat) (hden : 0 < den) (e : Int)
    {bits : Int} (hleast : minExponent + 53 ≤ bits) (hmost : bits ≤ 1023)
    (h : (num : ℚ) / den * 2 ^ e < 2 ^ bits) :
    ∃ q, (ofScaledRatio negative num den e).toRat? = some q ∧ |q| ≤ 2 ^ bits := by
  have htwo : (2 : ℚ) ≠ 0 := by norm_num
  unfold ofScaledRatio
  by_cases hnum : num = 0
  · rw [if_pos hnum]
    refine ⟨_, rfl, ?_⟩
    cases negative <;> simp [signed] <;> positivity
  rw [if_neg hnum]
  obtain ⟨-, hhigh, hlow⟩ := targetExponent_bounds hnum hden e
  have htarget : targetExponent num den e + 53 ≤ bits := by
    rcases hlow with hleastTarget | hlow
    · omega
    · have hless := (zpow_lt_zpow_iff_right₀ (by norm_num : (1 : ℚ) < 2)).mp (hlow.trans_lt h)
      omega
  simp only
  generalize targetExponent num den e = target at *
  have hpos := shiftRatio_pos num hden (e - target)
  have hround := roundQuotient_le ((Nat.div_lt_iff_lt_mul hpos).mp
    ((shiftRatio_fits_iff num hden e target).mpr hhigh))
  refine ⟨_, toRat?_pack _ _ (by unfold maxExponent; omega), ?_⟩
  generalize roundQuotient _ _ = m at hround ⊢
  have hm : (m : ℚ) ≤ 2 ^ (53 : Int) := by exact_mod_cast hround
  rw [abs_mul, abs_signed, abs_of_pos (a := (2 : ℚ) ^ target) (by positivity)]
  calc (m : ℚ) * 2 ^ target
      ≤ 2 ^ (53 : Int) * 2 ^ target := mul_le_mul_of_nonneg_right hm (by positivity)
    _ = 2 ^ (target + 53) := by rw [← zpow_add₀ htwo, Int.add_comm]
    _ ≤ 2 ^ bits := zpow_le_zpow_right₀ (by norm_num) htarget

/-! ## Sums and products -/

variable {x y : Binary64} {p q : ℚ}

/-- **A sum** of finite numbers overflows by its exact value. -/
theorem isFinite_add_iff (hx : x.toRat? = some p) (hy : y.toRat? = some q) :
    (x + y).isFinite = true ↔ |p + q| < overflowBound := by
  obtain ⟨s, a, e, rfl, rfl⟩ := exists_finite_of_toRat? hx
  obtain ⟨t, b, f, rfl, rfl⟩ := exists_finite_of_toRat? hy
  have hsum := add_value s t a b e f
  show (Binary64.add (finite s a e) (finite t b f)).isFinite = true ↔ _
  simp only [Binary64.add]
  generalize signed s (a * Nat.pow 2 (e - min e f).toNat) +
    signed t (b * Nat.pow 2 (f - min e f).toNat) = sum at hsum ⊢
  rw [← hsum]
  split
  · rename_i hzero
    have hpos : (0 : ℚ) < overflowBound := lt_trans (by positivity) lt_overflowBound
    simp [zero, isFinite, hzero, hpos]
  · rw [isFinite_ofScaledRatio_iff _ _ Nat.one_pos, Nat.cast_one, div_one, Nat.cast_natAbs, abs_mul,
      abs_of_pos (a := (2 : ℚ) ^ min e f) (by positivity), Int.cast_abs]

/-- **A product** of finite numbers overflows by its exact value. -/
theorem isFinite_mul_iff (hx : x.toRat? = some p) (hy : y.toRat? = some q) :
    (x * y).isFinite = true ↔ |p * q| < overflowBound := by
  obtain ⟨s, a, e, rfl, rfl⟩ := exists_finite_of_toRat? hx
  obtain ⟨t, b, f, rfl, rfl⟩ := exists_finite_of_toRat? hy
  have hvalue : |(signed s a : ℚ) * 2 ^ e * (signed t b * 2 ^ f)| =
      ((a * b : Nat) : ℚ) / (1 : Nat) * 2 ^ (e + f) := by
    rw [abs_mul, abs_mul, abs_mul, abs_signed, abs_signed,
      abs_of_pos (a := (2 : ℚ) ^ e) (by positivity), abs_of_pos (a := (2 : ℚ) ^ f) (by positivity),
      zpow_add₀ (by norm_num : (2 : ℚ) ≠ 0)]
    push_cast
    ring
  rw [hvalue]
  exact isFinite_ofScaledRatio_iff _ _ Nat.one_pos _

/-! ## Back to the integers -/

/-- A finite result has a significand of at most 53 bits and an exponent in
range. -/
theorem le_of_ofScaledRatio_eq_finite {negative s : Bool} {m : Nat} {place : Int} (hden : 0 < den)
    (h : ofScaledRatio negative num den e = finite s m place) :
    m ≤ 2 ^ 53 ∧ place ≤ maxExponent := by
  unfold ofScaledRatio at h
  by_cases hnum : num = 0
  · rw [if_pos hnum] at h
    obtain ⟨-, rfl, rfl⟩ := Binary64.finite.inj h
    decide
  rw [if_neg hnum] at h
  obtain ⟨-, hhigh, -⟩ := targetExponent_bounds hnum hden e
  simp only at h
  generalize targetExponent num den e = target at *
  have hround := roundQuotient_le ((Nat.div_lt_iff_lt_mul (shiftRatio_pos num hden _)).mp
    ((shiftRatio_fits_iff num hden e target).mpr hhigh))
  generalize roundQuotient _ _ = rounded at *
  unfold pack at h
  split at h
  rename_i m' place' hpacked
  split at h
  · cases h
  · obtain ⟨-, rfl, rfl⟩ := Binary64.finite.inj h
    split at hpacked <;> obtain ⟨rfl, rfl⟩ := Prod.mk.inj hpacked
    · exact ⟨by decide, by omega⟩
    · exact ⟨hround, by omega⟩

/-- The numbers of such a fraction fit into a significand and an exponent. -/
theorem shiftRatio_lt {m bits : Nat} {place : Int} (hm : m ≤ 2 ^ 53) (hplace : place ≤ bits) :
    (shiftRatio m 1 place).1 < (2 ^ 53 + 1) * 2 ^ bits * (shiftRatio m 1 place).2 := by
  have hpow : 0 < 2 ^ bits := Nat.pow_pos (by decide)
  unfold shiftRatio
  split
  · have hle : 2 ^ place.toNat ≤ 2 ^ bits := Nat.pow_le_pow_right (by decide) (by omega)
    calc m * Nat.pow 2 place.toNat ≤ 2 ^ 53 * 2 ^ bits := Nat.mul_le_mul hm hle
      _ < (2 ^ 53 + 1) * 2 ^ bits := Nat.mul_lt_mul_of_pos_right (by decide) hpow
      _ = (2 ^ 53 + 1) * 2 ^ bits * 1 := (Nat.mul_one _).symm
  · have hden : 0 < 1 * Nat.pow 2 (-place).toNat := Nat.mul_pos Nat.one_pos (Nat.pow_pos (by decide))
    calc m ≤ 2 ^ 53 := hm
      _ < 2 ^ 53 + 1 := Nat.lt_succ_self _
      _ ≤ (2 ^ 53 + 1) * 2 ^ bits := Nat.le_mul_of_pos_right _ hpow
      _ ≤ (2 ^ 53 + 1) * 2 ^ bits * (1 * Nat.pow 2 (-place).toNat) :=
        Nat.le_mul_of_pos_right _ hden

/-- The nearest integer to a product of two numbers can be written. -/
theorem isWritable_of_roundToInt?_mul {x y : Binary64} {n : Int}
    (h : (x * y).roundToInt? = some n) : isWritable n = true := by
  obtain ⟨s, m, place, hproduct⟩ : ∃ s m place, x * y = finite s m place := by
    cases hproduct : x * y with
    | finite s m place => exact ⟨s, m, place, rfl⟩
    | _ => simp [hproduct, roundToInt?] at h
  obtain ⟨hm, hplace⟩ : m ≤ 2 ^ 53 ∧ place ≤ maxExponent := by
    change mul x y = _ at hproduct
    unfold mul at hproduct
    split at hproduct
    case h_6 => exact le_of_ofScaledRatio_eq_finite Nat.one_pos hproduct
    case h_4 | h_5 => split at hproduct <;> cases hproduct
    all_goals cases hproduct
  rw [hproduct] at h
  obtain rfl := Option.some.inj h
  have hrounded : isWritable
      (roundQuotient (shiftRatio m 1 place).1 (shiftRatio m 1 place).2 : Nat) = true :=
    isWritable_of_le (roundQuotient_le (shiftRatio_lt hm hplace)) (by decide +kernel)
  cases s with
  | true => exact (isWritable_neg _).trans hrounded
  | false => exact hrounded

end Binary64

end AlertConformance
