/-
AlertConformance.Proofs.Numeric.Whole — doubles that hold whole numbers.

Every whole number below 2 ^ 53 is a double, so as long as results stay
below that bound the operations on whole numbers are exact: the rounding
step finds the result itself at one of the exponents that it tries.

* `toRat?` — the exact value of a finite number.
* `ofScaledRatio_whole` — the rounding step keeps a whole number.
* `Holds` — a double that is a whole number; the laws of arithmetic and of
  the order for it.
-/
import AlertConformance.Numeric.Binary64
import Mathlib.Algebra.Order.Field.Power
import Mathlib.Data.Rat.Cast.Order
import Mathlib.Tactic.FieldSimp
import Mathlib.Tactic.Linarith
import Mathlib.Tactic.NormNum
import Mathlib.Tactic.Positivity
import Mathlib.Tactic.Ring

namespace AlertConformance

theorem roundQuotient_mul (quotient : Nat) {den : Nat} (hden : 0 < den) :
    roundQuotient (quotient * den) den = quotient := by
  simp [roundQuotient, Nat.mul_div_cancel _ hden, hden]

namespace Binary64

variable {x y : Binary64} {m n : Int} {num den k : Nat} {e : Int}

/-- The exact value of a finite number. -/
def toRat? : Binary64 → Option ℚ
  | finite negative m e => some (signed negative m * 2 ^ e)
  | _ => none

/-! ## Rounding -/

theorem shiftRatio_pos (num : Nat) (hden : 0 < den) (shift : Int) :
    0 < (shiftRatio num den shift).2 := by
  unfold shiftRatio
  split
  · exact hden
  · exact Nat.mul_pos hden (Nat.pow_pos (by decide))

/-- Shifting multiplies by a power of two. -/
theorem shiftRatio_value (num : Nat) (hden : 0 < den) (shift : Int) :
    ((shiftRatio num den shift).1 : ℚ) / (shiftRatio num den shift).2 =
      num / den * 2 ^ shift := by
  have hne : (den : ℚ) ≠ 0 := by exact_mod_cast hden.ne'
  unfold shiftRatio
  by_cases hshift : 0 ≤ shift
  · obtain ⟨places, rfl⟩ := Int.eq_ofNat_of_zero_le hshift
    rw [if_pos hshift]
    simp only [Int.toNat_natCast, Nat.pow_eq, Nat.cast_mul, Nat.cast_pow,
      Nat.cast_ofNat, zpow_natCast]
    ring
  · obtain ⟨places, hplaces⟩ := Int.eq_ofNat_of_zero_le (a := -shift) (by omega)
    obtain rfl : shift = -(places : Int) := by omega
    rw [if_neg hshift]
    simp only [neg_neg, Int.toNat_natCast, Nat.pow_eq, Nat.cast_mul, Nat.cast_pow, Nat.cast_ofNat,
      zpow_neg, zpow_natCast]
    field_simp

/-- A significand of 53 bits that carries over keeps its value. -/
theorem toRat?_pack (negative : Bool) (m : Nat) (he : e < maxExponent) :
    (pack negative m e).toRat? = some ((signed negative m : ℚ) * 2 ^ e) := by
  unfold pack
  split
  rename_i m' e' heq
  have htwo : (2 : ℚ) ≠ 0 := by norm_num
  by_cases hm : m = Nat.pow 2 precision
  · rw [if_pos hm] at heq
    obtain ⟨rfl, rfl⟩ := Prod.mk.inj heq
    rw [if_neg (by omega), toRat?, hm, zpow_add₀ htwo]
    cases negative <;> norm_num [signed, precision] <;> ring
  · rw [if_neg hm] at heq
    obtain ⟨rfl, rfl⟩ := Prod.mk.inj heq
    rw [if_neg (by omega), toRat?]

/-- A whole number below 2 ^ 53 needs no positive exponent. -/
theorem targetExponent_le_zero (hnum : num ≠ 0) (hden : 0 < den)
    (hvalue : (num : ℚ) / den * 2 ^ e = k) (hk : k < 2 ^ 53) : targetExponent num den e ≤ 0 := by
  have htwo : (2 : ℚ) ≠ 0 := by norm_num
  have hguess : e + num.log2 - den.log2 - precision ≤ 0 := by
    have hden' : (0 : ℚ) < den := by exact_mod_cast hden
    have hlow : (2 : ℚ) ^ (num.log2 : Int) ≤ num := by
      rw [zpow_natCast]
      exact_mod_cast Nat.log2_self_le hnum
    have hhigh : (den : ℚ) < 2 ^ (den.log2 + 1 : Int) := by
      have hlt : den < 2 ^ (den.log2 + 1) := Nat.lt_log2_self
      have hcast : ((den.log2 : Int) + 1) = ((den.log2 + 1 : Nat) : Int) := by push_cast; rfl
      rw [hcast, zpow_natCast]
      exact_mod_cast hlt
    have hbound : (num : ℚ) * 2 ^ e < 2 ^ (53 : Int) * 2 ^ (den.log2 + 1 : Int) := by
      have heq : (num : ℚ) * 2 ^ e = k * den := by
        rw [← hvalue]
        field_simp
      have hk' : (k : ℚ) ≤ 2 ^ (53 : Int) := by exact_mod_cast hk.le
      rw [heq]
      exact mul_lt_mul' hk' hhigh hden'.le (by positivity)
    have hpow : (2 : ℚ) ^ (num.log2 + e : Int) < 2 ^ (53 + (den.log2 + 1) : Int) := by
      rw [zpow_add₀ htwo, zpow_add₀ htwo]
      exact lt_of_le_of_lt (mul_le_mul_of_nonneg_right hlow (by positivity)) hbound
    have hlt := (zpow_lt_zpow_iff_right₀ (by norm_num : (1 : ℚ) < 2)).mp hpow
    unfold precision
    omega
  have hle : max minExponent (e + num.log2 - den.log2 - precision) ≤ 0 :=
    max_le (by decide) hguess
  simp only [targetExponent]
  generalize max minExponent (e + num.log2 - den.log2 - precision) = guess at hle ⊢
  split
  · exact hle
  · rename_i hbig
    -- at exponent zero the significand is the number itself, and it fits
    have hne : guess ≠ 0 := by
      rintro rfl
      rw [sub_zero] at hbig
      have hd := shiftRatio_pos num hden e
      have hratio := shiftRatio_value num hden e
      rw [hvalue, div_eq_iff (by exact_mod_cast hd.ne')] at hratio
      have hn : (shiftRatio num den e).1 = k * (shiftRatio num den e).2 := by exact_mod_cast hratio
      rw [hn, Nat.mul_div_cancel _ hd] at hbig
      exact hbig hk
    omega

/-- **Rounding**: a whole number below 2 ^ 53 is not changed. -/
theorem ofScaledRatio_whole (negative : Bool) (hden : 0 < den)
    (hvalue : (num : ℚ) / den * 2 ^ e = k) (hk : k < 2 ^ 53) :
    (ofScaledRatio negative num den e).toRat? = some (signed negative k : ℚ) := by
  have htwo : (2 : ℚ) ≠ 0 := by norm_num
  unfold ofScaledRatio
  by_cases hnum : num = 0
  · have hzero : k = 0 := by
      rw [hnum, Nat.cast_zero, zero_div, zero_mul] at hvalue
      exact_mod_cast hvalue.symm
    rw [if_pos hnum, hzero]
    cases negative <;> simp [zero, toRat?, signed]
  · rw [if_neg hnum]
    have htarget := targetExponent_le_zero hnum hden hvalue hk
    obtain ⟨places, hplaces⟩ :=
      Int.eq_ofNat_of_zero_le (a := -targetExponent num den e) (by omega)
    have htarget' : targetExponent num den e = -(places : Int) := by omega
    have hd := shiftRatio_pos num hden (e - targetExponent num den e)
    have hratio := shiftRatio_value num hden (e - targetExponent num den e)
    rw [zpow_sub₀ htwo, ← mul_div_assoc, hvalue, htarget', zpow_neg, div_inv_eq_mul, zpow_natCast,
      div_eq_iff (by rw [← htarget']; exact_mod_cast hd.ne'), ← htarget'] at hratio
    have hexact : (shiftRatio num den (e - targetExponent num den e)).1 =
        k * 2 ^ places * (shiftRatio num den (e - targetExponent num den e)).2 := by
      exact_mod_cast hratio
    simp only
    rw [hexact, roundQuotient_mul _ hd, toRat?_pack _ _ (by unfold maxExponent; omega), htarget',
      zpow_neg, zpow_natCast]
    have hpow : (2 : ℚ) ^ places ≠ 0 := pow_ne_zero _ htwo
    cases negative <;> simp only [signed, if_true, if_false, Bool.false_eq_true] <;> push_cast <;>
      field_simp

/-! ## Whole numbers -/

/-- A double is a whole number. -/
def Holds (x : Binary64) (n : Int) : Prop := x.toRat? = some (n : ℚ)

theorem exists_finite_of_toRat? {p : ℚ} (h : x.toRat? = some p) :
    ∃ s m e, x = finite s m e ∧ (signed s m : ℚ) * 2 ^ e = p := by
  cases x with
  | nan => simp [toRat?] at h
  | infinite s => simp [toRat?] at h
  | finite s m e => exact ⟨s, m, e, rfl, by simpa [toRat?] using h⟩

theorem Holds.exists_finite (h : Holds x n) :
    ∃ s m e, x = finite s m e ∧ (signed s m : ℚ) * 2 ^ e = n :=
  exists_finite_of_toRat? h

theorem signed_natAbs (n : Int) : signed (decide (n < 0)) n.natAbs = n := by
  unfold signed
  by_cases hn : n < 0
  · rw [if_pos (decide_eq_true hn)]
    omega
  · rw [if_neg (by simpa using hn)]
    omega

theorem signed_mul (s t : Bool) (m n : Nat) :
    signed (s != t) (m * n) = signed s m * signed t n := by
  cases s <;> cases t <;> simp [signed]

theorem signed_div (s t : Bool) (m : Nat) {n : Nat} (hn : n ≠ 0) :
    (signed (s != t) m : ℚ) / n = signed s m / signed t n := by
  have hne : (n : ℚ) ≠ 0 := by exact_mod_cast hn
  cases s <;> cases t <;> simp [signed, neg_div, div_neg]

/-- The rounding step on a whole number with its sign. -/
theorem holds_ofScaledRatio {negative : Bool} (hden : 0 < den)
    (hvalue : (signed negative num : ℚ) / den * 2 ^ e = n) (hn : n.natAbs < 2 ^ 53) :
    (ofScaledRatio negative num den e).Holds n := by
  have hnonneg : (0 : ℚ) ≤ num / den * 2 ^ e := by positivity
  cases negative with
  | false =>
    simp only [signed, Bool.false_eq_true, if_false, Int.cast_natCast] at hvalue
    have hpos : 0 ≤ n := by
      rw [hvalue] at hnonneg
      exact_mod_cast hnonneg
    have hcast : ((n.natAbs : Nat) : ℚ) = n := by
      rw [Nat.cast_natAbs, abs_of_nonneg hpos]
    rw [Holds, ofScaledRatio_whole false hden (hvalue.trans hcast.symm) hn]
    simp only [signed, Bool.false_eq_true, if_false, Int.cast_natCast, hcast]
  | true =>
    simp only [signed, if_true, Int.cast_neg, Int.cast_natCast, neg_div, neg_mul] at hvalue
    have hneg : n ≤ 0 := by
      have hle : (n : ℚ) ≤ 0 := by linarith
      exact_mod_cast hle
    have hcast : ((n.natAbs : Nat) : ℚ) = -n := by
      rw [Nat.cast_natAbs, abs_of_nonpos hneg, Int.cast_neg]
    rw [Holds, ofScaledRatio_whole true hden (by linarith) hn]
    simp only [signed, if_true, Int.cast_neg, Int.cast_natCast, hcast, neg_neg]

theorem holds_ofInt (hn : n.natAbs < 2 ^ 53) : (ofInt n).Holds n := by
  refine holds_ofScaledRatio Nat.one_pos ?_ hn
  rw [signed_natAbs, Nat.cast_one, div_one, zpow_zero, mul_one]

theorem holds_zero : (0 : Binary64).Holds 0 := holds_ofInt (by decide)

theorem holds_one : (1 : Binary64).Holds 1 := holds_ofInt (by decide)

theorem holds_thousand : (1000 : Binary64).Holds 1000 := holds_ofInt (by decide)

/-! ## Arithmetic -/

theorem Holds.neg (h : x.Holds n) : (-x).Holds (-n) := by
  obtain ⟨s, m, e, rfl, hx⟩ := h.exists_finite
  show (finite (!s) m e).toRat? = _
  rw [toRat?, Int.cast_neg, ← hx]
  cases s <;> simp [signed]

/-- A significand at a lower exponent. -/
theorem scale_to (c : Int) {low : Int} (hlow : low ≤ e) :
    ((c * Int.pow 2 (e - low).toNat : Int) : ℚ) * 2 ^ low = (c : ℚ) * 2 ^ e := by
  obtain ⟨places, hplaces⟩ := Int.eq_ofNat_of_zero_le (a := e - low) (by omega)
  obtain rfl : e = low + (places : Int) := by omega
  rw [hplaces, Int.toNat_natCast, zpow_add₀ (by norm_num : (2 : ℚ) ≠ 0), zpow_natCast, Int.pow_eq]
  push_cast
  ring

theorem signed_shift (s : Bool) (m places : Nat) :
    signed s (m * Nat.pow 2 places) = signed s m * Int.pow 2 places := by
  cases s <;> simp [signed]

/-- The exact sum of two numbers at the smaller of their exponents. -/
theorem add_value (s t : Bool) (a b : Nat) (e f : Int) :
    ((signed s (a * Nat.pow 2 (e - min e f).toNat) +
      signed t (b * Nat.pow 2 (f - min e f).toNat) : Int) : ℚ) * 2 ^ min e f =
      (signed s a : ℚ) * 2 ^ e + (signed t b : ℚ) * 2 ^ f := by
  rw [signed_shift, signed_shift, Int.cast_add, add_mul, scale_to _ (min_le_left e f),
    scale_to _ (min_le_right e f)]

theorem Holds.add (hx : x.Holds m) (hy : y.Holds n) (hsum : (m + n).natAbs < 2 ^ 53) :
    (x + y).Holds (m + n) := by
  obtain ⟨s, a, e, rfl, hm⟩ := hx.exists_finite
  obtain ⟨t, b, f, rfl, hn⟩ := hy.exists_finite
  have hvalue := add_value s t a b e f
  rw [hm, hn, ← Int.cast_add] at hvalue
  show (Binary64.add (finite s a e) (finite t b f)).Holds (m + n)
  simp only [Binary64.add]
  generalize signed s (a * Nat.pow 2 (e - min e f).toNat) +
      signed t (b * Nat.pow 2 (f - min e f).toNat) = sum at hvalue ⊢
  split
  · rename_i hzero
    have hmn : m + n = 0 := by
      rw [hzero, Int.cast_zero, zero_mul] at hvalue
      exact_mod_cast hvalue.symm
    rw [hmn]
    cases s <;> cases t <;> simp [zero, Holds, toRat?, signed]
  · refine holds_ofScaledRatio Nat.one_pos ?_ hsum
    rw [signed_natAbs, Nat.cast_one, div_one, hvalue]

theorem Holds.sub (hx : x.Holds m) (hy : y.Holds n) (hsub : (m - n).natAbs < 2 ^ 53) :
    (x - y).Holds (m - n) := by
  rw [Int.sub_eq_add_neg] at hsub ⊢
  exact hx.add hy.neg hsub

theorem Holds.mul (hx : x.Holds m) (hy : y.Holds n) (hmul : (m * n).natAbs < 2 ^ 53) :
    (x * y).Holds (m * n) := by
  obtain ⟨s, a, e, rfl, hm⟩ := hx.exists_finite
  obtain ⟨t, b, f, rfl, hn⟩ := hy.exists_finite
  refine holds_ofScaledRatio Nat.one_pos ?_ hmul
  rw [signed_mul, Nat.cast_one, div_one, zpow_add₀ (by norm_num : (2 : ℚ) ≠ 0), Int.cast_mul,
    Int.cast_mul, ← hm, ← hn]
  ring

theorem Holds.div (hx : x.Holds (m * n)) (hy : y.Holds n) (hne : n ≠ 0)
    (hm : m.natAbs < 2 ^ 53) : (x / y).Holds m := by
  obtain ⟨s, a, e, rfl, hvalue⟩ := hx.exists_finite
  obtain ⟨t, b, f, rfl, hn⟩ := hy.exists_finite
  have hne' : (n : ℚ) ≠ 0 := by exact_mod_cast hne
  have hb : b ≠ 0 := by
    rintro rfl
    refine hne' ?_
    rw [← hn]
    cases t <;> simp [signed]
  show (Binary64.div (finite s a e) (finite t b f)).Holds m
  rw [Binary64.div, if_neg hb]
  refine holds_ofScaledRatio (Nat.pos_of_ne_zero hb) ?_ hm
  rw [signed_div s t a hb, zpow_sub₀ (by norm_num : (2 : ℚ) ≠ 0), div_mul_div_comm, hvalue, hn,
    Int.cast_mul, mul_div_cancel_right₀ _ hne']

/-! ## Order -/

/-- The order of two scaled significands is that of their values. -/
theorem compareScaled_eq_compare (a e b f : Int) :
    compareScaled a e b f = compare ((a : ℚ) * 2 ^ e) ((b : ℚ) * 2 ^ f) := by
  have hleft := scale_to a (min_le_left e f)
  have hright := scale_to b (min_le_right e f)
  unfold compareScaled
  simp only
  generalize a * Int.pow 2 (e - min e f).toNat = left at hleft ⊢
  generalize b * Int.pow 2 (f - min e f).toNat = right at hright ⊢
  have hpow : (0 : ℚ) < 2 ^ min e f := by positivity
  have hlt : ∀ {c d : Int}, c < d → (c : ℚ) * 2 ^ min e f < d * 2 ^ min e f := by
    intro c d hcd
    exact mul_lt_mul_of_pos_right (by exact_mod_cast hcd) hpow
  rw [← hleft, ← hright]
  rcases lt_trichotomy left right with hless | rfl | hmore
  · rw [compare_lt_iff_lt.mpr hless, compare_lt_iff_lt.mpr (hlt hless)]
  · rw [compare_eq_iff_eq.mpr rfl, compare_eq_iff_eq.mpr rfl]
  · rw [compare_gt_iff_gt.mpr hmore, compare_gt_iff_gt.mpr (hlt hmore)]

theorem compareScaled_eq {a b f : Int} (ha : (a : ℚ) * 2 ^ e = m) (hb : (b : ℚ) * 2 ^ f = n) :
    compareScaled a e b f = compare m n := by
  rw [compareScaled_eq_compare, ha, hb]
  rcases lt_trichotomy m n with hless | rfl | hmore
  · rw [compare_lt_iff_lt.mpr hless, compare_lt_iff_lt.mpr (by exact_mod_cast hless)]
  · rw [compare_eq_iff_eq.mpr rfl, compare_eq_iff_eq.mpr rfl]
  · rw [compare_gt_iff_gt.mpr hmore, compare_gt_iff_gt.mpr (by exact_mod_cast hmore)]

theorem Holds.compare? (hx : x.Holds m) (hy : y.Holds n) :
    x.compare? y = some (compare m n) := by
  obtain ⟨s, a, e, rfl, hm⟩ := hx.exists_finite
  obtain ⟨t, b, f, rfl, hn⟩ := hy.exists_finite
  rw [Binary64.compare?, compareScaled_eq hm hn]

theorem Holds.compareInt? (hx : x.Holds m) (n : Int) : x.compareInt? n = some (compare m n) := by
  obtain ⟨s, a, e, rfl, hm⟩ := hx.exists_finite
  have hn : (n : ℚ) * 2 ^ (0 : Int) = n := by rw [zpow_zero, mul_one]
  rw [Binary64.compareInt?, compareScaled_eq hm hn]

theorem Holds.le_iff (hx : x.Holds m) (hy : y.Holds n) : x.le y = true ↔ m ≤ n := by
  rw [Binary64.le, hx.compare? hy, ← Int.isLE_compare]
  cases compare m n <;> simp

theorem Holds.leInt_iff (hx : x.Holds m) (n : Int) : x.leInt n = true ↔ m ≤ n := by
  rw [Binary64.leInt, hx.compareInt? n, ← Int.isLE_compare]
  cases compare m n <;> simp

theorem Holds.gtInt_iff (hx : x.Holds m) (n : Int) : x.gtInt n = true ↔ n < m := by
  rw [Binary64.gtInt, hx.compareInt? n, ← Int.compare_eq_gt]
  cases compare m n <;> simp

/-! ## Closeness -/

theorem equal_self (h : x.isNaN = false) : x.equal x = true := by
  cases x with
  | nan => cases h
  | infinite s => simp [equal, Binary64.compare?]
  | finite s m e => simp [equal, Binary64.compare?, compareScaled]

/-- A number is close to itself. -/
theorem isClose_self (h : x.isNaN = false) : x.isClose x = true := by
  rw [isClose, if_pos (equal_self h)]

theorem isNaN_pack (negative : Bool) (m : Nat) (e : Int) : (pack negative m e).isNaN = false := by
  unfold pack
  split
  split
  · rfl
  · rfl

theorem isNaN_ofScaledRatio (negative : Bool) (num den : Nat) (e : Int) :
    (ofScaledRatio negative num den e).isNaN = false := by
  unfold ofScaledRatio
  split
  · rfl
  · exact isNaN_pack _ _ _

theorem isNaN_div (hx : x.isFinite = true) (hy : y.Holds n) (hne : n ≠ 0) :
    (x / y).isNaN = false := by
  obtain ⟨t, b, f, rfl, hn⟩ := hy.exists_finite
  cases x with
  | nan => cases hx
  | infinite s => cases hx
  | finite s a e =>
    show (Binary64.div (finite s a e) (finite t b f)).isNaN = false
    rw [Binary64.div]
    split
    · rename_i hb
      have hzero : (n : ℚ) = 0 := by
        rw [← hn, hb]
        cases t <;> simp [signed]
      exact absurd (by exact_mod_cast hzero) hne
    · exact isNaN_ofScaledRatio _ _ _ _

end Binary64

end AlertConformance
