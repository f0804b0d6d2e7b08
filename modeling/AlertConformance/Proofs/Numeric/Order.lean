/-
AlertConformance.Proofs.Numeric.Order — the place of a double in the order.

A number that is one has a place among the rational numbers and the two
infinities, and all comparisons go by places. A product too: the rounding
step does not see how a significand and an exponent share a value, so equal
numbers have equal products.

* `place` — the place of a number.
* `lt_iff_place`, `equal_iff_place`, `leInt_iff_place`, `gtInt_iff_place` —
  comparisons, with numbers and with integers.
* `ofScaledRatio_mul_two_pow` — rounding forgets the exponent it is given.
* `place_mul_eq` — equal numbers have equal products.
-/
import AlertConformance.Proofs.Numeric.Whole
import Mathlib.Algebra.Order.Ring.WithTop

namespace AlertConformance

namespace Binary64

variable {x y z : Binary64}

/-! ## Places -/

/-- The place of a fraction between the two ends of the order. -/
def ratPlace (q : ℚ) : WithBot (WithTop ℚ) := (q : WithTop ℚ)

/-- The place of a number in the order. A number that is not one has no
place of its own. -/
def place : Binary64 → WithBot (WithTop ℚ)
  | nan => ⊥
  | infinite negative => if negative then ⊥ else ⊤
  | finite s m e => ratPlace (signed s m * 2 ^ e)

theorem bot_lt_ratPlace (q : ℚ) : ⊥ < ratPlace q := WithBot.bot_lt_coe _

theorem ratPlace_lt_top (q : ℚ) : ratPlace q < ⊤ := WithBot.coe_lt_coe.mpr (WithTop.coe_lt_top q)

theorem ratPlace_lt_iff {p q : ℚ} : ratPlace p < ratPlace q ↔ p < q := by simp [ratPlace]

theorem ratPlace_inj {p q : ℚ} : ratPlace p = ratPlace q ↔ p = q := by simp [ratPlace]

theorem compare_ratPlace (p q : ℚ) : compare (ratPlace p) (ratPlace q) = compare p q := by
  rcases lt_trichotomy p q with hless | rfl | hmore
  · rw [compare_lt_iff_lt.mpr hless, compare_lt_iff_lt.mpr (ratPlace_lt_iff.mpr hless)]
  · rw [compare_eq_iff_eq.mpr rfl, compare_eq_iff_eq.mpr rfl]
  · rw [compare_gt_iff_gt.mpr hmore, compare_gt_iff_gt.mpr (ratPlace_lt_iff.mpr hmore)]

/-! ## Comparisons -/

/-- Numbers compare as their places do. -/
theorem compare?_eq_place (hx : x.isNaN = false) (hy : y.isNaN = false) :
    x.compare? y = some (compare x.place y.place) := by
  cases x with
  | nan => cases hx
  | infinite s =>
    cases y with
    | nan => cases hy
    | infinite t =>
      cases s <;> cases t <;>
        simp [compare?, place, compare_lt_iff_lt.mpr, compare_gt_iff_gt.mpr]
    | finite t n f =>
      cases s with
      | false => simp [compare?, place, compare_gt_iff_gt.mpr (ratPlace_lt_top _)]
      | true => simp [compare?, place, compare_lt_iff_lt.mpr (bot_lt_ratPlace _)]
  | finite s m e =>
    cases y with
    | nan => cases hy
    | infinite t =>
      cases t with
      | false => simp [compare?, place, compare_lt_iff_lt.mpr (ratPlace_lt_top _)]
      | true => simp [compare?, place, compare_gt_iff_gt.mpr (bot_lt_ratPlace _)]
    | finite t n f => rw [compare?, place, place, compareScaled_eq_compare, compare_ratPlace]

theorem lt_iff_place (hx : x.isNaN = false) (hy : y.isNaN = false) :
    x.lt y = true ↔ x.place < y.place := by
  rw [lt, compare?_eq_place hx hy, beq_iff_eq, Option.some.injEq, compare_lt_iff_lt]

theorem equal_iff_place (hx : x.isNaN = false) (hy : y.isNaN = false) :
    x.equal y = true ↔ x.place = y.place := by
  rw [equal, compare?_eq_place hx hy, beq_iff_eq, Option.some.injEq, compare_eq_iff_eq]

/-- An integer compares as the number with its digits, before any
rounding. -/
theorem compareInt?_eq_place (hx : x.isNaN = false) (n : Int) :
    x.compareInt? n = some (compare x.place (ratPlace n)) := by
  have hplace : (finite (decide (n < 0)) n.natAbs 0).place = ratPlace n := by
    rw [place, signed_natAbs, zpow_zero, mul_one]
  have hcompare : x.compareInt? n = x.compare? (finite (decide (n < 0)) n.natAbs 0) := by
    cases x with
    | nan => rfl
    | infinite s => rfl
    | finite s m e => rw [compareInt?, compare?, signed_natAbs]
  rw [hcompare, compare?_eq_place hx rfl, hplace]

theorem gtInt_iff_place (hx : x.isNaN = false) (n : Int) :
    x.gtInt n = true ↔ ratPlace n < x.place := by
  rw [gtInt, compareInt?_eq_place hx, beq_iff_eq, Option.some.injEq, compare_gt_iff_gt]

theorem leInt_iff_place (hx : x.isNaN = false) (n : Int) :
    x.leInt n = true ↔ x.place ≤ ratPlace n := by
  rw [leInt, compareInt?_eq_place hx, ← not_lt, ← compare_gt_iff_gt]
  cases compare x.place (ratPlace n) <;> simp

/-! ## Rounding -/

theorem roundQuotient_two_mul (num den : Nat) :
    roundQuotient (2 * num) (2 * den) = roundQuotient num den := by
  simp only [roundQuotient, Nat.mul_div_mul_left _ _ Nat.two_pos, Nat.mul_mod_mul_left,
    Nat.mul_lt_mul_left Nat.two_pos]

/-- A factor of two is shifted in, or the fraction is expanded by it. -/
theorem shiftRatio_two_mul (num : Nat) (shift : Int) :
    shiftRatio (2 * num) 1 shift = shiftRatio num 1 (shift + 1) ∨
      shiftRatio (2 * num) 1 shift =
        (2 * (shiftRatio num 1 (shift + 1)).1, 2 * (shiftRatio num 1 (shift + 1)).2) := by
  unfold shiftRatio
  by_cases hshift : 0 ≤ shift
  · left
    obtain ⟨places, rfl⟩ := Int.eq_ofNat_of_zero_le hshift
    have hsucc : ((places : Int) + 1).toNat = places + 1 := by omega
    rw [if_pos hshift, if_pos (by omega), hsucc, Int.toNat_natCast, Nat.pow_eq, Nat.pow_eq,
      Nat.pow_succ]
    ring_nf
  · right
    obtain ⟨places, hplaces⟩ : ∃ places : Nat, -shift = places + 1 :=
      ⟨(-shift - 1).toNat, by omega⟩
    have htoNat : (-shift).toNat = places + 1 := by omega
    rw [if_neg hshift, htoNat]
    by_cases hlast : 0 ≤ shift + 1
    · have hzero : (shift + 1).toNat = 0 ∧ places = 0 := by omega
      rw [if_pos hlast, hzero.1, hzero.2]
      simp
    · have hprevious : (-(shift + 1)).toNat = places := by omega
      rw [if_neg hlast, hprevious]
      simp only [Nat.pow_eq, Nat.pow_succ]
      ring_nf

theorem targetExponent_two_mul {num : Nat} (hnum : num ≠ 0) (e : Int) :
    targetExponent (2 * num) 1 e = targetExponent num 1 (e + 1) := by
  have hguess : e + ((2 * num).log2 : Int) - (Nat.log2 1 : Nat) - precision =
      e + 1 + (num.log2 : Int) - (Nat.log2 1 : Nat) - precision := by
    rw [Nat.log2_two_mul hnum]
    push_cast
    ring
  simp only [targetExponent, hguess]
  generalize max minExponent (e + 1 + num.log2 - (Nat.log2 1 : Nat) - precision) = guess
  have hshift : e + 1 - guess = e - guess + 1 := by ring
  rw [hshift]
  rcases shiftRatio_two_mul num (e - guess) with h | h
  · rw [h]
  · simp only [h, Nat.mul_div_mul_left _ _ Nat.two_pos]

/-- A factor of two belongs to the exponent. -/
theorem ofScaledRatio_two_mul (negative : Bool) (num : Nat) (e : Int) :
    ofScaledRatio negative (2 * num) 1 e = ofScaledRatio negative num 1 (e + 1) := by
  unfold ofScaledRatio
  by_cases hnum : num = 0
  · rw [if_pos hnum, if_pos (by omega)]
  · rw [if_neg hnum, if_neg (by omega), targetExponent_two_mul hnum]
    generalize targetExponent num 1 (e + 1) = target
    have hshift : e + 1 - target = e - target + 1 := by ring
    simp only [hshift]
    rcases shiftRatio_two_mul num (e - target) with h | h
    · rw [h]
    · simp only [h, roundQuotient_two_mul]

theorem ofScaledRatio_mul_two_pow (negative : Bool) (num places : Nat) (e : Int) :
    ofScaledRatio negative (num * 2 ^ places) 1 e =
      ofScaledRatio negative num 1 (e + places) := by
  induction places generalizing e with
  | zero => simp
  | succ places ih =>
    have hfactor : num * 2 ^ (places + 1) = 2 * (num * 2 ^ places) := by ring
    rw [hfactor, ofScaledRatio_two_mul, ih]
    congr 1
    push_cast
    ring

/-! ## Products -/

theorem isNaN_mul {n : Int} (hx : x.isNaN = false) (hz : z.Holds n) (hn : n ≠ 0) :
    (x * z).isNaN = false := by
  obtain ⟨t, k, g, rfl, hvalue⟩ := hz.exists_finite
  have hk : k ≠ 0 := by
    rintro rfl
    have hzero : (n : ℚ) = 0 := by
      rw [← hvalue]
      cases t <;> simp [signed]
    exact hn (by exact_mod_cast hzero)
  cases x with
  | nan => cases hx
  | infinite s =>
    show (Binary64.mul (infinite s) (finite t k g)).isNaN = false
    rw [Binary64.mul, if_neg hk]
    rfl
  | finite s m e => exact isNaN_ofScaledRatio _ _ _ _

/-- A finite product at a lower exponent of its first factor. -/
theorem finite_mul_eq (s t : Bool) (m k : Nat) {e low : Int} (g : Int) (hlow : low ≤ e) :
    finite s m e * finite t k g =
      ofScaledRatio (s != t) (m * 2 ^ (e - low).toNat * k) 1 (low + g) := by
  have hfactor : m * 2 ^ (e - low).toNat * k = m * k * 2 ^ (e - low).toNat := by ring
  have hexponent : low + g + ((e - low).toNat : Int) = e + g := by omega
  rw [hfactor, ofScaledRatio_mul_two_pow, hexponent]
  rfl

/-- Numbers with signs are equal when they are equal without, and have one
sign unless they are zero. -/
theorem signed_eq_signed {s t : Bool} {m n : Nat} (h : signed s m = signed t n) :
    m = n ∧ (s = t ∨ m = 0) := by
  cases s <;> cases t <;> simp [signed] at h ⊢ <;> omega

theorem place_zero (negative : Bool) : (zero negative).place = ratPlace 0 := by
  cases negative <;> simp [zero, place, signed]

/-- **Products**: equal numbers have equal products. -/
theorem place_mul_eq (hx : x.isNaN = false) (hy : y.isNaN = false) (hz : z.isFinite = true)
    (h : x.place = y.place) : (x * z).place = (y * z).place := by
  cases z with
  | nan => cases hz
  | infinite u => cases hz
  | finite u k g =>
  cases x with
  | nan => cases hx
  | infinite s =>
    cases y with
    | nan => cases hy
    | infinite t =>
      cases s <;> cases t <;> simp [place] at h ⊢
    | finite t n f =>
      cases s <;> simp [place, (bot_lt_ratPlace _).ne, (ratPlace_lt_top _).ne'] at h
  | finite s m e =>
    cases y with
    | nan => cases hy
    | infinite t =>
      cases t <;> simp [place, (bot_lt_ratPlace _).ne', (ratPlace_lt_top _).ne] at h
    | finite t n f =>
      -- both first factors at the smaller of their exponents
      have hvalue : (signed s m : ℚ) * 2 ^ e = signed t n * 2 ^ f := ratPlace_inj.mp h
      rw [← scale_to _ (min_le_left e f), ← scale_to _ (min_le_right e f), ← signed_shift,
        ← signed_shift] at hvalue
      have hpow : (2 : ℚ) ^ min e f ≠ 0 := zpow_ne_zero _ (by norm_num)
      obtain ⟨hfactor, hsign⟩ := signed_eq_signed (by exact_mod_cast mul_right_cancel₀ hpow hvalue)
      simp only [Nat.pow_eq] at hfactor hsign
      rw [finite_mul_eq s u m k g (min_le_left e f), finite_mul_eq t u n k g (min_le_right e f),
        ← hfactor]
      rcases hsign with rfl | hzero
      · rfl
      · rw [hzero, Nat.zero_mul, ofScaledRatio, if_pos rfl, ofScaledRatio, if_pos rfl, place_zero,
          place_zero]

end Binary64

end AlertConformance
