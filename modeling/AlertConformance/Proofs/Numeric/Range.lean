/-
AlertConformance.Proofs.Numeric.Range — which integers are in range.

An integer has a double as long as it does not round to something above
the largest finite number, and that is a matter of its length in bits. So
what is half as long, as a hold of half an interval is, is in range when
the whole is.

* `Binary64.targetExponent_natural` — the exponent of an integer.
* `Binary64.log2_lt_of_ofInt?`, `Binary64.exists_ofInt?` — integers in
  range are short, and short integers are in range.
* `Binary64.isWritable_of_ofInt?` — integers in range have a text.
* `exists_inSeconds_half` — half of a time that can be told in seconds.
-/
import AlertConformance.Duration
import AlertConformance.Proofs.Numeric.Decimal
import Mathlib.Algebra.Order.Ring.Int
import Mathlib.Tactic.Ring

namespace AlertConformance

namespace Binary64

/-- An integer is rounded to 53 bits, of which the first one is set. -/
theorem targetExponent_natural {n : Nat} (hn : n ≠ 0) : targetExponent n 1 0 = n.log2 - 52 := by
  have hlog : Nat.log2 1 = 0 := by decide
  have hlow : 2 ^ n.log2 ≤ n := Nat.log2_self_le hn
  have hguess : max minExponent (0 + (n.log2 : Int) - (Nat.log2 1 : Nat) - precision) =
      n.log2 - 53 := by
    unfold minExponent precision
    rw [hlog]
    omega
  simp only [targetExponent, hguess]
  have hbig : ¬ (shiftRatio n 1 (0 - ((n.log2 : Int) - 53))).1 /
      (shiftRatio n 1 (0 - ((n.log2 : Int) - 53))).2 < Nat.pow 2 precision := by
    rw [Nat.not_lt]
    unfold shiftRatio precision
    by_cases hshift : 0 ≤ 0 - ((n.log2 : Int) - 53)
    · rw [if_pos hshift]
      obtain ⟨places, hplaces⟩ := Int.eq_ofNat_of_zero_le hshift
      rw [hplaces, Int.toNat_natCast, Nat.div_one]
      have hsum : 53 = n.log2 + places := by omega
      calc Nat.pow 2 53 = 2 ^ n.log2 * 2 ^ places := by rw [← Nat.pow_add, ← hsum, Nat.pow_eq]
        _ ≤ n * Nat.pow 2 places := Nat.mul_le_mul_right _ hlow
    · rw [if_neg hshift]
      obtain ⟨places, hplaces⟩ : ∃ places : Nat, -(0 - ((n.log2 : Int) - 53)) = places :=
        Int.eq_ofNat_of_zero_le (by omega)
      rw [hplaces, Int.toNat_natCast, Nat.one_mul]
      have hsum : n.log2 = 53 + places := by omega
      refine (Nat.le_div_iff_mul_le (Nat.pow_pos (by decide) : 0 < 2 ^ places)).mpr ?_
      calc Nat.pow 2 53 * Nat.pow 2 places = 2 ^ n.log2 := by rw [hsum, Nat.pow_add]; rfl
        _ ≤ n := hlow
  rw [if_neg hbig]
  ring

/-- A packed number is finite when its exponent is below the largest
one, … -/
theorem exists_pack_eq_finite (negative : Bool) (m : Nat) {e : Int} (he : e < maxExponent) :
    ∃ m' e', pack negative m e = finite negative m' e' := by
  unfold pack
  by_cases hm : m = Nat.pow 2 precision
  · simp only [if_pos hm]
    exact ⟨_, _, if_neg (by omega)⟩
  · simp only [if_neg hm]
    exact ⟨_, _, if_neg (by omega)⟩

/-- … and only when it is no larger. -/
theorem le_of_pack_eq_finite {negative s : Bool} {m m' : Nat} {e e' : Int}
    (h : pack negative m e = finite s m' e') : e ≤ maxExponent := by
  unfold pack at h
  by_cases hm : m = Nat.pow 2 precision
  · simp only [if_pos hm] at h
    by_cases he : maxExponent < e + 1
    · rw [if_pos he] at h
      simp at h
    · omega
  · simp only [if_neg hm] at h
    by_cases he : maxExponent < e
    · rw [if_pos he] at h
      simp at h
    · omega

/-- An integer in range has no more than 1024 bits, … -/
theorem log2_lt_of_ofInt? {n : Int} {x : Binary64} (h : ofInt? n = some x) :
    n.natAbs.log2 < 1024 := by
  by_cases hn : n.natAbs = 0
  · rw [hn]
    decide
  unfold ofInt? at h
  split at h
  · rename_i heq
    rw [ofInt, ofScaledRatio, if_neg hn] at heq
    have hle := le_of_pack_eq_finite heq
    rw [targetExponent_natural hn] at hle
    unfold maxExponent at hle
    omega
  · simp at h

/-- … and one with less is in range. -/
theorem exists_ofInt? {n : Int} (h : n.natAbs.log2 < 1023) : ∃ x, ofInt? n = some x := by
  have hfinite : ∃ s m e, ofInt n = finite s m e := by
    rw [ofInt, ofScaledRatio]
    by_cases hn : n.natAbs = 0
    · rw [if_pos hn]
      exact ⟨_, _, _, rfl⟩
    · rw [if_neg hn]
      refine ⟨_, exists_pack_eq_finite _ _ ?_⟩
      rw [targetExponent_natural hn]
      unfold maxExponent
      omega
  obtain ⟨s, m, e, heq⟩ := hfinite
  exact ⟨_, by rw [ofInt?, heq]⟩

/-- An integer in range can be written: a bit takes no more than a digit. -/
theorem isWritable_of_ofInt? {n : Int} {x : Binary64} (h : ofInt? n = some x) :
    isWritable n = true := by
  have hbits : ∀ bits : Nat, 0 < bits → n.natAbs.log2 < bits →
      (Nat.toDigits 10 n.natAbs).length ≤ bits := by
    intro bits hpos hlog
    rw [Nat.length_toDigits_le_iff (by decide) hpos]
    calc n.natAbs < 2 ^ (n.natAbs.log2 + 1) := Nat.lt_log2_self
      _ ≤ 2 ^ bits := Nat.pow_le_pow_right (by decide) hlog
      _ ≤ 10 ^ bits := Nat.pow_le_pow_left (by decide) bits
  rw [isWritable_iff]
  exact (hbits 1024 (by decide) (log2_lt_of_ofInt? h)).trans (by decide)

end Binary64

theorem log2_half_lt {n bits : Nat} (hbits : 0 < bits) (h : n.log2 < bits + 1) :
    (n / 2).log2 < bits := by
  by_cases hzero : n / 2 = 0
  · rw [hzero]
    exact hbits
  · rw [Nat.log2_lt hzero]
    rw [Nat.log2_lt (by omega), Nat.pow_succ] at h
    omega

/-- Half of a time that can be told in seconds can be told too. -/
theorem exists_inSeconds_half {duration : Int} {x : Binary64} (hpos : 0 < duration)
    (h : inSeconds duration = .ok x) : ∃ y, inSeconds (duration / 2) = .ok y := by
  have hbits : duration.natAbs.log2 < 1024 := by
    unfold inSeconds at h
    split at h
    · rename_i hnumber
      exact Binary64.log2_lt_of_ofInt? hnumber
    · simp at h
  have hhalf : (duration / 2).natAbs.log2 < 1023 := by
    rw [show (duration / 2).natAbs = duration.natAbs / 2 by omega]
    exact log2_half_lt (by decide) hbits
  obtain ⟨number, hnumber⟩ := Binary64.exists_ofInt? hhalf
  exact ⟨number / 1000, by rw [inSeconds, hnumber]⟩

end AlertConformance
