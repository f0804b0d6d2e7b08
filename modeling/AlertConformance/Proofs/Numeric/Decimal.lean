/-
AlertConformance.Proofs.Numeric.Decimal — integers in plain decimal.

A text of nothing but ASCII digits is a numeral as it stands: there is no
blank to trim, no underscore to drop and no sign. It is read as the number
that its digits write, unless there are more of them than the library
reads.

* `numeralChars_of_digits`, `ungroup_of_digits` — digits are kept.
* `readInt?_of_digits` — what a text of digits is read as.
* `digitsValue_toDigits` — the digits of a number write it.
* `isWritable_of_intOfChars?`, `readInt?_toString` — the limit on digits is
  the same for reading and for writing.
-/
import AlertConformance.Numeric.Numeral

namespace AlertConformance

variable {c : Char} {cs : List Char} {text : String}

/-! ## Digits -/

theorem toNat_of_isDigit (h : c.isDigit = true) : 48 ≤ c.toNat ∧ c.toNat ≤ 57 := by
  simpa [Char.isDigit, UInt32.le_iff_toNat_le] using h

theorem ne_of_isDigit {other : Char} (h : c.isDigit = true) (hother : other.isDigit = false) :
    c ≠ other := by
  rintro rfl
  simp [h] at hother

theorem isNumeralBlank_of_isDigit (h : c.isDigit = true) : isNumeralBlank c = false := by
  have hspace : c ≠ ' ' := ne_of_isDigit h rfl
  have hlarge : ¬ c.toNat ≤ 0xd := by
    have hrange := toNat_of_isDigit h
    omega
  simp [isNumeralBlank, hspace, hlarge]

theorem asciiNumeralChar_of_isDigit (h : c.isDigit = true) : asciiNumeralChar c = c := by
  have hascii : c.toNat < 0x7f := Nat.lt_of_le_of_lt (toNat_of_isDigit h).2 (by decide)
  rw [asciiNumeralChar, if_pos hascii]

/-- What surrounds the elements that stay is trimmed. -/
theorem trimBy_append {α : Type} {drop : α → Bool} {before elements after : List α}
    (hbefore : ∀ element ∈ before, drop element = true)
    (h : ∀ element ∈ elements, drop element = false)
    (hafter : ∀ element ∈ after, drop element = true) :
    trimBy drop (before ++ elements ++ after) = elements := by
  have hkeep : ∀ list : List α, (∀ element ∈ list, drop element = false) →
      list.dropWhile drop = list := by
    intro list hlist
    cases list with
    | nil => rfl
    | cons first rest => exact List.dropWhile_cons_of_neg (by simp [hlist])
  rw [trimBy, List.append_assoc, List.dropWhile_append_of_pos hbefore]
  cases elements with
  | nil =>
    rw [List.nil_append, ← List.append_nil after, List.dropWhile_append_of_pos hafter]
    rfl
  | cons first rest =>
    have hfirst : ¬ drop first = true := by simp [h]
    have hreverse : ∀ element ∈ (first :: rest).reverse, drop element = false :=
      fun element hmem => h element (List.mem_reverse.mp hmem)
    rw [List.cons_append, List.dropWhile_cons_of_neg hfirst, ← List.cons_append,
      List.reverse_append, List.dropWhile_append_of_pos (by simpa using hafter), hkeep _ hreverse,
      List.reverse_reverse]

/-- Nothing is trimmed from elements that stay. -/
theorem trimBy_eq_self {α : Type} {drop : α → Bool} {elements : List α}
    (h : ∀ element ∈ elements, drop element = false) : trimBy drop elements = elements := by
  simpa using trimBy_append (List.forall_mem_nil _) h (List.forall_mem_nil _)

theorem numeralChars_of_digits (h : ∀ c ∈ text.toList, c.isDigit = true) :
    numeralChars text = text.toList := by
  have hmap : text.toList.map asciiNumeralChar = text.toList :=
    (List.map_congr_left fun c hc => asciiNumeralChar_of_isDigit (h c hc)).trans (List.map_id _)
  rw [numeralChars, hmap]
  exact trimBy_eq_self fun c hc => isNumeralBlank_of_isDigit (h c hc)

theorem ungroup_of_digits (h : ∀ c ∈ cs, c.isDigit = true) (afterDigit : Bool) :
    ungroup afterDigit cs = some cs := by
  induction cs generalizing afterDigit with
  | nil => rfl
  | cons c rest ih =>
    obtain ⟨hdigit, hrest⟩ := List.forall_mem_cons.mp h
    have hne : c ≠ '_' := ne_of_isDigit hdigit rfl
    rw [ungroup, ih hrest, Option.map_some]
    exact hne

theorem splitSign_of_digits (h : ∀ c ∈ cs, c.isDigit = true) : splitSign cs = (false, cs) := by
  cases cs with
  | nil => rfl
  | cons c rest =>
    obtain ⟨hdigit, -⟩ := List.forall_mem_cons.mp h
    have hminus : c ≠ '-' := ne_of_isDigit hdigit rfl
    have hplus : c ≠ '+' := ne_of_isDigit hdigit rfl
    simp [splitSign, hminus, hplus]

/-! ## Texts -/

/-- **A text of digits** is read as the number that they write. -/
theorem readInt?_of_digits (hne : text.toList ≠ []) (h : ∀ c ∈ text.toList, c.isDigit = true) :
    readInt? text =
      if text.toList.length ≤ maxIntegerDigits then some (digitsValue text.toList : Int)
      else none := by
  have hall : text.toList.all Char.isDigit = true := List.all_eq_true.mpr h
  rw [readInt?, numeralChars_of_digits h, ungroup_of_digits h, Option.bind_some, intOfChars?,
    splitSign_of_digits h]
  by_cases hshort : text.toList.length ≤ maxIntegerDigits
  · have hlong : ¬ maxIntegerDigits < text.toList.length := Nat.not_lt.mpr hshort
    simp only [if_pos hshort, hall, hlong, List.isEmpty_eq_false_iff.mpr hne, Bool.not_true,
      Bool.or_false, decide_false, Bool.false_eq_true, if_false]
  · have hlong : maxIntegerDigits < text.toList.length := Nat.not_le.mp hshort
    simp only [if_neg hshort, hlong, decide_true, Bool.or_true, if_true]

/-- The digits of a number write it. -/
theorem digitsValue_toDigits (n : Nat) : digitsValue (Nat.toDigits 10 n) = n := by
  rw [digitsValue, ← Nat.ofDigitChars_eq_foldl]
  exact Nat.ofDigitChars_toDigits (by decide) (by decide)

/-! ## The limit on digits -/

/-- A run of digits writes less than the power of ten of its length. -/
theorem digitsValue_lt (h : ∀ c ∈ cs, c.isDigit = true) :
    digitsValue cs < Nat.pow 10 cs.length := by
  have hfold : ∀ (cs : List Char) (value : Nat), (∀ c ∈ cs, c.isDigit = true) →
      cs.foldl (fun value c => 10 * value + (c.toNat - '0'.toNat)) value <
        (value + 1) * Nat.pow 10 cs.length := by
    intro cs
    induction cs with
    | nil => intro value _; simp
    | cons c rest ih =>
      intro value h
      obtain ⟨hdigit, hrest⟩ := List.forall_mem_cons.mp h
      have hrange := toNat_of_isDigit hdigit
      have hstep : 10 * value + (c.toNat - '0'.toNat) + 1 ≤ (value + 1) * 10 := by
        rw [show '0'.toNat = 48 from rfl]
        omega
      refine Nat.lt_of_lt_of_le (ih _ hrest) ?_
      rw [List.length_cons, Nat.pow_eq, Nat.pow_eq, Nat.pow_succ', ← Nat.mul_assoc]
      exact Nat.mul_le_mul_right _ hstep
  simpa [digitsValue] using hfold cs 0 h

/-- A number can be written when it has no more digits than are read. -/
theorem isWritable_iff (n : Int) :
    isWritable n = true ↔ (Nat.toDigits 10 n.natAbs).length ≤ maxIntegerDigits := by
  rw [isWritable, decide_eq_true_eq, Nat.pow_eq,
    Nat.length_toDigits_le_iff (by decide) (by decide)]

/-- What is no larger than a number that can be written can be written. -/
theorem isWritable_of_le {m n : Nat} (hle : m ≤ n) (h : isWritable n = true) :
    isWritable m = true := by
  simp only [isWritable, Int.natAbs_natCast, decide_eq_true_eq] at h ⊢
  exact Nat.lt_of_le_of_lt hle h

@[simp] theorem isWritable_neg (n : Int) : isWritable (-n) = isWritable n := by
  rw [isWritable, isWritable, Int.natAbs_neg]

/-- What is read can be written. -/
theorem isWritable_of_intOfChars? {n : Int} (h : intOfChars? cs = some n) :
    isWritable n = true := by
  rcases hsplit : splitSign cs with ⟨negative, digits⟩
  simp only [intOfChars?, hsplit] at h
  split at h
  case isTrue => cases h
  rename_i hdigits
  simp only [Bool.or_eq_true, Bool.not_eq_true', decide_eq_true_eq, not_or, Bool.not_eq_false,
    Nat.not_lt, List.all_eq_true] at hdigits
  have hvalue : isWritable (digitsValue digits : Int) = true := by
    have hpos : 0 < digits.length := by
      rw [List.length_pos_iff, ne_eq, ← List.isEmpty_iff]
      exact hdigits.1.1
    rw [isWritable_iff, Int.natAbs_natCast]
    exact Nat.le_trans ((Nat.length_toDigits_le_iff (by decide) hpos).mpr
      (digitsValue_lt hdigits.1.2)) hdigits.2
  obtain rfl := Option.some.inj h
  cases negative with
  | true => simpa using hvalue
  | false => exact hvalue

/-- **The decimal text** of a number that can be written is read as the
number, and what text any other one would have is not read. -/
theorem readInt?_toString (n : Nat) :
    readInt? (toString n) = if isWritable n then some (n : Int) else none := by
  have htext : (toString n).toList = Nat.toDigits 10 n := Nat.toList_repr
  have hdigits : ∀ c ∈ (toString n).toList, c.isDigit = true := by
    intro c hc
    rw [htext] at hc
    exact Nat.isDigit_of_mem_toDigits (by decide) (by decide) hc
  have hne : (toString n).toList ≠ [] := by
    rw [htext]
    exact Nat.toDigits_ne_nil
  rw [readInt?_of_digits hne hdigits, htext, digitsValue_toDigits]
  simp only [isWritable_iff, Int.natAbs_natCast]

end AlertConformance
