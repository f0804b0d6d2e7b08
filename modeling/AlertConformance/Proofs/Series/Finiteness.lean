/-
AlertConformance.Proofs.Series.Finiteness — when a written series stays
finite.

Every number in a token is finite, and so is every value that stands alone.
A repetition adds its number over and over, and such a sum may leave the
range of the finite numbers: nothing looks at it again. It never becomes
something that is no number at all, because one of its terms is finite, and
once it is infinite it stays so until the next value that stands alone.

* `SumOverflows`, `StepsOverflow`, `TokensOverflow` — a sum that is rounded
  to an infinity, one in a repetition, and one in a list of tokens.
* `readSampleToken_cases`, `expandValues_cases` — what is read, or refused
  as a definition.
* `stepsFrom_finite_iff` — one repetition.
* `expandValues_finite_iff` — all tokens.
-/
import AlertConformance.Proofs.Numeric.Order
import AlertConformance.Proofs.Numeric.Overflow
import AlertConformance.Proofs.Series.Expansion

namespace AlertConformance

variable {values next : List Binary64} {token : String} {tokens : List String}
  {x last delta : Binary64} {count : Nat}

/-! ## Sums -/

namespace Binary64

theorem isFinite_iff_exists_toRat? : x.isFinite = true ↔ ∃ p, x.toRat? = some p := by
  cases x <;> simp [isFinite, toRat?]

theorem isNaN_of_isFinite (h : x.isFinite = true) : x.isNaN = false := by
  cases x <;> simp [isFinite, isNaN] at h ⊢

/-- The exact sum of two finite numbers is out of range. -/
def SumOverflows (x y : Binary64) : Prop :=
  ∃ p q, x.toRat? = some p ∧ y.toRat? = some q ∧ overflowBound ≤ |p + q|

theorem isFinite_add_iff_not_sumOverflows (hx : x.isFinite = true) (hdelta : delta.isFinite = true) :
    (x + delta).isFinite = true ↔ ¬ x.SumOverflows delta := by
  obtain ⟨p, hp⟩ := isFinite_iff_exists_toRat?.mp hx
  obtain ⟨q, hq⟩ := isFinite_iff_exists_toRat?.mp hdelta
  rw [isFinite_add_iff hp hq, ← not_le]
  apply not_congr
  constructor
  · intro hbound
    exact ⟨p, q, hp, hq, hbound⟩
  · rintro ⟨p', q', hp', hq', hbound⟩
    rw [hp, Option.some.injEq] at hp'
    rw [hq, Option.some.injEq] at hq'
    rwa [hp', hq']

/-- Adding a finite number gives a number. -/
theorem isNaN_add (hx : x.isNaN = false) (hdelta : delta.isFinite = true) :
    (x + delta).isNaN = false := by
  cases delta with
  | nan => cases hdelta
  | infinite t => cases hdelta
  | finite t n f =>
    cases x with
    | nan => cases hx
    | infinite s => rfl
    | finite s m e =>
      show (Binary64.add (finite s m e) (finite t n f)).isNaN = false
      simp only [Binary64.add]
      split
      · rfl
      · exact isNaN_ofScaledRatio _ _ _ _

end Binary64

/-! ## Repetitions -/

/-- One of the steps of a repetition overflows, counted from the value before
it. -/
def StepsOverflow (last delta : Binary64) (count : Nat) : Prop :=
  ∃ value ∈ (last :: stepsFrom last delta count).dropLast, value.SumOverflows delta

theorem stepsOverflow_succ_iff :
    StepsOverflow last delta (count + 1) ↔
      last.SumOverflows delta ∨ StepsOverflow (last + delta) delta count := by
  simp [StepsOverflow, stepsFrom]

/-- **One repetition** is finite unless one of its steps overflows. -/
theorem stepsFrom_finite_iff (hlast : last.isFinite = true) (hdelta : delta.isFinite = true) :
    (∀ value ∈ stepsFrom last delta count, value.isFinite = true) ↔
      ¬ StepsOverflow last delta count := by
  induction count generalizing last with
  | zero => simp [stepsFrom, StepsOverflow]
  | succ count ih =>
    rw [stepsOverflow_succ_iff, not_or, stepsFrom, List.forall_mem_cons,
      Binary64.isFinite_add_iff_not_sumOverflows hlast hdelta]
    refine and_congr_right fun hstep => ih ?_
    exact (Binary64.isFinite_add_iff_not_sumOverflows hlast hdelta).mpr hstep

theorem isNaN_of_mem_stepsFrom (hlast : last.isNaN = false) (hdelta : delta.isFinite = true) :
    ∀ value ∈ stepsFrom last delta count, value.isNaN = false := by
  induction count generalizing last with
  | zero => simp [stepsFrom]
  | succ count ih =>
    have hstep := Binary64.isNaN_add hlast hdelta
    rw [stepsFrom, List.forall_mem_cons]
    exact ⟨hstep, ih hstep⟩

/-! ## Tokens -/

theorem readSampleNumber_cases (token part : String) :
    (∃ number, readSampleNumber token part = .ok number ∧ number.isFinite = true) ∨
      ∃ fault, readSampleNumber token part = .error (.definition fault) := by
  unfold readSampleNumber
  cases Binary64.ofText? part with
  | none => exact .inr ⟨_, rfl⟩
  | some number =>
    by_cases hfinite : number.isFinite = true
    · exact .inl ⟨number, if_pos hfinite, hfinite⟩
    · exact .inr ⟨_, if_neg hfinite⟩

theorem readRepeatCount_cases (token part : String) :
    (∃ count, readRepeatCount token part = .ok count) ∨
      ∃ fault, readRepeatCount token part = .error (.definition fault) := by
  unfold readRepeatCount
  cases readInt? part with
  | none => exact .inr ⟨_, rfl⟩
  | some count =>
    by_cases hpos : 0 < count
    · exact .inl ⟨_, if_pos hpos⟩
    · exact .inr ⟨_, if_neg hpos⟩

/-- The number of a token. -/
def SampleToken.number : SampleToken → Binary64
  | .value number => number
  | .steps delta _ => delta

/-- **One token** holds a finite number, or is refused. -/
theorem readSampleToken_cases (token : String) :
    (∃ read, readSampleToken token = .ok read ∧ read.number.isFinite = true) ∨
      ∃ fault, readSampleToken token = .error (.definition fault) := by
  simp only [readSampleToken]
  split
  · rcases readSampleNumber_cases token _ with ⟨delta, hdelta, hfinite⟩ | ⟨fault, hfault⟩
    · rcases readRepeatCount_cases token _ with ⟨count, hcount⟩ | ⟨fault, hfault⟩
      · exact .inl ⟨.steps delta count, by rw [hdelta, hcount]; rfl, hfinite⟩
      · exact .inr ⟨fault, by rw [hdelta, hfault]; rfl⟩
    · exact .inr ⟨fault, by rw [hfault]; rfl⟩
  · rcases readSampleNumber_cases token _ with ⟨value, hvalue, hfinite⟩ | ⟨fault, hfault⟩
    · exact .inl ⟨.value value, by rw [hvalue]; rfl, hfinite⟩
    · exact .inr ⟨fault, by rw [hfault]; rfl⟩

theorem isFinite_number {read : SampleToken} (h : readSampleToken token = .ok read) :
    read.number.isFinite = true := by
  rcases readSampleToken_cases token with ⟨found, hfound, hfinite⟩ | ⟨fault, hfault⟩
  · rw [h] at hfound
    cases hfound
    exact hfinite
  · rw [h] at hfault
    cases hfault

/-- More values, or a refusal. -/
theorem extendValues_cases_error (values : List Binary64) (token : String) :
    (∃ next, extendValues values token = .ok next) ∨
      ∃ fault, extendValues values token = .error (.definition fault) := by
  simp only [extendValues]
  rcases readSampleToken_cases token with ⟨read, h, -⟩ | ⟨fault, h⟩
  · cases read with
    | value value => exact .inl ⟨_, by rw [h]; rfl⟩
    | steps delta count =>
      cases hlast : values.getLast? with
      | none => exact .inr ⟨_, by rw [h]; rfl⟩
      | some last => exact .inl ⟨_, by rw [h]; rfl⟩
  · exact .inr ⟨fault, by rw [h]; rfl⟩

/-! ## Lists of tokens -/

/-- A step of some repetition overflows, after the tokens before it. -/
def TokensOverflow (tokens : List String) : Prop :=
  ∃ before token after values last delta count, tokens = before ++ token :: after ∧
    expandValues before = .ok values ∧ values.getLast? = some last ∧
    readSampleToken token = .ok (.steps delta count) ∧ StepsOverflow last delta count

theorem expandValues_concat (tokens : List String) (token : String) :
    expandValues (tokens ++ [token]) =
      expandValues tokens >>= fun values => extendValues values token := by
  rw [expandValues, List.foldlM_append]
  refine bind_congr fun values => ?_
  simp

theorem expandValues_cases (tokens : List String) :
    (∃ values, expandValues tokens = .ok values) ∨
      ∃ fault, expandValues tokens = .error (.definition fault) := by
  induction tokens using List.reverseRecOn with
  | nil => exact .inl ⟨[], rfl⟩
  | append_singleton tokens token ih =>
    rw [expandValues_concat]
    rcases ih with ⟨values, h⟩ | ⟨fault, h⟩
    · rw [h]
      exact extendValues_cases_error values token
    · exact .inr ⟨fault, by rw [h]; rfl⟩

/-- A list of tokens overflows before its last token, or at it. -/
theorem tokensOverflow_concat_iff (h : expandValues tokens = .ok values) :
    TokensOverflow (tokens ++ [token]) ↔ TokensOverflow tokens ∨
      ∃ last delta count, values.getLast? = some last ∧
        readSampleToken token = .ok (.steps delta count) ∧ StepsOverflow last delta count := by
  constructor
  · rintro ⟨before, found, after, early, last, delta, count, heq, hearly, hlast, hread, hover⟩
    cases after using List.reverseRecOn with
    | nil =>
      obtain ⟨rfl, hfound⟩ := List.append_inj' heq rfl
      cases hfound
      rw [hearly] at h
      cases h
      exact .inr ⟨last, delta, count, hlast, hread, hover⟩
    | append_singleton after final =>
      rw [← List.cons_append, ← List.append_assoc] at heq
      obtain ⟨rfl, -⟩ := List.append_inj' heq rfl
      exact .inl ⟨before, found, after, early, last, delta, count, rfl, hearly, hlast, hread, hover⟩
  · rintro (⟨before, found, after, early, last, delta, count, rfl, hearly, hrest⟩ |
      ⟨last, delta, count, hlast, hread, hover⟩)
    · exact ⟨before, found, after ++ [token], early, last, delta, count, by simp, hearly, hrest⟩
    · exact ⟨tokens, token, [], values, last, delta, count, rfl, h, hlast, hread, hover⟩

/-- No value is anything but a number. -/
theorem isNaN_of_mem_expandValues (h : expandValues tokens = .ok values) :
    ∀ value ∈ values, value.isNaN = false := by
  induction tokens using List.reverseRecOn generalizing values with
  | nil =>
    cases h
    simp
  | append_singleton tokens token ih =>
    rw [expandValues_concat] at h
    obtain ⟨early, hearly, h⟩ := bind_eq_ok_iff.mp h
    have hbefore := ih hearly
    rcases extendValues_cases h with ⟨value, hread, rfl⟩ | ⟨delta, count, last, hread, hlast, rfl⟩
    · rw [List.forall_mem_append, List.forall_mem_singleton]
      exact ⟨hbefore, Binary64.isNaN_of_isFinite (isFinite_number hread)⟩
    · rw [List.forall_mem_append]
      have hstart := hbefore last (List.mem_of_getLast? hlast)
      exact ⟨hbefore, isNaN_of_mem_stepsFrom hstart (isFinite_number hread)⟩

/-- Values are finite as long as no step overflows. -/
theorem isFinite_iff_of_expandValues (h : expandValues tokens = .ok values) :
    (∀ value ∈ values, value.isFinite = true) ↔ ¬ TokensOverflow tokens := by
  induction tokens using List.reverseRecOn generalizing values with
  | nil =>
    cases h
    simp [TokensOverflow]
  | append_singleton tokens token ih =>
    rw [expandValues_concat] at h
    obtain ⟨early, hearly, h⟩ := bind_eq_ok_iff.mp h
    rw [tokensOverflow_concat_iff hearly, not_or, ← ih hearly]
    rcases extendValues_cases h with ⟨value, hread, rfl⟩ | ⟨delta, count, last, hread, hlast, rfl⟩
    · rw [List.forall_mem_append, List.forall_mem_singleton]
      refine and_congr_right fun _ => iff_of_true (isFinite_number hread) ?_
      rintro ⟨_, _, _, -, hsteps, -⟩
      rw [hread] at hsteps
      cases hsteps
    · rw [List.forall_mem_append]
      refine and_congr_right fun hbefore => ?_
      have hstart := hbefore last (List.mem_of_getLast? hlast)
      have hdelta : delta.isFinite = true := isFinite_number hread
      rw [stepsFrom_finite_iff hstart hdelta]
      apply not_congr
      constructor
      · intro hover
        exact ⟨last, delta, count, hlast, hread, hover⟩
      · rintro ⟨last', delta', count', hlast', hread', hover⟩
        rw [hlast, Option.some.injEq] at hlast'
        rw [hread] at hread'
        cases hread'
        rwa [hlast']

/-- **Finiteness**: tokens are refused as a definition, or they stand for
values each of which is a finite number or an infinity. All of them are
finite exactly when no step of a repetition has an exact sum that is rounded
to an infinity. -/
theorem expandValues_finite_iff (tokens : List String) :
    (∃ fault, expandValues tokens = .error (.definition fault)) ∨
    ∃ values, expandValues tokens = .ok values ∧ (∀ value ∈ values, value.isNaN = false) ∧
      ((∀ value ∈ values, value.isFinite = true) ↔ ¬ TokensOverflow tokens) := by
  rcases expandValues_cases tokens with ⟨values, h⟩ | hfault
  · exact .inr ⟨values, h, isNaN_of_mem_expandValues h, isFinite_iff_of_expandValues h⟩
  · exact .inl hfault

/-- Two finite numbers whose sum is out of range. -/
theorem expandValues_infinite :
    ∃ first, first.isFinite = true ∧
      expandValues ["1e308", "1e308x1"] = .ok [first, .infinite false] := by
  refine ⟨.ofDecimal false 1 308, by decide +kernel, ?_⟩
  exact eq_ok_of_toOption (by decide +kernel)

end AlertConformance
