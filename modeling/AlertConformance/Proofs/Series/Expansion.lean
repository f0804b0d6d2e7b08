/-
AlertConformance.Proofs.Series.Expansion — a written series is a step
function of time.

Each token adds samples at the end and leaves those before it alone: a
number adds one, a repetition as many as it says. The samples are stamped
one interval apart from the zero time on. A query sees the last sample that
is not after it, so it sees none before the zero time, and for ever the last
one when the samples are over.

* `extendValues_cases` — what one token adds.
* `of_foldlM_extendValues` — what a run of tokens adds.
* `latestAt_shifted_stamp` — what a query of a series sees that starts at
  some time.
* `series_steps` — all of it for a series that is written in tokens.
-/
import AlertConformance.Proofs.Series.Levels
import Mathlib.Data.List.Infix

namespace AlertConformance

variable {interval time : Int} {values next : List Binary64} {token : String}
  {tokens : List String}

/-! ## Tokens -/

namespace SampleToken

/-- Whether a token is a number alone. -/
def isLiteral : SampleToken → Bool
  | value _ => true
  | steps _ _ => false

/-- How often a token repeats the sample before it. -/
def repeats : SampleToken → Nat
  | value _ => 0
  | steps _ count => count

end SampleToken

theorem length_stepsFrom (last delta : Binary64) (count : Nat) :
    (stepsFrom last delta count).length = count := by
  induction count generalizing last with
  | zero => rfl
  | succ count ih => simp [stepsFrom, ih]

/-- **One token** adds its number, or steps up from the last value. -/
theorem extendValues_cases (h : extendValues values token = .ok next) :
    (∃ value, readSampleToken token = .ok (.value value) ∧ next = values ++ [value]) ∨
    ∃ delta count last, readSampleToken token = .ok (.steps delta count) ∧
      values.getLast? = some last ∧ next = values ++ stepsFrom last delta count := by
  obtain ⟨read, hread, h⟩ := bind_eq_ok_iff.mp h
  cases read with
  | value value =>
    cases h
    exact .inl ⟨value, hread, rfl⟩
  | steps delta count =>
    cases hlast : values.getLast? with
    | none =>
      simp only [hlast] at h
      cases h
    | some last =>
      simp only [hlast] at h
      cases h
      exact .inr ⟨delta, count, last, hread, rfl, rfl⟩

/-- **A run of tokens** adds a sample for each number and each repetition, and
keeps the values before it. -/
theorem of_foldlM_extendValues (h : tokens.foldlM extendValues values = .ok next) :
    values <+: next ∧ ∃ read, tokens.mapM readSampleToken = .ok read ∧
      next.length =
        values.length + (read.countP SampleToken.isLiteral + (read.map SampleToken.repeats).sum) := by
  induction tokens generalizing values with
  | nil =>
    cases h
    exact ⟨List.prefix_rfl, [], rfl, rfl⟩
  | cons token tokens ih =>
    rw [List.foldlM_cons] at h
    obtain ⟨extended, hextended, h⟩ := bind_eq_ok_iff.mp h
    obtain ⟨hkept, read, hread, hlength⟩ := ih h
    have hmapM {first : SampleToken} (hfirst : readSampleToken token = .ok first) :
        (token :: tokens).mapM readSampleToken = .ok (first :: read) :=
      mapM_eq_ok_iff.mpr (.cons hfirst (mapM_eq_ok_iff.mp hread))
    rcases extendValues_cases hextended with
      ⟨value, hvalue, rfl⟩ | ⟨delta, count, last, hsteps, -, rfl⟩
    · refine ⟨(List.prefix_append _ _).trans hkept, .value value :: read, hmapM hvalue, ?_⟩
      simp [SampleToken.isLiteral, SampleToken.repeats, List.countP_cons] at hlength ⊢
      omega
    · refine ⟨(List.prefix_append _ _).trans hkept, .steps delta count :: read, hmapM hsteps, ?_⟩
      simp [SampleToken.isLiteral, SampleToken.repeats, length_stepsFrom] at hlength ⊢
      omega

/-- More tokens leave the values of the tokens before them as they are. -/
theorem prefix_of_expandValues_append {further : List String} {all : List Binary64}
    (h : expandValues tokens = .ok values) (hall : expandValues (tokens ++ further) = .ok all) :
    values <+: all := by
  rw [expandValues, List.foldlM_append] at hall
  obtain ⟨early, hearly, hall⟩ := bind_eq_ok_iff.mp hall
  rw [expandValues, hearly] at h
  cases h
  exact (of_foldlM_extendValues hall).1

/-! ## Queries -/

/-- A series that starts later shows the same, that much later. -/
theorem latestAt_shifted (series : TimeSeries) (zeroTime time : Int) :
    (series.shifted zeroTime).latestAt time =
      (series.latestAt (time - zeroTime)).map fun sample =>
        { sample with timestamp := sample.timestamp + zeroTime } := by
  have hcompare : ∀ stamp : Int, (stamp + zeroTime ≤ time) = (stamp ≤ time - zeroTime) := by
    intro stamp
    apply propext
    omega
  simp only [TimeSeries.latestAt, TimeSeries.shifted, ← List.map_reverse, List.find?_map,
    Function.comp_def, hcompare]

/-- A query before the first sample sees none. -/
theorem latestAt_stamp_of_neg (labels : Labels) (values : List Binary64) (hinterval : 0 < interval)
    (htime : time < 0) : TimeSeries.latestAt ⟨labels, stamp interval values⟩ time = none := by
  rw [TimeSeries.latestAt, List.find?_eq_none]
  intro sample hsample
  simp only [stamp, List.mem_reverse, List.mem_mapIdx] at hsample
  obtain ⟨index, -, rfl⟩ := hsample
  have hstamp : 0 ≤ (index : Int) * interval :=
    Int.mul_nonneg (Int.natCast_nonneg _) (Int.le_of_lt hinterval)
  simp only [decide_eq_true_eq]
  omega

theorem sampleSlice_eq_ok (hinterval : 0 < interval) (h : expandValues tokens = .ok values) :
    sampleSlice interval tokens = .ok (stamp interval values) := by
  rw [sampleSlice, if_neg (Int.not_le.mpr hinterval), h]
  rfl

theorem latestAt_shifted_stamp_eq_none (labels : Labels) {zeroTime : Int} (hinterval : 0 < interval)
    (h : values = [] ∨ time < zeroTime) :
    (TimeSeries.shifted ⟨labels, stamp interval values⟩ zeroTime).latestAt time = none := by
  rw [latestAt_shifted, Option.map_eq_none_iff]
  rcases h with rfl | htime
  · rfl
  · exact latestAt_stamp_of_neg labels values hinterval (by omega)

theorem latestAt_shifted_stamp (labels : Labels) {zeroTime : Int} (hinterval : 0 < interval)
    (hne : values ≠ []) (htime : zeroTime ≤ time) :
    let k := min ((time - zeroTime) / interval) ((values.length : Int) - 1)
    ∃ value, 0 ≤ k ∧ values[k.toNat]? = some value ∧
      (TimeSeries.shifted ⟨labels, stamp interval values⟩ zeroTime).latestAt time =
        some ⟨zeroTime + k * interval, value⟩ := by
  have hlength := List.length_pos_iff.mpr hne
  have hnonneg : 0 ≤ (time - zeroTime) / interval :=
    Int.ediv_nonneg (by omega) (Int.le_of_lt hinterval)
  obtain ⟨index, hindex⟩ := Int.eq_ofNat_of_zero_le hnonneg
  have hcount : min (index : Int) ((values.length : Int) - 1) =
      (min index (values.length - 1) : Nat) := by omega
  have hlt : min index (values.length - 1) < values.length := by omega
  simp only [hindex, hcount, Int.toNat_natCast]
  refine ⟨values[min index (values.length - 1)], Int.natCast_nonneg _,
    List.getElem?_eq_getElem hlt, ?_⟩
  rw [latestAt_shifted, latestAt_stamp labels values hinterval (by omega), hindex,
    Int.toNat_natCast, List.getElem?_eq_getElem hlt]
  simp [Int.add_comm]

/-- **A written series is a step function of time**: a query sees nothing
before the zero time or when there are no values, and then the value whose
number is the time in whole intervals, or the last one. There are as many
values as numbers and repetitions, and more tokens change none of them. -/
theorem series_steps (hvalues : expandValues tokens = .ok values) (hinterval : 0 < interval) :
    (∃ samples, sampleSlice interval tokens = .ok samples ∧
      ∀ (labels : Labels) (zeroTime time : Int),
        let series := TimeSeries.shifted ⟨labels, samples⟩ zeroTime
        let k := min ((time - zeroTime) / interval) ((values.length : Int) - 1)
        (values = [] ∨ time < zeroTime →
          series.latestAt time = none ∧ series.valueAt time = none) ∧
        (values ≠ [] → zeroTime ≤ time → ∃ value, 0 ≤ k ∧ values[k.toNat]? = some value ∧
          series.latestAt time = some ⟨zeroTime + k * interval, value⟩ ∧
          series.valueAt time = some value)) ∧
    (∃ read, tokens.mapM readSampleToken = .ok read ∧
      values.length = read.countP SampleToken.isLiteral + (read.map SampleToken.repeats).sum) ∧
    ∀ further all, expandValues (tokens ++ further) = .ok all → values <+: all := by
  obtain ⟨-, read, hread, hlength⟩ := of_foldlM_extendValues hvalues
  refine ⟨⟨_, sampleSlice_eq_ok hinterval hvalues, ?_⟩, ⟨read, hread, by simpa using hlength⟩, ?_⟩
  · intro labels zeroTime time series k
    constructor
    · intro h
      have hlatest := latestAt_shifted_stamp_eq_none labels hinterval h
      exact ⟨hlatest, by rw [TimeSeries.valueAt]; exact congrArg _ hlatest⟩
    · intro hne htime
      obtain ⟨value, hk, hvalue, hlatest⟩ := latestAt_shifted_stamp labels hinterval hne htime
      exact ⟨value, hk, hvalue, hlatest, by rw [TimeSeries.valueAt]; exact congrArg _ hlatest⟩
  · intro further all hall
    exact prefix_of_expandValues_append hvalues hall

/-- A rise of three steps: the last whole interval before a query counts, and
the last value stays. -/
theorem series_steps_rise :
    ∃ samples, sampleSlice 5000 ["1", " 2x3"] = .ok samples ∧
      let series := TimeSeries.shifted ⟨.empty, samples⟩ 1000
      series.valueAt 999 = none ∧ series.latestAt 10999 = some ⟨6000, 3⟩ ∧
        series.valueAt 99000 = some 7 := by
  have hvalues : expandValues ["1", " 2x3"] = .ok [1, 3, 5, 7] :=
    eq_ok_of_toOption (by decide +kernel)
  obtain ⟨⟨samples, hsamples, hseries⟩, -⟩ := series_steps hvalues (by decide : (0 : Int) < 5000)
  have hbefore := (hseries .empty 1000 999).1 (.inr (by decide))
  obtain ⟨value, -, hvalue, hlatest, -⟩ := (hseries .empty 1000 10999).2 (by simp) (by decide)
  obtain ⟨last, -, hlast, -, hafter⟩ := (hseries .empty 1000 99000).2 (by simp) (by decide)
  obtain rfl : (3 : Binary64) = value := Option.some.inj hvalue
  obtain rfl : (7 : Binary64) = last := Option.some.inj hlast
  exact ⟨samples, hsamples, hbefore.2, hlatest, hafter⟩

end AlertConformance
