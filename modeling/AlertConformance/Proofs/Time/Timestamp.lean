/-
AlertConformance.Proofs.Time.Timestamp — a timestamp depends on its instant.

A text that writes an instant is edited before it is read: blanks at its
ends go, a final `Z` becomes an offset, and the fraction is brought to six
digits. The milliseconds are those of the instant alone, so its UTC form has
the same ones.

* `isoForm_text` — what the edits make of a written instant.
* `exists_ofSeconds?` — each instant of the calendar has its milliseconds.
* `ofText?_text` — the milliseconds of a written instant.
* `isWritable_of_timestamp`, `isWritable_of_milliseconds` — the times of a
  payload are within the limit on digits.
* `timestamp_utc` — its UTC form has the same ones.
-/
import AlertConformance.Proofs.Numeric.Overflow
import AlertConformance.Proofs.Payload.Escapes
import AlertConformance.Proofs.Time.Instant

namespace AlertConformance

namespace Timestamp

/-! ## Edits -/

/-- What stands before the point of a fraction is kept. -/
theorem sixPlaces_append {points : List CodePoint} (h : CodePoint.character '.' ∉ points)
    (rest : List CodePoint) : sixPlaces (points ++ rest) = points ++ sixPlaces rest := by
  induction points with
  | nil => rfl
  | cons point more ih =>
    have hpoint : point ≠ CodePoint.character '.' := fun heq => h (by simp [heq])
    have hmore : CodePoint.character '.' ∉ more := fun hmem => h (List.mem_cons_of_mem _ hmem)
    have hstep : sixPlaces (point :: (more ++ rest)) = point :: sixPlaces (more ++ rest) := by
      rw [sixPlaces]
      exact hpoint
    rw [List.cons_append, hstep, ih hmore, List.cons_append]

/-- The code points of characters. -/
abbrev pointsOf (cs : List Char) : List CodePoint := cs.map .character

theorem character_mem_pointsOf {c : Char} {cs : List Char} :
    CodePoint.character c ∈ pointsOf cs ↔ c ∈ cs := by
  simp [pointsOf]

theorem sixPlaces_of_no_point {cs : List Char} (h : '.' ∉ cs) :
    sixPlaces (pointsOf cs) = pointsOf cs := by
  have hkept := sixPlaces_append (mt character_mem_pointsOf.mp h) []
  rwa [List.append_nil, sixPlaces, List.append_nil] at hkept

theorem isDecimal_of_isDigit {c : Char} (h : c.isDigit = true) :
    isDecimal (.character c) = true := by
  simp [isDecimal, CodePoint.character?, digitValue?_of_isDigit h]

/-- A fraction before something that is no digit. -/
theorem sixPlaces_fraction {digits : List (Fin 10)} {rest : List Char} (h : digits ≠ [])
    (hrest : (pointsOf rest).takeWhile isDecimal = []) :
    sixPlaces (pointsOf (fractionChars digits ++ rest)) =
      pointsOf (fractionChars (sixDigits digits) ++ rest) := by
  have hdecimal : ∀ point ∈ pointsOf (digitChars digits), isDecimal point = true := by
    intro point hpoint
    obtain ⟨c, hc, rfl⟩ := List.mem_map.mp hpoint
    exact isDecimal_of_isDigit (isDigit_of_mem_digitChars c hc)
  have hread : (pointsOf (digitChars digits) ++ pointsOf rest).takeWhile isDecimal =
      pointsOf (digitChars digits) := by
    rw [List.takeWhile_append_of_pos hdecimal, hrest, List.append_nil]
  have hne : (pointsOf (digitChars digits)).isEmpty = false := by
    simpa [digitChars] using h
  have hsplit : pointsOf ('.' :: digitChars digits ++ rest) =
      .character '.' :: (pointsOf (digitChars digits) ++ pointsOf rest) := by
    simp
  have hzero : digitChar 0 = '0' := rfl
  rw [fractionChars_of_ne_nil h, fractionChars_of_ne_nil (sixDigits_ne_nil digits), hsplit, sixPlaces]
  simp only [hread, hne, Bool.false_eq_true, if_false, List.drop_left]
  simp [sixDigits, digitChars, hzero]

/-- A final `Z` becomes an offset. -/
theorem expandZulu_zulu (cs : List Char) (capital : Bool) :
    expandZulu (pointsOf (cs ++ (Zone.zulu capital).chars)) = pointsOf (cs ++ Zone.utc.chars) := by
  have hutc : (Text.ofString "+00:00").points = pointsOf Zone.utc.chars := by decide
  have hmark : ∀ mark, mark = 'Z' ∨ mark = 'z' →
      expandZulu (pointsOf (cs ++ [mark])) = pointsOf (cs ++ Zone.utc.chars) := by
    intro mark hmark
    simp [expandZulu, CodePoint.character?, hmark, hutc]
  cases capital with
  | false => exact hmark 'z' (.inr rfl)
  | true => exact hmark 'Z' (.inl rfl)

/-- Without a final `Z` nothing becomes an offset. -/
theorem expandZulu_of_plain (cs : List Char) {tail : List Char} (hne : tail ≠ [])
    (h : ∀ c ∈ tail, c ≠ 'Z' ∧ c ≠ 'z') :
    expandZulu (pointsOf (cs ++ tail)) = pointsOf (cs ++ tail) := by
  obtain ⟨hcapital, hsmall⟩ := h (tail.getLast hne) (List.getLast_mem hne)
  rw [← List.dropLast_append_getLast hne, ← List.append_assoc]
  simp [expandZulu, CodePoint.character?, hcapital, hsmall]

theorem isBlank_of_isDigit {c : Char} (h : c.isDigit = true) : isBlank c = false := by
  have hdigits : ∀ value < 10, blanks.contains (48 + value) = false := by decide
  obtain ⟨hlow, hhigh⟩ := toNat_of_isDigit h
  have hvalue := hdigits (c.toNat - 48) (by omega)
  rwa [Nat.add_sub_cancel' hlow] at hvalue

variable {written : WrittenInstant}

/-- No blank is part of a written instant. -/
theorem isBlank_of_mem_chars (hdate : written.date.IsValid) :
    ∀ c ∈ written.chars, isBlank c = false := by
  have hdigit : ∀ c : Char, c.isDigit = true → isBlank c = false := fun c => isBlank_of_isDigit
  have hzone : ∀ c ∈ written.zone.chars, isBlank c = false := by
    cases written.zone with
    | absent => exact List.forall_mem_nil _
    | zulu capital => exact List.forall_iff_forall_mem.mp (by cases capital <;> decide)
    | offset behind hours minutes => exact (Zone.spells_offset _ _ _).all hdigit (by decide)
  have hclock : ∀ c ∈ 'T' :: written.clockChars, isBlank c = false :=
    List.forall_mem_cons.mpr ⟨by decide, (written.spells_clock).all hdigit (by decide)⟩
  have hday : ∀ c ∈ written.date.chars, isBlank c = false :=
    (Date.spells_chars hdate).all hdigit (by decide)
  exact List.forall_mem_append.mpr ⟨List.forall_mem_append.mpr ⟨hday, hclock⟩, hzone⟩

/-- The offset of an instant gets its digits. -/
theorem expandZulu_chars (written : WrittenInstant) :
    expandZulu (pointsOf written.chars) =
      pointsOf (written.date.chars ++ 'T' :: written.clockChars ++ written.zone.expanded.chars) := by
  have hdigit : ∀ c : Char, c.isDigit = true → c ≠ 'Z' ∧ c ≠ 'z' := fun c hc =>
    ⟨ne_of_isDigit hc rfl, ne_of_isDigit hc rfl⟩
  rw [WrittenInstant.chars]
  cases written.zone with
  | absent =>
    have hne : 'T' :: written.clockChars ≠ [] := List.cons_ne_nil _ _
    have hclock : ∀ c ∈ 'T' :: written.clockChars, c ≠ 'Z' ∧ c ≠ 'z' :=
      List.forall_mem_cons.mpr ⟨by decide, (written.spells_clock).all hdigit (by decide)⟩
    simpa [Zone.chars, Zone.expanded] using expandZulu_of_plain written.date.chars hne hclock
  | zulu capital => exact expandZulu_zulu _ capital
  | offset behind hours minutes =>
    exact expandZulu_of_plain _ (List.cons_ne_nil _ _) ((Zone.spells_offset _ _ _).all hdigit (by decide))

/-- The fraction of an instant gets six digits. -/
theorem sixPlaces_chars (hdate : written.date.IsValid) :
    sixPlaces (pointsOf
      (written.date.chars ++ 'T' :: written.clockChars ++ written.zone.expanded.chars)) =
        pointsOf written.edited.chars := by
  have hdigit : ∀ c : Char, c.isDigit = true → c ≠ '.' := fun c hc => ne_of_isDigit hc rfl
  have htime : ∀ c ∈ 'T' :: written.timeChars, c ≠ '.' :=
    List.forall_mem_cons.mpr ⟨by decide, (written.spells_time).all hdigit (by decide)⟩
  have hbefore : CodePoint.character '.' ∉
      pointsOf (written.date.chars ++ 'T' :: written.timeChars) := fun hmem =>
    List.forall_mem_append.mpr ⟨(Date.spells_chars hdate).all hdigit (by decide), htime⟩ '.'
      (character_mem_pointsOf.mp hmem) rfl
  have hzone : '.' ∉ written.zone.expanded.chars ∧
      (pointsOf written.zone.expanded.chars).takeWhile isDecimal = [] := by
    cases written.zone with
    | absent => decide
    | zulu capital => cases capital <;> decide
    | offset behind hours minutes =>
      refine ⟨fun hmem => (Zone.spells_offset _ _ _).all hdigit (by decide) '.' hmem rfl, ?_⟩
      cases behind <;> rfl
  have hsplit : ∀ fraction, written.date.chars ++ 'T' :: (written.timeChars ++ fraction) ++
      written.zone.expanded.chars = written.date.chars ++ 'T' :: written.timeChars ++
        (fraction ++ written.zone.expanded.chars) := by
    intro fraction
    simp
  have hedited : written.edited.chars = written.date.chars ++
      'T' :: (written.timeChars ++ fractionChars written.edited.fraction) ++
        written.zone.expanded.chars := rfl
  have hfraction : sixPlaces (pointsOf
      (fractionChars written.fraction ++ written.zone.expanded.chars)) = pointsOf
        (fractionChars written.edited.fraction ++ written.zone.expanded.chars) := by
    simp only [WrittenInstant.edited]
    split
    · rename_i hnone
      rw [hnone]
      exact sixPlaces_of_no_point hzone.1
    · rename_i hsome
      exact sixPlaces_fraction hsome hzone.2
  rw [hedited, WrittenInstant.clockChars, hsplit, hsplit, pointsOf, List.map_append,
    sixPlaces_append hbefore, hfraction, ← List.map_append]

variable {before after : String}

/-- **The edits** bring a written instant to its edited form. -/
theorem isoForm_text (hdate : written.date.IsValid)
    (hbefore : ∀ c ∈ before.toList, isBlank c = true)
    (hafter : ∀ c ∈ after.toList, isBlank c = true) :
    isoForm (before ++ written.text ++ after : String) = (written.edited.text : Text) := by
  have hblank : ∀ {cs : List Char} {blank : Bool}, (∀ c ∈ cs, isBlank c = blank) →
      ∀ point ∈ pointsOf cs, point.character?.any isBlank = blank := by
    intro cs blank hcs point hpoint
    obtain ⟨c, hc, rfl⟩ := List.mem_map.mp hpoint
    exact hcs c hc
  have hpoints : (Text.ofString (before ++ written.text ++ after)).points =
      pointsOf before.toList ++ pointsOf written.chars ++ pointsOf after.toList := by
    simp [Text.ofString, WrittenInstant.text]
  rw [isoForm, hpoints, trimBy_append (hblank hbefore) (hblank (isBlank_of_mem_chars hdate))
    (hblank hafter), expandZulu_chars, sixPlaces_chars hdate]
  simp [Text.ofString, WrittenInstant.text]

/-! ## Milliseconds -/

/-- **Each instant** of less than 2 ^ 60 microseconds has its milliseconds. -/
theorem exists_ofSeconds? {microseconds : Int} (h : microseconds.natAbs < 2 ^ 60) :
    ∃ time, ofSeconds? (secondsOf microseconds) = some time := by
  have hvalue : ((microseconds.natAbs : ℚ) / (1000000 : Nat)) * 2 ^ (0 : Int) < 2 ^ (60 : Int) := by
    rw [zpow_zero, mul_one, div_lt_iff₀ (by norm_num)]
    have hcast : (microseconds.natAbs : ℚ) < 2 ^ (60 : Int) := by exact_mod_cast h
    exact hcast.trans (by norm_num)
  obtain ⟨seconds, hseconds, hbound⟩ := Binary64.exists_toRat?_ofScaledRatio
    (decide (microseconds < 0)) microseconds.natAbs (by decide) 0 (by decide) (by decide) hvalue
  have hproduct : (secondsOf microseconds * 1000).isFinite = true := by
    have hthousand : |((1000 : Int) : ℚ)| ≤ 2 ^ (10 : Int) := by norm_num
    refine (Binary64.isFinite_mul_iff hseconds Binary64.holds_thousand).mpr ?_
    rw [abs_mul]
    calc |seconds| * |((1000 : Int) : ℚ)|
        ≤ 2 ^ (60 : Int) * 2 ^ (10 : Int) :=
          mul_le_mul hbound hthousand (abs_nonneg _) (by positivity)
      _ = 2 ^ (70 : Int) := by rw [← zpow_add₀ (by norm_num)]; rfl
      _ ≤ 2 ^ (1023 : Int) := zpow_le_zpow_right₀ (by norm_num) (by norm_num)
      _ < Binary64.overflowBound := Binary64.lt_overflowBound
  rw [ofSeconds?]
  cases htime : (secondsOf microseconds * 1000).roundToInt? with
  | some time => exact ⟨time, rfl⟩
  | none =>
    rw [Payload.roundToInt?_eq_none_iff, hproduct] at htime
    cases htime

/-- **The milliseconds** of a written instant are those of its microseconds. -/
theorem ofText?_text (hdate : written.date.IsValid)
    (hbefore : ∀ c ∈ before.toList, isBlank c = true)
    (hafter : ∀ c ∈ after.toList, isBlank c = true) :
    ofText? (before ++ written.text ++ after : String) =
      ofSeconds? (secondsOf written.microseconds) := by
  have hplain : Instant.IsPlain written.edited := by
    constructor
    · simp only [WrittenInstant.edited]
      split
      · exact .inl rfl
      · exact .inr (length_sixDigits _)
    · intro capital
      cases hzone : written.zone <;> simp [WrittenInstant.edited, hzone, Zone.expanded, Zone.utc]
  have hedited : written.edited.date.IsValid := hdate
  have hread : Instant.ofText? (written.edited.text : Text) = some written.microseconds := by
    rw [Instant.ofText?_ofString, WrittenInstant.text, String.toList_ofList,
      Instant.readInstant?_chars hedited hplain, written.microseconds_edited]
  rw [ofText?, isoForm_text hdate hbefore hafter, hread, Option.bind_some]

end Timestamp

/-! ## Payloads -/

open Timestamp

/-- The times of a payload can be written, whether they come as text … -/
theorem Payload.isWritable_of_timestamp [NestingLimits] {value : Json} {time : Int}
    (h : timestamp value = .ok (some time)) : isWritable time = true := by
  unfold timestamp at h
  split at h
  · cases h
  · rename_i text
    split at h
    · cases h
    · split at h
      · rename_i found hfound
        obtain ⟨microseconds, -, hseconds⟩ := Option.bind_eq_some_iff.mp hfound
        obtain rfl := Option.some.inj (Except.ok.inj h)
        exact Binary64.isWritable_of_roundToInt?_mul hseconds
      · exact absurd h refuse_ne_ok
  · exact absurd h refuse_ne_ok

/-- … or as a number of seconds. -/
theorem Payload.isWritable_of_milliseconds [NestingLimits] {value : Json} {time : Int}
    (h : milliseconds value = .ok time) : isWritable time = true := by
  obtain ⟨seconds, -, h⟩ := bind_eq_ok_iff.mp h
  split at h
  · rename_i found hfound
    obtain rfl := Except.ok.inj h
    exact Binary64.isWritable_of_roundToInt?_mul hfound
  · split at h
    · exact absurd h refuse_ne_ok
    · cases h

variable {written : WrittenInstant} {before after : String}

theorem Payload.timestamp_text [NestingLimits] {text : String} {time : Int}
    (h : Timestamp.ofText? text = some time)
    (hset : ¬ ((text : Text) = "" ∨ (text : Text) = Timestamp.unset)) :
    timestamp (.text text) = .ok (some time) := by
  simp only [timestamp, Bool.or_eq_true, decide_eq_true_eq, if_neg hset, h]

/-- A text differs from one without a character of its instant. -/
theorem text_ne {c : Char} (hc : c ∈ written.chars) {other : String} (hother : c ∉ other.toList)
    (before after : String) : before ++ written.text ++ after ≠ other := by
  intro heq
  refine hother ?_
  rw [← heq]
  simp [WrittenInstant.text, hc]

theorem timestamp_eq [NestingLimits] {time : Int} (hdate : written.date.IsValid)
    (hbefore : ∀ c ∈ before.toList, isBlank c = true)
    (hafter : ∀ c ∈ after.toList, isBlank c = true)
    (hset : before ++ written.text ++ after ≠ Timestamp.unset)
    (htime : ofSeconds? (secondsOf written.microseconds) = some time) :
    Payload.timestamp (.text (before ++ written.text ++ after : String)) = .ok (some time) := by
  have hmark : 'T' ∈ written.chars := by simp [WrittenInstant.chars]
  refine Payload.timestamp_text ((ofText?_text hdate hbefore hafter).trans htime) ?_
  rintro (hempty | hunset)
  · exact text_ne hmark (by decide) before after (Text.ofString_inj.mp hempty)
  · exact hset (Text.ofString_inj.mp hunset)

/-- **A timestamp** depends on its instant only. A written instant, with
blanks around it or without, has the milliseconds that its microseconds since
the epoch are rounded to. Its UTC form has the same ones, and digits after
the sixth one of its fraction do not matter. -/
theorem timestamp_utc [NestingLimits] (written : WrittenInstant) (before after : String)
    (hbefore : ∀ c ∈ before.toList, isBlank c = true)
    (hafter : ∀ c ∈ after.toList, isBlank c = true)
    (hset : before ++ written.text ++ after ≠ Timestamp.unset)
    (hdate : written.date.IsValid) (hutc : written.utc.date.IsValid) :
    ∃ time : Int,
      ofSeconds? (secondsOf written.microseconds) = some time ∧
      Payload.timestamp (.text (before ++ written.text ++ after : String)) = .ok (some time) ∧
      Payload.timestamp (.text written.utc.text) = .ok (some time) ∧
      ∀ digits, digits.take 6 = written.fraction.take 6 →
        Payload.timestamp (.text (before ++
          { written with fraction := digits : WrittenInstant }.text ++ after : String)) =
            .ok (some time) := by
  obtain ⟨time, htime⟩ := exists_ofSeconds? (WrittenInstant.natAbs_microseconds_lt hdate)
  refine ⟨time, htime, timestamp_eq hdate hbefore hafter hset htime, ?_, ?_⟩
  · -- the UTC form names the same instant
    have hplus : '+' ∈ written.utc.chars := by
      have hzone : '+' ∈ written.utc.zone.chars := by simp [WrittenInstant.utc, Zone.utc, Zone.chars]
      exact List.mem_append_right _ hzone
    have hread := timestamp_eq hutc (List.forall_mem_nil _) (List.forall_mem_nil _)
      (text_ne hplus (by decide) "" "")
      ((congrArg (fun m => ofSeconds? (secondsOf m))
        (WrittenInstant.microseconds_utc hdate hutc)).trans htime)
    simpa using hread
  · -- one fraction up to the sixth digit
    intro digits hdigits
    by_cases hnone : written.fraction = []
    · rw [hnone, List.take_nil] at hdigits
      have hdigits : digits = written.fraction := by simpa [hnone] using hdigits
      rw [hdigits]
      exact timestamp_eq hdate hbefore hafter hset htime
    · have hsome : digits ≠ [] := by
        rintro rfl
        simp [hnone] at hdigits
      have hpoint : '.' ∈ { written with fraction := digits : WrittenInstant }.chars := by
        simp [WrittenInstant.chars, WrittenInstant.clockChars, fractionChars_of_ne_nil hsome]
      refine timestamp_eq hdate hbefore hafter (text_ne hpoint (by decide) before after) ?_
      rw [WrittenInstant.microseconds_fraction hdigits, htime]

/-- In the year 2000, whose February has a twenty-ninth day, a time before
midnight behind UTC. -/
def leapNight : WrittenInstant where
  date := ⟨2000, 2, 28⟩
  hour := ⟨23, by decide⟩
  minute := ⟨30, by decide⟩
  second := ⟨59, by decide⟩
  fraction := (List.finRange 10).tail
  zone := .offset true ⟨1, by decide⟩ ⟨30, by decide⟩

theorem timestamp_utc_leapNight :
    leapNight.date.IsValid ∧ leapNight.utc.date.IsValid ∧
    leapNight.utc.text = "2000-02-29T01:00:59.123456+00:00" ∧
    Payload.timestamp (.text (" 2000-02-28T23:30:59.123456789-01:30\n" : String)) =
      .ok (some 951786059123) ∧
    Payload.timestamp (.text ("2000-02-29T01:00:59.123456+00:00" : String)) =
      .ok (some 951786059123) := by
  have hdate : leapNight.date.IsValid := by decide
  have hutcDate : leapNight.utc.date.IsValid := by decide
  have hutc : leapNight.utc.text = "2000-02-29T01:00:59.123456+00:00" := by decide
  have htime : ofSeconds? (secondsOf leapNight.microseconds) = some 951786059123 := by
    decide +kernel
  obtain ⟨time, hfound, hread, hreadUtc, -⟩ := timestamp_utc leapNight " " "\n"
    (List.forall_iff_forall_mem.mp (by decide)) (List.forall_iff_forall_mem.mp (by decide))
    (by decide) hdate hutcDate
  obtain rfl : 951786059123 = time := Option.some.inj (htime.symm.trans hfound)
  rw [hutc] at hreadUtc
  exact ⟨hdate, hutcDate, hutc, hread, hreadUtc⟩

end AlertConformance
