/-
AlertConformance.Proofs.Time.Instant — a written instant is read back.

An instant whose fraction has six digits, and whose offset is written in
digits, has each field at its place: the date takes ten characters, the time
of day ends where the offset starts, and each field has two digits. The
reader finds the fields that were written.

* `readClock?_clockChars` — the time of day.
* `readOffset?_chars` — the offset.
* `readDate?_chars` — the date.
* `readInstant?_chars` — the instant.
-/
import AlertConformance.Proofs.Numeric.Decimal
import AlertConformance.Proofs.Time.Written
import AlertConformance.Time.Instant

namespace AlertConformance

namespace Instant

/-! ## Digits -/

/-- Digits are read up to their count. -/
theorem readDigits?_append {digits : List Char} (h : ∀ c ∈ digits, c.isDigit = true)
    (rest : List Char) :
    readDigits? digits.length (digits ++ rest) = some (digitsValue digits, rest) := by
  have hall : digits.all Char.isDigit = true := List.all_eq_true.mpr h
  simp [readDigits?, hall]

theorem readDigits?_twoDigits {n : Nat} (h : n < 100) (rest : List Char) :
    readDigits? 2 (twoDigits n ++ rest) = some (n, rest) := by
  have hread := readDigits?_append (isDigit_of_mem_twoDigits h) rest
  rwa [digitsValue_twoDigits h] at hread

/-! ## Clocks -/

variable {value : Nat} {clock : Clock} {colons : Option Bool} {fields : Nat}

/-- A field before a colon. -/
theorem readClock?_colon (h : value < 100) (hcolons : colons.getD true = true)
    {rest : List Char} (hrest : rest ≠ []) :
    readClock? (fields + 1) colons (twoDigits value ++ ':' :: rest) =
      (readClock? fields (some true) rest).map (Clock.withField value) := by
  obtain ⟨c, more, rfl⟩ := List.exists_cons_of_ne_nil hrest
  simp [readClock?, readDigits?_twoDigits h, hcolons]

/-- A field at the end. -/
theorem readClock?_end (h : value < 100) :
    readClock? (fields + 1) colons (twoDigits value) = some ⟨[value], 0, true⟩ := by
  have hread := readDigits?_twoDigits h []
  rw [List.append_nil] at hread
  simp [readClock?, hread, Clock.bare, Clock.withField]

/-- Six digits of a fraction. -/
theorem readFraction?_of_digits {digits : List Char} (hlength : digits.length = 6)
    (h : ∀ c ∈ digits, c.isDigit = true) :
    readFraction? digits = some ⟨[], digitsValue digits, true⟩ := by
  have hread := readDigits?_append h []
  rw [List.append_nil, hlength] at hread
  simp [readFraction?, hlength, hread, isOver]

/-- A field before a fraction of six digits. -/
theorem readClock?_point (h : value < 100) {digits : List Char} (hlength : digits.length = 6)
    (hdigits : ∀ c ∈ digits, c.isDigit = true) :
    readClock? (fields + 1) (some true) (twoDigits value ++ '.' :: digits) =
      some ⟨[value], digitsValue digits, true⟩ := by
  obtain ⟨first, rest, rfl⟩ := List.exists_cons_of_length_eq_add_one hlength
  have hfraction := readFraction?_of_digits hlength hdigits
  simp [readClock?, readDigits?_twoDigits h, hfraction, Clock.withField]

/-- A time of day with seconds, and perhaps a fraction of six digits. -/
theorem readClock?_clockChars (written : WrittenInstant)
    (h : written.fraction = [] ∨ written.fraction.length = 6) :
    readClock? 3 none written.clockChars =
      some ⟨[written.hour, written.minute, written.second],
        fractionMicroseconds written.fraction, true⟩ := by
  have hhour : written.hour.val < 100 := by omega
  have hminute : written.minute.val < 100 := by omega
  have hsecond : written.second.val < 100 := by omega
  have hseconds : readClock? 1 (some true)
      (twoDigits written.second ++ fractionChars written.fraction) =
        some ⟨[written.second.val], fractionMicroseconds written.fraction, true⟩ := by
    rcases h with hnone | hsix
    · have hzero : fractionMicroseconds [] = 0 := by decide
      rw [hnone, fractionChars, List.append_nil, hzero]
      exact readClock?_end hsecond
    · have hne : written.fraction ≠ [] := List.ne_nil_of_length_eq_add_one hsix
      have hlength : (digitChars written.fraction).length = 6 := by
        rw [digitChars, List.length_map, hsix]
      rw [fractionChars_of_ne_nil hne, fractionMicroseconds, sixDigits_of_length hsix]
      exact readClock?_point hsecond hlength isDigit_of_mem_digitChars
  have hsplit : written.clockChars = twoDigits written.hour ++ ':' :: (twoDigits written.minute ++
      ':' :: (twoDigits written.second ++ fractionChars written.fraction)) := by
    simp [WrittenInstant.clockChars, WrittenInstant.timeChars]
  rw [hsplit, readClock?_colon hhour rfl (twoDigits_append_ne_nil _ _),
    readClock?_colon hminute rfl (twoDigits_append_ne_nil _ _), hseconds]
  rfl

/-! ## Offsets -/

/-- An offset of whole seconds after its mark. -/
theorem readOffset?_mark (mark : Char) (hmark : mark ≠ 'Z') {cs : List Char}
    (hread : readClock? 3 none cs = some clock) (hcomplete : clock.complete = true)
    (hwhole : clock.fraction = 0) (hless : clock.microseconds < dayMicroseconds) :
    readOffset? (mark :: cs) =
      some (if mark = '-' then -(clock.microseconds : Int) else clock.microseconds) := by
  have hopen : readOffset? (mark :: cs) = (readClock? 3 none cs).bind fun clock =>
      if !clock.complete || dayMicroseconds ≤ clock.microseconds then none
      else if clock.seconds = 0 then some 0
      else some (if mark = '-' then -(clock.microseconds : Int) else clock.microseconds) := by
    rw [readOffset?]
    exact hmark
  have hfits : ¬ dayMicroseconds ≤ clock.microseconds := Nat.not_le.mpr hless
  rw [hopen, hread, Option.bind_some, hcomplete]
  simp only [hfits, Bool.not_true, decide_false, Bool.or_false, Bool.false_eq_true, if_false]
  split
  · rename_i hzero
    have hnone : clock.microseconds = 0 := by
      rw [Clock.microseconds, hzero, hwhole]
    simp [hnone]
  · rfl

/-- An offset in digits, or none. -/
theorem readOffset?_chars (zone : Zone) (h : ∀ capital, zone ≠ .zulu capital) :
    readOffset? zone.chars = some (zone.minutesAhead * 60000000) := by
  cases zone with
  | absent => rfl
  | zulu capital => exact absurd rfl (h capital)
  | offset behind hours minutes =>
    have hhours : hours.val < 100 := by omega
    have hminutes : minutes.val < 100 := by omega
    have hread : readClock? 3 none (twoDigits hours ++ ':' :: twoDigits minutes) =
        some ⟨[hours.val, minutes.val], 0, true⟩ := by
      rw [readClock?_colon hhours rfl (by simp [twoDigits]), readClock?_end hminutes]
      rfl
    have hclock : (⟨[hours.val, minutes.val], 0, true⟩ : Clock).microseconds =
        (hours * 60 + minutes) * 60000000 := by
      simp [Clock.microseconds, Clock.seconds, Clock.field]
      omega
    have hless : (⟨[hours.val, minutes.val], 0, true⟩ : Clock).microseconds < dayMicroseconds := by
      rw [hclock, dayMicroseconds]
      omega
    cases behind with
    | false =>
      have hoffset := readOffset?_mark '+' (by decide) hread rfl rfl hless
      rw [hclock] at hoffset
      simpa [Zone.chars, Zone.minutesAhead] using hoffset
    | true =>
      have hoffset := readOffset?_mark '-' (by decide) hread rfl rfl hless
      rw [hclock] at hoffset
      have hminus : (Zone.offset true hours minutes).minutesAhead * 60000000 =
          -(((hours * 60 + minutes) * 60000000 : Nat) : Int) := by
        simp only [Zone.minutesAhead, if_true]
        omega
      rw [hminus]
      simpa [Zone.chars] using hoffset

/-! ## Times -/

theorem startsOffset_of_isDigit {c : Char} (h : c.isDigit = true) : startsOffset c = false := by
  have hplus : c ≠ '+' := ne_of_isDigit h rfl
  have hminus : c ≠ '-' := ne_of_isDigit h rfl
  have hzulu : c ≠ 'Z' := ne_of_isDigit h rfl
  simp [startsOffset, hplus, hminus, hzulu]

/-- An instant without a `Z`, and with six digits in its fraction if it has
one. -/
structure IsPlain (written : WrittenInstant) : Prop where
  fraction : written.fraction = [] ∨ written.fraction.length = 6
  zone : ∀ capital, written.zone ≠ .zulu capital

variable {written : WrittenInstant}

/-- A time of day with its offset. -/
theorem readTime?_chars (h : IsPlain written) :
    readTime? (written.clockChars ++ written.zone.chars) =
      some ((written.utcMinutes * 60 + written.second) * 1000000 +
        fractionMicroseconds written.fraction) := by
  have hdigit : ∀ c : Char, c.isDigit = true → (!startsOffset c) = true := by
    intro c hc
    rw [startsOffset_of_isDigit hc]
    rfl
  have hclock : ∀ c ∈ written.clockChars, (!startsOffset c) = true :=
    (written.spells_clock).all hdigit (by decide)
  have hzone : written.zone.chars.takeWhile (fun c => !startsOffset c) = [] := by
    cases hzone : written.zone with
    | absent => rfl
    | zulu capital => exact absurd hzone (h.zone capital)
    | offset behind hours minutes => cases behind <;> rfl
  have htime : (written.clockChars ++ written.zone.chars).takeWhile (fun c => !startsOffset c) =
      written.clockChars := by
    rw [List.takeWhile_append_of_pos hclock, hzone, List.append_nil]
  have hinside : (⟨[written.hour.val, written.minute.val, written.second.val],
      fractionMicroseconds written.fraction, true⟩ : Clock).isTimeOfDay = true := by
    simp [Clock.isTimeOfDay, Clock.field]
  simp only [readTime?, htime, List.drop_left, readClock?_clockChars written h.fraction,
    readOffset?_chars written.zone h.zone, Option.bind_some, hinside, Bool.true_or, Bool.and_true,
    if_true, Clock.microseconds, Clock.seconds, Clock.field, Option.some.injEq,
    WrittenInstant.utcMinutes]
  simp only [List.getD_cons_zero, List.getD_cons_succ]
  omega

/-! ## Dates -/

theorem digitChar_ne (value : Nat) (h : value < 10) {c : Char} (hc : c.isDigit = false) :
    digitChar value ≠ c := ne_of_isDigit (isDigit_digitChar value h) hc

variable {date : Date}

/-- A date is the first ten characters. -/
theorem dateLength_chars (h : date.IsValid) (rest : List Char) :
    dateLength (date.chars ++ rest) = 10 := by
  obtain ⟨-, ⟨-, hmonth⟩, -⟩ := Date.isValid_iff.mp h
  have hweek : digitChar (date.month / 10) ≠ 'W' := digitChar_ne _ (by omega) rfl
  simp [dateLength, Date.chars, twoDigits, hweek]

theorem length_chars (date : Date) : date.chars.length = 10 := by
  simp [Date.chars, twoDigits]

/-- A date with its dashes. -/
theorem readDate?_chars (h : date.IsValid) : readDate? date.chars = some date.number := by
  obtain ⟨⟨-, hyear⟩, ⟨-, hmonth⟩, -, hday⟩ := Date.isValid_iff.mp h
  have hlength := Calendar.monthLength_le date.year date.month
  have hweek : digitChar (date.month / 10) ≠ 'W' := digitChar_ne _ (by omega) rfl
  have hsplit : date.chars = (twoDigits (date.year / 100) ++ twoDigits (date.year % 100)) ++
      '-' :: (twoDigits date.month ++ '-' :: twoDigits date.day) := by
    simp [Date.chars]
  have hyearRead : ∀ rest, readDigits? 4
      ((twoDigits (date.year / 100) ++ twoDigits (date.year % 100)) ++ rest) =
        some (date.year, rest) := by
    intro rest
    unfold Calendar.maxYear at hyear
    have hdigits : ∀ c ∈ twoDigits (date.year / 100) ++ twoDigits (date.year % 100),
        c.isDigit = true := by
      intro c hc
      rcases List.mem_append.mp hc with hc | hc
      · exact isDigit_of_mem_twoDigits (by omega) c hc
      · exact isDigit_of_mem_twoDigits (by omega) c hc
    have hread := readDigits?_append hdigits rest
    rwa [digitsValue_year (by omega)] at hread
  have hmonthRead := readDigits?_twoDigits (n := date.month) (by omega) ('-' :: twoDigits date.day)
  have hdayRead := readDigits?_twoDigits (n := date.day) (by omega) []
  rw [List.append_nil] at hdayRead
  have hdash : afterDash? true ('-' :: twoDigits date.day) = some (twoDigits date.day) := rfl
  have hnumber := Date.dayNumber?_of_isValid h
  rw [hsplit, readDate?, hyearRead]
  simp only [bind, Option.bind, List.head?_cons, beq_self_eq_true, if_true, List.drop_succ_cons,
    List.drop_zero]
  split
  · rename_i hstarts
    simp [twoDigits, hweek] at hstarts
  · rw [hmonthRead]
    simp only [hdash, hdayRead, hnumber]

/-! ## Instants -/

/-- **A plain instant** is read as the fields that were written. -/
theorem readInstant?_chars (hdate : written.date.IsValid) (h : IsPlain written) :
    readInstant? written.chars = some written.microseconds := by
  have hsplit : written.chars = written.date.chars ++
      'T' :: (written.clockChars ++ written.zone.chars) := by
    simp [WrittenInstant.chars]
  have htake : (written.date.chars ++
      'T' :: (written.clockChars ++ written.zone.chars)).take 10 = written.date.chars :=
    List.take_left' (length_chars _)
  have hdrop : (written.date.chars ++
      'T' :: (written.clockChars ++ written.zone.chars)).drop 10 =
        'T' :: (written.clockChars ++ written.zone.chars) :=
    List.drop_left' (length_chars _)
  rw [hsplit, readInstant?]
  simp only [dateLength_chars hdate, htake, readDate?_chars hdate, Option.bind_some, hdrop,
    readTime?_chars h, Option.map_some, Option.some.injEq, WrittenInstant.microseconds,
    dayMicroseconds]
  omega

theorem mapM_character? (cs : List Char) :
    (cs.map CodePoint.character).mapM CodePoint.character? = some cs := by
  induction cs with
  | nil => rfl
  | cons c rest ih => simp [CodePoint.character?, ih]

/-- Text without surrogates is read as it is. -/
theorem ofText?_ofString (source : String) :
    ofText? (source : Text) = readInstant? source.toList := by
  have hplain : ∀ place : Nat,
      ((Text.ofString source).points[place]?).any CodePoint.isSurrogate = false := by
    intro place
    rw [Text.ofString, List.getElem?_map]
    cases source.toList[place]? <;> rfl
  have hcharacters : characters? (source : Text) = some source.toList := by
    have hnone : separatorPlaces.find?
        (fun place => ((Text.ofString source).points[place]?).any CodePoint.isSurrogate) = none := by
      simp [hplain]
    rw [characters?]
    simp only [hnone]
    exact mapM_character? _
  rw [ofText?, hcharacters, Option.bind_some]

end Instant

end AlertConformance
