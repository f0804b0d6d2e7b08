/-
AlertConformance.Proofs.Time.Written — instants as they are written.

A written instant is a date, a time of day, perhaps a fraction of a second
and perhaps an offset from UTC. Its UTC form is found by hand: the offset is
subtracted from the minutes of the day, which may carry to the next date or
borrow from the previous one, and the fraction is brought to six decimals.
Both forms name one instant.

* `WrittenInstant`, `WrittenInstant.text` — a written instant and its text.
* `WrittenInstant.utc` — its UTC form.
* `WrittenInstant.microseconds` — the instant that it names.
* `microseconds_utc` — the UTC form names the same instant.
-/
import AlertConformance.Numeric.Numeral
import AlertConformance.Proofs.Time.Calendar
import Mathlib.Data.List.Basic
import Mathlib.Data.List.Induction

namespace AlertConformance

/-! ## Digits -/

/-- A number below a hundred in two digits. -/
def twoDigits (n : Nat) : List Char := [digitChar (n / 10), digitChar (n % 10)]

def digitChars (digits : List (Fin 10)) : List Char := digits.map fun digit => digitChar digit.val

theorem isDigit_digitChar : ∀ value < 10, (digitChar value).isDigit = true := by decide

theorem value_digitChar : ∀ value < 10, (digitChar value).toNat - '0'.toNat = value := by decide

theorem isDigit_of_mem_digitChars {digits : List (Fin 10)} :
    ∀ c ∈ digitChars digits, c.isDigit = true := by
  intro c hc
  obtain ⟨digit, -, rfl⟩ := List.mem_map.mp hc
  exact isDigit_digitChar digit digit.isLt

theorem isDigit_of_mem_twoDigits {n : Nat} (h : n < 100) :
    ∀ c ∈ twoDigits n, c.isDigit = true := by
  intro c hc
  simp only [twoDigits, List.mem_cons, List.not_mem_nil, or_false] at hc
  rcases hc with rfl | rfl
  · exact isDigit_digitChar _ (by omega)
  · exact isDigit_digitChar _ (by omega)

theorem twoDigits_append_ne_nil (n : Nat) (rest : List Char) : twoDigits n ++ rest ≠ [] := by
  simp [twoDigits]

theorem digitsValue_append_twoDigits (cs : List Char) {n : Nat} (h : n < 100) :
    digitsValue (cs ++ twoDigits n) = 100 * digitsValue cs + n := by
  have htens := value_digitChar (n / 10) (by omega)
  have hones := value_digitChar (n % 10) (by omega)
  simp only [digitsValue, twoDigits, List.foldl_append, List.foldl_cons, List.foldl_nil, htens,
    hones]
  omega

theorem digitsValue_twoDigits {n : Nat} (h : n < 100) : digitsValue (twoDigits n) = n :=
  (digitsValue_append_twoDigits [] h).trans (Nat.zero_add n)

/-- A year in four digits. -/
theorem digitsValue_year {n : Nat} (h : n < 10000) :
    digitsValue (twoDigits (n / 100) ++ twoDigits (n % 100)) = n := by
  rw [digitsValue_append_twoDigits _ (by omega), digitsValue_twoDigits (by omega)]
  omega

theorem digitsValue_digitChars_lt (digits : List (Fin 10)) :
    digitsValue (digitChars digits) < 10 ^ digits.length := by
  induction digits using List.reverseRecOn with
  | nil => decide
  | append_singleton digits last ih =>
    have hlast := value_digitChar last last.isLt
    have hstep : digitsValue (digitChars (digits ++ [last])) =
        10 * digitsValue (digitChars digits) + last := by
      simp only [digitsValue, digitChars, List.map_append, List.map_cons, List.map_nil,
        List.foldl_append, List.foldl_cons, List.foldl_nil, hlast]
    rw [hstep, List.length_append, List.length_singleton, Nat.pow_succ]
    omega

/-! ## Fractions -/

/-- A fraction with its point; it has at least one digit or is left out. -/
def fractionChars : List (Fin 10) → List Char
  | [] => []
  | digits => '.' :: digitChars digits

/-- Six digits: further ones are cut, and missing ones are zeros. -/
def sixDigits (digits : List (Fin 10)) : List (Fin 10) :=
  digits.take 6 ++ List.replicate (6 - digits.length) 0

/-- The microseconds of a fraction. -/
def fractionMicroseconds (digits : List (Fin 10)) : Nat :=
  digitsValue (digitChars (sixDigits digits))

theorem fractionChars_of_ne_nil {digits : List (Fin 10)} (h : digits ≠ []) :
    fractionChars digits = '.' :: digitChars digits := by
  obtain ⟨first, rest, rfl⟩ := List.exists_cons_of_ne_nil h
  rfl

theorem length_sixDigits (digits : List (Fin 10)) : (sixDigits digits).length = 6 := by
  rw [sixDigits, List.length_append, List.length_take, List.length_replicate]
  omega

theorem sixDigits_ne_nil (digits : List (Fin 10)) : sixDigits digits ≠ [] :=
  List.ne_nil_of_length_eq_add_one (length_sixDigits digits)

theorem sixDigits_of_length {digits : List (Fin 10)} (h : digits.length = 6) :
    sixDigits digits = digits := by
  rw [sixDigits, List.take_of_length_le h.le, h, Nat.sub_self, List.replicate_zero,
    List.append_nil]

theorem sixDigits_sixDigits (digits : List (Fin 10)) :
    sixDigits (sixDigits digits) = sixDigits digits := sixDigits_of_length (length_sixDigits digits)

/-- Digits after the sixth do not count. -/
theorem sixDigits_take (digits : List (Fin 10)) : sixDigits (digits.take 6) = sixDigits digits := by
  have hmissing : 6 - (digits.take 6).length = 6 - digits.length := by
    rw [List.length_take]
    omega
  rw [sixDigits, sixDigits, List.take_take, Nat.min_self, hmissing]

theorem fractionMicroseconds_lt (digits : List (Fin 10)) :
    fractionMicroseconds digits < 1000000 := by
  have hless := digitsValue_digitChars_lt (sixDigits digits)
  rwa [length_sixDigits] at hless

/-! ## Characters -/

/-- Characters that are digits or some marks. -/
def Spells (marks cs : List Char) : Prop := ∀ c ∈ cs, c.isDigit = true ∨ c ∈ marks

namespace Spells

variable {marks cs more : List Char} {c : Char}

theorem of_digits (h : ∀ c ∈ cs, c.isDigit = true) : Spells marks cs := fun c hc => .inl (h c hc)

theorem append (h : Spells marks cs) (hmore : Spells marks more) : Spells marks (cs ++ more) :=
  List.forall_mem_append.mpr ⟨h, hmore⟩

theorem mark (hmark : c ∈ marks) (h : Spells marks cs) : Spells marks (c :: cs) :=
  List.forall_mem_cons.mpr ⟨.inr hmark, h⟩

theorem mono {others : List Char} (h : Spells marks cs) (hmarks : marks ⊆ others) :
    Spells others cs := fun c hc => (h c hc).imp_right (@hmarks c)

/-- What digits and the marks have in common. -/
theorem all {P : Char → Prop} (h : Spells marks cs) (hdigit : ∀ c, c.isDigit = true → P c)
    (hmarks : marks.Forall P) : ∀ c ∈ cs, P c := by
  intro c hc
  rcases h c hc with hc | hc
  · exact hdigit c hc
  · exact List.forall_iff_forall_mem.mp hmarks c hc

end Spells

theorem spells_twoDigits {marks : List Char} {n : Nat} (h : n < 100) :
    Spells marks (twoDigits n) := .of_digits (isDigit_of_mem_twoDigits h)

theorem spells_fraction (digits : List (Fin 10)) : Spells ['.'] (fractionChars digits) := by
  cases digits with
  | nil => exact List.forall_mem_nil _
  | cons first rest => exact .mark (by simp) (.of_digits isDigit_of_mem_digitChars)

/-! ## Offsets -/

/-- What a written instant tells about its offset from UTC. -/
inductive Zone where
  | absent
  | zulu (capital : Bool)
  | offset (behind : Bool) (hours : Fin 24) (minutes : Fin 60)
  deriving DecidableEq, Repr

namespace Zone

def chars : Zone → List Char
  | absent => []
  | zulu capital => [if capital then 'Z' else 'z']
  | offset behind hours minutes =>
    (if behind then '-' else '+') :: (twoDigits hours ++ ':' :: twoDigits minutes)

/-- The minutes by which a place is ahead of UTC. -/
def minutesAhead : Zone → Int
  | offset behind hours minutes =>
    if behind then -(hours * 60 + minutes : Nat) else (hours * 60 + minutes : Nat)
  | _ => 0

/-- UTC as an offset in digits. -/
def utc : Zone := offset false 0 0

/-- The zone with its offset in digits, if it has one. -/
def expanded : Zone → Zone
  | zulu _ => utc
  | zone => zone

theorem minutesAhead_expanded (zone : Zone) : zone.expanded.minutesAhead = zone.minutesAhead := by
  cases zone <;> rfl

theorem spells_offset (behind : Bool) (hours : Fin 24) (minutes : Fin 60) :
    Spells ['+', '-', ':'] (Zone.offset behind hours minutes).chars := by
  have hdigits : Spells ['+', '-', ':'] (twoDigits hours ++ ':' :: twoDigits minutes) :=
    (spells_twoDigits (by omega)).append (.mark (by simp) (spells_twoDigits (by omega)))
  cases behind with
  | false => exact .mark (by simp) hdigits
  | true => exact .mark (by simp) hdigits

/-- Places are ahead of UTC, or behind it, by less than a day. -/
theorem minutesAhead_bounds (zone : Zone) :
    -1440 < zone.minutesAhead ∧ zone.minutesAhead < 1440 := by
  cases zone with
  | absent => decide
  | zulu capital => exact ⟨by simp [minutesAhead], by simp [minutesAhead]⟩
  | offset behind hours minutes =>
    have hhours := hours.isLt
    have hminutes := minutes.isLt
    cases behind with
    | false =>
      simp only [minutesAhead, Bool.false_eq_true, if_false]
      omega
    | true =>
      simp only [minutesAhead, if_true]
      omega

end Zone

/-! ## Instants -/

def Date.chars (date : Date) : List Char :=
  twoDigits (date.year / 100) ++ twoDigits (date.year % 100) ++ '-' :: twoDigits date.month ++
    '-' :: twoDigits date.day

theorem Date.spells_chars {date : Date} (h : date.IsValid) : Spells ['-'] date.chars := by
  obtain ⟨⟨-, hyear⟩, ⟨-, hmonth⟩, -, hday⟩ := Date.isValid_iff.mp h
  have hlength := Calendar.monthLength_le date.year date.month
  unfold Calendar.maxYear at hyear
  have hyearDigits : Spells ['-'] (twoDigits (date.year / 100) ++ twoDigits (date.year % 100)) :=
    (spells_twoDigits (by omega)).append (spells_twoDigits (by omega))
  have hmonthDigits : Spells ['-'] ('-' :: twoDigits date.month) :=
    .mark (by simp) (spells_twoDigits (by omega))
  have hdayDigits : Spells ['-'] ('-' :: twoDigits date.day) :=
    .mark (by simp) (spells_twoDigits (by omega))
  exact (hyearDigits.append hmonthDigits).append hdayDigits

/-- An instant as it is written. A fraction without digits is none. -/
structure WrittenInstant where
  date : Date
  hour : Fin 24
  minute : Fin 60
  second : Fin 60
  fraction : List (Fin 10)
  zone : Zone
  deriving DecidableEq, Repr

namespace WrittenInstant

/-- Hours, minutes and seconds. -/
def timeChars (written : WrittenInstant) : List Char :=
  twoDigits written.hour ++ ':' :: twoDigits written.minute ++ ':' :: twoDigits written.second

def clockChars (written : WrittenInstant) : List Char :=
  written.timeChars ++ fractionChars written.fraction

def chars (written : WrittenInstant) : List Char :=
  written.date.chars ++ 'T' :: written.clockChars ++ written.zone.chars

/-- The text of a written instant. -/
def text (written : WrittenInstant) : String := String.ofList written.chars

/-- The minutes after midnight, UTC. They may lie outside of the day. -/
def utcMinutes (written : WrittenInstant) : Int :=
  written.hour * 60 + written.minute - written.zone.minutesAhead

/-- **The UTC form**: the offset is subtracted, with a carry to the date
after or before, and the fraction has six digits. -/
def utc (written : WrittenInstant) : WrittenInstant where
  date :=
    if written.utcMinutes < 0 then written.date.previous
    else if written.utcMinutes < 1440 then written.date
    else written.date.next
  hour := ⟨(written.utcMinutes % 1440 / 60).toNat, by omega⟩
  minute := ⟨(written.utcMinutes % 60).toNat, by omega⟩
  second := written.second
  fraction := sixDigits written.fraction
  zone := .utc

/-- The instant with six digits in its fraction and its offset in digits, if
it has them. -/
def edited (written : WrittenInstant) : WrittenInstant :=
  { written with
    fraction := if written.fraction = [] then [] else sixDigits written.fraction
    zone := written.zone.expanded }

/-- The instant in microseconds since the Unix epoch. -/
def microseconds (written : WrittenInstant) : Int :=
  ((((written.date.number : Int) - Calendar.epochDay) * 1440 + written.utcMinutes) * 60 +
    written.second) * 1000000 + fractionMicroseconds written.fraction

variable {written : WrittenInstant}

theorem spells_time (written : WrittenInstant) : Spells [':'] written.timeChars := by
  have hhour : Spells [':'] (twoDigits written.hour) := spells_twoDigits (by omega)
  have hminute : Spells [':'] (':' :: twoDigits written.minute) :=
    .mark (by simp) (spells_twoDigits (by omega))
  have hsecond : Spells [':'] (':' :: twoDigits written.second) :=
    .mark (by simp) (spells_twoDigits (by omega))
  exact (hhour.append hminute).append hsecond

theorem spells_clock (written : WrittenInstant) : Spells [':', '.'] written.clockChars :=
  ((spells_time written).mono (by simp)).append ((spells_fraction written.fraction).mono (by simp))

/-! ## The UTC form -/

theorem utcMinutes_bounds (written : WrittenInstant) :
    -1440 < written.utcMinutes ∧ written.utcMinutes < 2880 := by
  have hzone := written.zone.minutesAhead_bounds
  have hhour := written.hour.isLt
  have hminute := written.minute.isLt
  simp only [utcMinutes]
  omega

theorem utcMinutes_utc (written : WrittenInstant) :
    written.utc.utcMinutes = written.utcMinutes % 1440 := by
  have hoffset : Zone.utc.minutesAhead = 0 := rfl
  simp only [utcMinutes, utc, hoffset]
  omega

/-- The date of the UTC form makes up for the minutes outside of the day. -/
theorem number_utc (hdate : written.date.IsValid) (hutc : written.utc.date.IsValid) :
    (written.utc.date.number : Int) * 1440 + written.utcMinutes % 1440 =
      written.date.number * 1440 + written.utcMinutes := by
  obtain ⟨hlow, hhigh⟩ := written.utcMinutes_bounds
  simp only [utc] at hutc ⊢
  split
  · -- the offset borrows from the day before
    rename_i hnegative
    rw [if_pos hnegative] at hutc
    have hnumber := Date.number_previous hdate hutc
    omega
  split
  · omega
  · -- the offset carries to the next day
    have hnumber := Date.number_next hdate
    omega

/-- **The UTC form** names the same instant. -/
theorem microseconds_utc (hdate : written.date.IsValid) (hutc : written.utc.date.IsValid) :
    written.utc.microseconds = written.microseconds := by
  have hnumber := number_utc hdate hutc
  have hsecond : written.utc.second = written.second := rfl
  have hfraction : fractionMicroseconds written.utc.fraction =
      fractionMicroseconds written.fraction := by
    simp only [utc, fractionMicroseconds, sixDigits_sixDigits]
  simp only [microseconds, utcMinutes_utc, hsecond, hfraction]
  omega

theorem microseconds_edited (written : WrittenInstant) :
    written.edited.microseconds = written.microseconds := by
  have hfraction : fractionMicroseconds written.edited.fraction =
      fractionMicroseconds written.fraction := by
    simp only [edited]
    split
    · rename_i hnone
      rw [hnone]
    · rw [fractionMicroseconds, fractionMicroseconds, sixDigits_sixDigits]
  have hminutes : written.edited.utcMinutes = written.utcMinutes := by
    simp only [utcMinutes, edited, Zone.minutesAhead_expanded]
  simp only [microseconds, hfraction, hminutes]
  rfl

theorem microseconds_fraction {digits : List (Fin 10)}
    (h : digits.take 6 = written.fraction.take 6) :
    { written with fraction := digits : WrittenInstant }.microseconds = written.microseconds := by
  have hfraction : fractionMicroseconds digits = fractionMicroseconds written.fraction := by
    rw [fractionMicroseconds, ← sixDigits_take, h, sixDigits_take, fractionMicroseconds]
  simp only [microseconds, hfraction]
  rfl

/-- The instants of the calendar are near to the epoch. -/
theorem natAbs_microseconds_lt (hdate : written.date.IsValid) :
    written.microseconds.natAbs < 2 ^ 60 := by
  have hdays := Date.number_le hdate
  have hmax : Calendar.maxDayNumber = 3652059 := by decide
  have hepoch : Calendar.epochDay = 719163 := by decide
  have hminutes := written.utcMinutes_bounds
  have hsecond := written.second.isLt
  have hfraction := fractionMicroseconds_lt written.fraction
  simp only [microseconds]
  omega

end WrittenInstant

end AlertConformance
