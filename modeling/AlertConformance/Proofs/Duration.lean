/-
AlertConformance.Proofs.Duration — durations in text can be read.

A duration is written as counts of units without anything between them, so
where a part ends is for the reader to find: a part is digits and then all
that comes before the next digit. `ms` is therefore one unit and never a
minute before a second. The counts come in the order of the units, which
gives them the meaning of digits in a mixed radix, and the last unit leaves
nothing over.

* `IsCount`, `CountsUnits` — what a written duration looks like.
* `readDuration?` — how the engine reads one.
* `splitBy_flatMap_partText` — the parts of a written duration are found.
* `lengthOf?_durationParts` — the counts of units add up.
* `readDuration?_durationText` — reading undoes writing.
* `formatDuration_decodable` — all of it together.
-/
import AlertConformance.Duration
import AlertConformance.Proofs.Numeric.Decimal
import Mathlib.Data.List.SplitBy

namespace AlertConformance

/-! ## Written durations -/

/-- A positive count in decimal, without leading zeros. -/
structure IsCount (digits : List Char) : Prop where
  isDigit : ∀ c ∈ digits, c.isDigit = true
  leads : ∃ first ∈ digits.head?, first ≠ '0'

/-- A text of counts with their units, the units in order of their lengths
and each at most once. -/
def CountsUnits (text : String) : Prop :=
  ∃ parts : List (List Char × String), parts ≠ [] ∧
    text.toList = parts.flatMap (fun part => part.1 ++ part.2.toList) ∧
    (∀ part ∈ parts, IsCount part.1) ∧
    (parts.map Prod.snd).Sublist ["y", "w", "d", "h", "m", "s", "ms"]

/-! ## Reading -/

/-- The units of the engine in milliseconds: years of 365 days, weeks of
seven days and days of 24 hours. -/
def engineUnits : List (String × Nat) :=
  let hour := 60 * 60 * 1000
  let day := 24 * hour
  [("y", 365 * day), ("w", 7 * day), ("d", day), ("h", hour), ("m", 60 * 1000), ("s", 1000),
    ("ms", 1)]

/-- Whether a character and the next one belong to one part: a part ends
where a digit comes after something else. -/
def staysInPart (c next : Char) : Bool := c.isDigit || !next.isDigit

/-- The count and the unit of a part. -/
def readPart? (part : List Char) : Option (Nat × String) :=
  let digits := part.takeWhile Char.isDigit
  let unit := part.dropWhile Char.isDigit
  if digits.isEmpty || unit.isEmpty then none else some (digitsValue digits, String.ofList unit)

/-- The length of counted units that come in the order of a table, each at
most once. -/
def lengthOf? : List (Nat × String) → List (String × Nat) → Option Nat
  | [], _ => some 0
  | _ :: _, [] => none
  | (count, unit) :: parts, (name, size) :: smaller =>
    if unit = name then (lengthOf? parts smaller).map (count * size + ·)
    else lengthOf? ((count, unit) :: parts) smaller

/-- The duration that a text holds for the engine. -/
def readDuration? (text : String) : Option Nat :=
  if text = "" then none
  else ((text.toList.splitBy staysInPart).mapM readPart?).bind (lengthOf? · engineUnits)

/-! ## Counts -/

theorem head?_toDigits {n : Nat} (hn : 0 < n) :
    ∃ first ∈ (Nat.toDigits 10 n).head?, first ≠ '0' := by
  induction n using Nat.strongRecOn with
  | ind n ih =>
    by_cases hsmall : n < 10
    · refine ⟨Nat.digitChar n, ?_, ?_⟩
      · simp [Nat.toDigits_of_lt_base hsmall]
      · intro hzero
        have hvalue := Nat.toNat_digitChar_of_lt_ten hsmall
        rw [hzero] at hvalue
        simp at hvalue
        omega
    · have hlarge : 0 < n / 10 := by omega
      obtain ⟨first, hfirst, hne⟩ := ih (n / 10) (by omega) hlarge
      refine ⟨first, ?_, hne⟩
      have hdigits := Nat.toDigits_append_toDigits (b := 10) (d := n % 10) (by decide) hlarge
        (Nat.mod_lt n (by decide))
      rw [Nat.div_add_mod] at hdigits
      rw [← hdigits, List.head?_append, hfirst]
      rfl

theorem isCount_toDigits {n : Nat} (hn : 0 < n) : IsCount (Nat.toDigits 10 n) where
  isDigit _ hc := Nat.isDigit_of_mem_toDigits (by decide) (by decide) hc
  leads := head?_toDigits hn

/-! ## Parts -/

/-- The text of a count and its unit. -/
def partText (part : Nat × String) : List Char := Nat.toDigits 10 part.1 ++ part.2.toList

/-- A unit can be told from the counts around it. -/
def StandsApart (unit : String) : Prop :=
  unit.toList ≠ [] ∧ ∀ c ∈ unit.toList, c.isDigit = false

theorem partText_ne_nil (part : Nat × String) : partText part ≠ [] := by
  simp [partText, Nat.toDigits_ne_nil]

theorem readPart?_partText {part : Nat × String} (hunit : StandsApart part.2) :
    readPart? (partText part) = some part := by
  obtain ⟨count, unit⟩ := part
  obtain ⟨hne, hletters⟩ := hunit
  have hdigits : ∀ c ∈ Nat.toDigits 10 count, c.isDigit = true :=
    fun c hc => Nat.isDigit_of_mem_toDigits (by decide) (by decide) hc
  have hstops : unit.toList.takeWhile Char.isDigit = [] ∧
      unit.toList.dropWhile Char.isDigit = unit.toList := by
    cases hunit : unit.toList with
    | nil => exact ⟨rfl, rfl⟩
    | cons first rest =>
      have hfirst : first.isDigit = false := hletters first (by simp [hunit])
      simp [hfirst]
  simp [readPart?, partText, List.takeWhile_append_of_pos hdigits,
    List.dropWhile_append_of_pos hdigits, hstops, hne, Nat.toDigits_ne_nil, digitsValue_toDigits]

/-- No part ends inside of a part. -/
theorem isChain_partText {part : Nat × String} (hunit : StandsApart part.2) :
    (partText part).IsChain fun c next => staysInPart c next = true := by
  apply List.Pairwise.isChain
  rw [partText, List.pairwise_append]
  refine ⟨?_, ?_, ?_⟩
  · apply List.pairwise_of_forall_mem_list
    intro c hc next _
    simp [staysInPart, Nat.isDigit_of_mem_toDigits (by decide) (by decide) hc]
  · apply List.pairwise_of_forall_mem_list
    intro c _ next hnext
    simp [staysInPart, hunit.2 next hnext]
  · intro c hc next _
    simp [staysInPart, Nat.isDigit_of_mem_toDigits (by decide) (by decide) hc]

/-- A part ends before each other part. -/
theorem staysInPart_eq_false {part later : Nat × String} (hunit : StandsApart part.2) :
    staysInPart ((partText part).getLast (partText_ne_nil part))
      ((partText later).head (partText_ne_nil later)) = false := by
  have hlast : ((partText part).getLast (partText_ne_nil part)).isDigit = false := by
    simp only [partText, List.getLast_append_of_ne_nil _ hunit.1]
    exact hunit.2 _ (List.getLast_mem hunit.1)
  have hhead : ((partText later).head (partText_ne_nil later)).isDigit = true := by
    simp only [partText, List.head_append_of_ne_nil Nat.toDigits_ne_nil]
    exact Nat.isDigit_of_mem_toDigits (by decide) (by decide) (List.head_mem _)
  simp [staysInPart, hlast, hhead]

/-- **The parts** of a written duration are found. -/
theorem splitBy_flatMap_partText {parts : List (Nat × String)}
    (hunits : ∀ part ∈ parts, StandsApart part.2) :
    (parts.flatMap partText).splitBy staysInPart = parts.map partText := by
  rw [List.flatMap_def]
  apply List.splitBy_flatten
  · intro hmem
    obtain ⟨part, -, hnil⟩ := List.mem_map.mp hmem
    exact partText_ne_nil part hnil
  · intro text hmem
    obtain ⟨part, hpart, rfl⟩ := List.mem_map.mp hmem
    exact isChain_partText (hunits part hpart)
  · apply List.Pairwise.isChain
    apply List.pairwise_of_forall_mem_list
    intro text htext next hnext
    obtain ⟨part, hpart, rfl⟩ := List.mem_map.mp htext
    obtain ⟨later, -, rfl⟩ := List.mem_map.mp hnext
    exact ⟨partText_ne_nil part, partText_ne_nil later, staysInPart_eq_false (hunits part hpart)⟩

theorem mapM_readPart? {parts : List (Nat × String)}
    (hunits : ∀ part ∈ parts, StandsApart part.2) :
    (parts.map partText).mapM readPart? = some parts := by
  induction parts with
  | nil => rfl
  | cons part parts ih =>
    obtain ⟨hpart, hparts⟩ := List.forall_mem_cons.mp hunits
    simp [List.mapM_cons, readPart?_partText hpart, ih hparts]

/-! ## Lengths -/

theorem pos_of_mem_durationParts {duration : Nat} {table : List (String × Nat)}
    {part : Nat × String} (h : part ∈ durationParts duration table) : 0 < part.1 := by
  induction table generalizing duration with
  | nil => simp [durationParts] at h
  | cons entry smaller ih =>
    obtain ⟨unit, size⟩ := entry
    simp only [durationParts] at h
    split at h
    · exact ih h
    · rename_i hcount
      rcases List.mem_cons.mp h with rfl | hrest
      · exact Nat.pos_of_ne_zero hcount
      · exact ih hrest

/-- No count is larger than the duration, so a duration whose number can be
written can be written in units. -/
theorem isWritable_of_mem_durationParts {duration : Nat} {table : List (String × Nat)}
    {part : Nat × String} (hduration : isWritable duration = true)
    (h : part ∈ durationParts duration table) : isWritable part.1 = true := by
  induction table generalizing duration with
  | nil => simp [durationParts] at h
  | cons entry smaller ih =>
    obtain ⟨unit, size⟩ := entry
    have hrest : isWritable (duration % size : Nat) = true :=
      isWritable_of_le (Nat.mod_le _ _) hduration
    simp only [durationParts] at h
    split at h
    · exact ih hrest h
    · rcases List.mem_cons.mp h with rfl | h
      · exact isWritable_of_le (Nat.div_le_self _ _) hduration
      · exact ih hrest h

/-- The units of a duration come in the order of the table. -/
theorem units_durationParts (duration : Nat) (table : List (String × Nat)) :
    ((durationParts duration table).map Prod.snd).Sublist (table.map Prod.fst) := by
  induction table generalizing duration with
  | nil => simp [durationParts]
  | cons entry smaller ih =>
    obtain ⟨unit, size⟩ := entry
    simp only [durationParts]
    split
    · exact (ih _).cons unit
    · exact (ih _).cons_cons unit

/-- A unit that does not come is passed over. -/
theorem lengthOf?_cons_of_notMem {parts : List (Nat × String)} {name : String}
    (h : name ∉ parts.map Prod.snd) (size : Nat) (table : List (String × Nat)) :
    lengthOf? parts ((name, size) :: table) = lengthOf? parts table := by
  cases parts with
  | nil => simp [lengthOf?]
  | cons part parts =>
    obtain ⟨count, unit⟩ := part
    have hne : unit ≠ name := by
      rintro rfl
      simp at h
    rw [lengthOf?, if_neg hne]

/-- What is left of a duration when all units of a table are counted. -/
def leftOver (duration : Nat) (table : List (String × Nat)) : Nat :=
  table.foldl (fun remaining entry => remaining % entry.2) duration

/-- **The counts add up** to the duration, less what no unit counts. -/
theorem lengthOf?_durationParts (duration : Nat) (table : List (String × Nat))
    (hnames : (table.map Prod.fst).Nodup) :
    ∃ length, lengthOf? (durationParts duration table) table = some length ∧
      length + leftOver duration table = duration := by
  induction table generalizing duration with
  | nil => exact ⟨0, rfl, by simp [leftOver]⟩
  | cons entry smaller ih =>
    obtain ⟨unit, size⟩ := entry
    obtain ⟨hfresh, hnames⟩ := List.nodup_cons.mp hnames
    obtain ⟨length, hlength, hsum⟩ := ih (duration % size) hnames
    have hleft : leftOver duration ((unit, size) :: smaller) = leftOver (duration % size) smaller :=
      rfl
    have hdivision := Nat.div_add_mod' duration size
    rw [hleft]
    simp only [durationParts]
    split
    · rename_i hcount
      refine ⟨length, ?_, ?_⟩
      · rw [lengthOf?_cons_of_notMem, hlength]
        exact fun hmem => hfresh ((units_durationParts _ _).subset hmem)
      · rw [hcount] at hdivision
        omega
    · refine ⟨duration / size * size + length, ?_, by omega⟩
      rw [lengthOf?, if_pos rfl, hlength, Option.map_some]

/-! ## Texts -/

theorem toList_durationText {duration : Nat} (h : duration ≠ 0) :
    (durationText duration).toList = (durationParts duration durationUnits).flatMap partText := by
  rw [durationText, if_neg h, String.toList_join, List.flatMap_map]
  congr 1
  funext part
  simp [partText, toString]

theorem standsApart_of_mem_durationParts {duration : Nat} {part : Nat × String}
    (h : part ∈ durationParts duration durationUnits) : StandsApart part.2 := by
  have hunits : ∀ unit ∈ durationUnits.map Prod.fst, StandsApart unit := by
    simp [durationUnits, StandsApart]
  exact hunits part.2 ((units_durationParts duration durationUnits).subset (List.mem_map_of_mem h))

/-- No duration is left over: the last unit is the millisecond. -/
theorem lengthOf?_engineUnits (duration : Nat) :
    lengthOf? (durationParts duration durationUnits) engineUnits = some duration := by
  have hunits : engineUnits = durationUnits := rfl
  obtain ⟨length, hlength, hsum⟩ := lengthOf?_durationParts duration durationUnits (by decide)
  have hleft : leftOver duration durationUnits = 0 := by
    simp [leftOver, durationUnits, Nat.mod_one]
  rw [hunits, hlength]
  simp
  omega

theorem durationParts_ne_nil {duration : Nat} (h : duration ≠ 0) :
    durationParts duration durationUnits ≠ [] := by
  intro hnil
  have hlength := lengthOf?_engineUnits duration
  rw [hnil, lengthOf?] at hlength
  exact h (Option.some.inj hlength).symm

theorem countsUnits_durationText {duration : Nat} (h : duration ≠ 0) :
    CountsUnits (durationText duration) := by
  refine ⟨(durationParts duration durationUnits).map fun part => (Nat.toDigits 10 part.1, part.2),
    ?_, ?_, ?_, ?_⟩
  · simp [durationParts_ne_nil h]
  · rw [toList_durationText h, List.flatMap_map]
    rfl
  · intro part hpart
    obtain ⟨counted, hcounted, rfl⟩ := List.mem_map.mp hpart
    exact isCount_toDigits (pos_of_mem_durationParts hcounted)
  · rw [List.map_map]
    exact units_durationParts duration durationUnits

/-- **Reading undoes writing**, for every duration. -/
theorem readDuration?_durationText (duration : Nat) :
    readDuration? (durationText duration) = some duration := by
  by_cases hzero : duration = 0
  · subst hzero
    decide
  · have hunits : ∀ part ∈ durationParts duration durationUnits, StandsApart part.2 :=
      fun part hpart => standsApart_of_mem_durationParts hpart
    have htext : durationText duration ≠ "" := by
      obtain ⟨part, parts, hparts⟩ := List.exists_cons_of_ne_nil (durationParts_ne_nil hzero)
      rw [ne_eq, ← String.toList_inj, toList_durationText hzero, hparts]
      simp [partText_ne_nil]
    rw [readDuration?, if_neg htext, toList_durationText hzero,
      splitBy_flatMap_partText hunits, mapM_readPart? hunits, Option.bind_some,
      lengthOf?_engineUnits]

/-- Two durations have different texts. -/
theorem durationText_injective : Function.Injective durationText := by
  intro duration other h
  have hread := readDuration?_durationText duration
  rw [h, readDuration?_durationText other] at hread
  exact (Option.some.inj hread).symm

theorem formatDuration_natCast (duration : Nat) :
    formatDuration duration = .ok (durationText duration) := by
  rw [formatDuration, if_neg (by omega), Int.toNat_natCast]

/-- **Durations can be decoded**: the text of a duration that is not negative
is not empty, counts units in their order, is `0s` for no duration but zero,
and is read as the duration that it was written for. So no two durations
have one text. -/
theorem formatDuration_decodable (duration : Nat) :
    ∃ text, formatDuration duration = .ok text ∧ text ≠ "" ∧
      (text = "0s" ↔ duration = 0) ∧ (text = "0s" ∨ CountsUnits text) ∧
      readDuration? text = some duration ∧
      ∀ other : Nat, formatDuration other = .ok text ↔ other = duration := by
  have hread := readDuration?_durationText duration
  have hzero : durationText 0 = "0s" := rfl
  refine ⟨durationText duration, formatDuration_natCast duration, ?_, ?_, ?_, hread, ?_⟩
  · intro hempty
    simp [hempty, readDuration?] at hread
  · rw [← hzero]
    exact durationText_injective.eq_iff
  · by_cases h : duration = 0
    · left
      rw [h, hzero]
    · right
      exact countsUnits_durationText h
  · intro other
    rw [formatDuration_natCast, Except.ok.injEq]
    exact durationText_injective.eq_iff

/-- Minutes before milliseconds, and a unit of two letters. -/
example : (formatDuration 60500).toOption = some "1m500ms" ∧
    readDuration? "1m500ms" = some 60500 := by decide

end AlertConformance
