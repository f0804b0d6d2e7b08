/-
AlertConformance.Proofs.Payload.Escapes — which payloads of the engine
make a parser fail with something else than a fault of the payload.

A parser should give the records of a payload or tell what is wrong with
it. Some values make it fail in another way. A number or `true` in the
place of a list is iterated, an integer that no double is near is
converted, and a time without end is rounded; and a value without a text
can neither be taken as one nor be quoted by a fault. The parsers stop at
the first error, so such a value escapes exactly when all that is read
before it is in order.

* `Escapes` — a step fails with an error that is no fault of the payload.
* `escapes_bind_iff`, `escapes_mapM_iff` — which step of a sequence does.
* `Unlisted`, `Huge`, `Endless` — values that escape, besides those without
  a text.
* `BreaksAlert`, `BreaksRule`, `BreaksGroup`, `BreaksSample` — the entries
  that have one, and `BreaksEnvelope` the envelopes.
* `parsers_escape_iff` — the payloads that have one.
* `not_escapes_alerts` — a payload with a text is read as alerts without an
  escape.
-/
import AlertConformance.Payload.Engine
import AlertConformance.Proofs.Checked
import AlertConformance.Proofs.Json.Shown
import AlertConformance.Proofs.Numeric.Range

namespace AlertConformance

/-! ## Steps -/

section Steps

variable {α β : Type}

/-- A step fails with an error that is no fault of the payload. -/
def Escapes (step : Result α) : Prop :=
  ∃ error, step = .error error ∧ ∀ fault, error ≠ .response fault

@[simp] theorem not_escapes_ok (a : α) : ¬ Escapes (.ok a : Result α) :=
  fun ⟨_, h, _⟩ => nomatch h

@[simp] theorem not_escapes_response (fault : ResponseFault) :
    ¬ Escapes (.error (.response fault) : Result α) :=
  fun ⟨_, h, hother⟩ => hother fault (Except.error.inj h).symm

/-- A step that does not escape has a result, or tells what is wrong. -/
theorem not_escapes_iff {step : Result α} :
    ¬ Escapes step ↔ (∃ a, step = .ok a) ∨ ∃ fault, step = .error (.response fault) := by
  constructor
  · intro h
    cases step with
    | ok a => exact .inl ⟨a, rfl⟩
    | error error =>
      by_contra hnone
      exact h ⟨error, rfl, fun fault heq => hnone (.inr ⟨fault, by rw [heq]⟩)⟩
  · rintro (⟨a, rfl⟩ | ⟨fault, rfl⟩)
    · exact not_escapes_ok a
    · exact not_escapes_response fault

@[simp] theorem escapes_notASequence : Escapes (.error .notASequence : Result α) :=
  ⟨_, rfl, nofun⟩

@[simp] theorem escapes_numberTooLarge : Escapes (.error .numberTooLarge : Result α) :=
  ⟨_, rfl, nofun⟩

/-- Whether a step escapes, by its error. -/
def escapes : Result α → Bool
  | .ok _ | .error (.response _) => false
  | .error _ => true

theorem escapes_iff {step : Result α} : escapes step = true ↔ Escapes step := by
  cases step with
  | ok a => simp [escapes]
  | error error =>
    cases error with
    | response fault => simp [escapes]
    | _ => exact iff_of_true rfl ⟨_, rfl, nofun⟩

instance (step : Result α) : Decidable (Escapes step) := decidable_of_iff _ escapes_iff

/-- Of two steps the first one escapes, or it succeeds and the second one
does. -/
theorem escapes_bind_iff {step : Result α} {next : α → Result β} :
    Escapes (step >>= next) ↔ Escapes step ∨ ∃ a, step = .ok a ∧ Escapes (next a) := by
  cases step with
  | error error =>
    constructor
    · rintro ⟨other, h, hother⟩
      exact .inl ⟨other, congrArg Except.error (Except.error.inj h), hother⟩
    · rintro (⟨other, h, hother⟩ | ⟨a, h, -⟩)
      · exact ⟨other, congrArg Except.error (Except.error.inj h), hother⟩
      · cases h
  | ok a =>
    constructor
    · exact fun h => .inr ⟨a, rfl, h⟩
    · rintro (h | ⟨b, h, hnext⟩)
      · exact absurd h (not_escapes_ok a)
      · rwa [← Except.ok.inj h] at hnext

/-- A last step escapes by itself: what is made of its result does not, … -/
theorem escapes_bind_pure_iff {step : Result α} {f : α → β} :
    Escapes (step >>= fun a => pure (f a)) ↔ Escapes step := by
  rw [escapes_bind_iff, or_iff_left]
  rintro ⟨a, -, h⟩
  exact not_escapes_ok _ h

/-- … and neither does a fault that quotes it. -/
theorem escapes_bind_throw_iff {step : Result α} {fault : α → ResponseFault} :
    Escapes (step >>= fun a => throw (.response (fault a)) : Result β) ↔ Escapes step := by
  rw [escapes_bind_iff, or_iff_left]
  rintro ⟨a, -, h⟩
  exact not_escapes_response _ h

/-- Some element has a property, and all elements before it can be
read. -/
def Meets (read : α → Result β) (property : α → Prop) (xs : List α) : Prop :=
  ∃ before x after, xs = before ++ x :: after ∧ (∀ y ∈ before, ∃ z, read y = .ok z) ∧ property x

theorem meets_cons_iff {read : α → Result β} {property : α → Prop} {x : α} {xs : List α} :
    Meets read property (x :: xs) ↔
      property x ∨ (∃ z, read x = .ok z) ∧ Meets read property xs := by
  constructor
  · rintro ⟨before, y, after, heq, hread, hy⟩
    cases before with
    | nil =>
      obtain ⟨rfl, -⟩ := List.cons.inj heq
      exact .inl hy
    | cons first before =>
      obtain ⟨rfl, hrest⟩ := List.cons.inj heq
      obtain ⟨hfirst, hbefore⟩ := List.forall_mem_cons.mp hread
      exact .inr ⟨hfirst, before, y, after, hrest, hbefore, hy⟩
  · rintro (hx | ⟨hx, before, y, after, rfl, hread, hy⟩)
    · exact ⟨[], x, xs, rfl, nofun, hx⟩
    · exact ⟨x :: before, y, after, rfl, List.forall_mem_cons.mpr ⟨hx, hread⟩, hy⟩

/-- A first step that succeeds or escapes does not hide what follows it. -/
theorem escapes_bind_iff_or {step : Result α} {next : α → Result β} {Rest : Prop}
    (hstep : Escapes step ∨ ∃ a, step = .ok a) (hnext : ∀ a, Escapes (next a) ↔ Rest) :
    Escapes (step >>= next) ↔ Escapes step ∨ Rest := by
  rw [escapes_bind_iff]
  simp only [hnext, exists_and_right]
  exact ⟨fun h => h.imp_right And.right,
    fun h => h.elim .inl fun hrest => hstep.imp_right fun hok => ⟨hok, hrest⟩⟩

/-- Of the steps for the elements of a list one escapes, after all before
it succeeded. -/
theorem escapes_mapM_iff {read : α → Result β} {xs : List α} :
    Escapes (xs.mapM read) ↔ Meets read (fun x => Escapes (read x)) xs := by
  induction xs with
  | nil =>
    constructor
    · exact fun h => absurd h (not_escapes_ok [])
    · rintro ⟨before, x, after, h, -⟩
      simp at h
  | cons x xs ih =>
    rw [List.mapM_cons, escapes_bind_iff, meets_cons_iff, ← ih]
    refine or_congr_right ⟨?_, ?_⟩
    · rintro ⟨z, hz, h⟩
      rcases escapes_bind_iff.mp h with h | ⟨zs, -, h⟩
      · exact ⟨⟨z, hz⟩, h⟩
      · exact absurd h (not_escapes_ok _)
    · rintro ⟨⟨z, hz⟩, h⟩
      exact ⟨z, hz, escapes_bind_iff.mpr (.inl h)⟩

/-- Steps that succeed or escape: one of them escapes. -/
theorem escapes_mapM_iff_exists {read : α → Result β} {xs : List α}
    (h : ∀ x, Escapes (read x) ∨ ∃ z, read x = .ok z) :
    Escapes (xs.mapM read) ↔ ∃ x ∈ xs, Escapes (read x) := by
  rw [escapes_mapM_iff]
  induction xs with
  | nil =>
    refine iff_of_false ?_ (by simp)
    rintro ⟨before, x, after, heq, -⟩
    simp at heq
  | cons x xs ih =>
    rw [meets_cons_iff, List.exists_mem_cons_iff, ih]
    refine ⟨fun hx => hx.imp_right And.right, ?_⟩
    rintro (hx | hrest)
    · exact .inl hx
    · exact (h x).imp_right fun hread => ⟨hread, hrest⟩

end Steps

namespace Payload

variable {members : List (Text × Json)} {value : Json}

/-! ## Values that escape -/

/-- A value that is iterated although it has no items: `true`, and every
number but zero. -/
def Unlisted : Json → Prop
  | .bool value => value = true
  | .int value => value ≠ 0
  | .real value => value.equal 0 = false
  | _ => False

/-- An integer that no finite double is near. -/
def Huge : Json → Prop
  | .int value => (Binary64.ofInt value).isFinite = false
  | _ => False

theorem not_escapes_object (context : String) (value : Json) :
    ¬ Escapes (object context value) := by
  cases value <;> simp [object]

theorem object_eq_ok_iff {context : String} : object context value = .ok members ↔
    value = .object members := by
  cases value <;> simp [object]

theorem escapes_object_bind_iff {α : Type} {context : String}
    {next : List (Text × Json) → Result α} : Escapes (object context value >>= next) ↔
      ∃ members, value = .object members ∧ Escapes (next members) := by
  rw [escapes_bind_iff, or_iff_right (not_escapes_object _ _)]
  simp only [object_eq_ok_iff]

theorem escapes_items_iff : Escapes (items value) ↔ Unlisted value := by
  cases value with
  | bool value => cases value <;> simp [items, Json.isVacant, Unlisted]
  | int value =>
    by_cases h : value = 0 <;> simp [items, Json.isVacant, Unlisted, h]
  | real value =>
    cases h : value.equal 0 <;> simp [items, Json.isVacant, Unlisted, h]
  | null => simp [items, Json.isVacant, Unlisted]
  | text | array | object =>
    simp only [items, Unlisted, iff_false]
    split <;> exact not_escapes_ok _

theorem ofInt?_eq_none_iff {value : Int} :
    Binary64.ofInt? value = none ↔ (Binary64.ofInt value).isFinite = false := by
  unfold Binary64.ofInt?
  cases Binary64.ofInt value <;> simp [Binary64.isFinite]

theorem roundToInt?_eq_none_iff {x : Binary64} : x.roundToInt? = none ↔ x.isFinite = false := by
  cases x <;> simp [Binary64.roundToInt?, Binary64.isFinite]

theorem escapes_ofTextFault {α : Type} (fault : TextFault) :
    Escapes (.error (.ofTextFault fault) : Result α) := by
  cases fault <;> exact ⟨_, rfl, nofun⟩

/-! ## The list of a page -/

theorem pageItems_eq_ok_iff {page array : String} {entries : List Json} :
    pageItems page array members = .ok entries ↔ Json.member array members = .array entries := by
  unfold pageItems
  cases Json.member array members <;> simp

theorem not_escapes_pageItems (page array : String) (members : List (Text × Json)) :
    ¬ Escapes (pageItems page array members) := by
  unfold pageItems
  cases Json.member array members <;> simp

/-- A page escapes with its entries. -/
theorem escapes_page_iff {α : Type} {page array : String} {read : Json → Result α} :
    Escapes (pageItems page array members >>= (List.mapM read ·)) ↔
      ∃ entries, Json.member array members = .array entries ∧
        Meets read (fun entry => Escapes (read entry)) entries := by
  rw [escapes_bind_iff, or_iff_right (not_escapes_pageItems _ _ _)]
  simp only [pageItems_eq_ok_iff, escapes_mapM_iff]

/-- The entries of a list that may be no list are read, and then something
else. -/
theorem escapes_entries_bind_iff {α β : Type} {read : Json → Result α} {Breaks : Json → Prop}
    (hread : ∀ entry, Escapes (read entry) ↔ Breaks entry) {next : List α → Result β}
    {Rest : Prop} (hnext : ∀ found, Escapes (next found) ↔ Rest) :
    Escapes (do
      let found ← (← items value).mapM read
      next found) ↔
    Unlisted value ∨ ∃ entries, items value = .ok entries ∧
      (Meets read Breaks entries ∨ (∀ entry ∈ entries, ∃ found, read entry = .ok found) ∧ Rest) := by
  rw [escapes_bind_iff, escapes_items_iff]
  refine or_congr_right (exists_congr fun entries => and_congr_right fun _ => ?_)
  rw [escapes_bind_iff, escapes_mapM_iff]
  simp only [hread, hnext, exists_and_right]
  refine or_congr_right (and_congr_left fun _ => ?_)
  exact ⟨fun ⟨_, hfound⟩ entry hmem => exists_eq_ok_of_mapM hfound hmem, exists_mapM_eq_ok⟩

section Fields

variable [NestingLimits]

/-! ## Values as text -/

theorem exists_text_iff : (∃ words, text value = .ok words) ↔ value.HasText := by
  rw [← Json.exists_asText_iff, text]
  cases value.asText <;> simp [Except.mapError]

/-- A value without a text escapes as text, … -/
theorem escapes_text_iff : Escapes (text value) ↔ ¬ value.HasText := by
  rw [← Json.exists_asText_iff, text]
  cases value.asText with
  | ok words => exact iff_of_false (not_escapes_ok words) (not_not_intro ⟨words, rfl⟩)
  | error fault => exact iff_of_true (escapes_ofTextFault fault) (by simp)

theorem escapes_shown_iff : Escapes (shown value) ↔ ¬ value.HasText := by
  rw [← Json.exists_shown_iff, shown]
  cases value.shown with
  | ok words => exact iff_of_false (not_escapes_ok words) (not_not_intro ⟨words, rfl⟩)
  | error fault => exact iff_of_true (escapes_ofTextFault fault) (by simp)

/-- … and so does it when it is refused. -/
theorem escapes_refuse_iff {α : Type} {fault : String → ResponseFault} :
    Escapes (refuse fault value : Result α) ↔ ¬ value.HasText := by
  rw [refuse, escapes_bind_throw_iff, escapes_shown_iff]

theorem refuse_ne_ok {α : Type} {fault : String → ResponseFault} {a : α} :
    refuse fault value ≠ .ok a := by
  intro h
  obtain ⟨words, -, h⟩ := bind_eq_ok_iff.mp h
  cases h

theorem exists_textOr_iff {name : String} :
    (∃ words, textOr name members = .ok words) ↔ (Json.member name members).HasText := by
  unfold textOr Json.member
  cases Keyed.find? (name : Text) members with
  | none => exact iff_of_true ⟨_, rfl⟩ Json.hasText_null
  | some value => exact exists_text_iff

theorem escapes_textOr_iff {name : String} :
    Escapes (textOr name members) ↔ ¬ (Json.member name members).HasText := by
  unfold textOr Json.member
  cases Keyed.find? (name : Text) members with
  | none => exact iff_of_false (not_escapes_ok _) (not_not_intro Json.hasText_null)
  | some value => exact escapes_text_iff

/-- A text that is read before something else. -/
theorem escapes_text_bind_iff {α : Type} {next : String → Result α} {Rest : Prop}
    (hnext : ∀ words, Escapes (next words) ↔ Rest) :
    Escapes (text value >>= next) ↔ ¬ value.HasText ∨ Rest := by
  rw [escapes_bind_iff_or _ hnext, escapes_text_iff]
  rw [escapes_text_iff, exists_text_iff]
  exact (em _).symm

theorem escapes_textOr_bind_iff {α : Type} {name : String} {next : String → Result α}
    {Rest : Prop} (hnext : ∀ words, Escapes (next words) ↔ Rest) :
    Escapes (textOr name members >>= next) ↔ ¬ (Json.member name members).HasText ∨ Rest := by
  rw [escapes_bind_iff_or _ hnext, escapes_textOr_iff]
  rw [escapes_textOr_iff, exists_textOr_iff]
  exact (em _).symm

/-! ## Label sets -/

/-- A label set with a value that has no text. -/
def BreaksLabels (value : Json) : Prop :=
  ∃ members, value = .object members ∧ ∃ member ∈ members, ¬ member.2.HasText

theorem exists_pair_iff {member : Text × Json} :
    (∃ pair, (do return (member.1.toString, ← text member.2) : Result (String × String)) =
      .ok pair) ↔ member.2.HasText := by
  simp only [bind_eq_ok_iff, ← exists_text_iff]
  constructor
  · rintro ⟨pair, words, hwords, -⟩
    exact ⟨words, hwords⟩
  · rintro ⟨words, hwords⟩
    exact ⟨_, words, hwords, rfl⟩

theorem escapes_pair_iff {member : Text × Json} :
    Escapes (do return (member.1.toString, ← text member.2) : Result (String × String)) ↔
      ¬ member.2.HasText := by
  rw [escapes_bind_pure_iff, escapes_text_iff]

/-- Labels are read when all of their values have texts, … -/
theorem exists_labelsOf_iff :
    (∃ labels, labelsOf members = .ok labels) ↔ ∀ member ∈ members, member.2.HasText := by
  constructor
  · rintro ⟨labels, h⟩ member hmem
    obtain ⟨pairs, hpairs, -⟩ := bind_eq_ok_iff.mp h
    exact exists_pair_iff.mp (exists_eq_ok_of_mapM hpairs hmem)
  · intro h
    obtain ⟨pairs, hpairs⟩ :=
      exists_mapM_eq_ok fun member hmem => exists_pair_iff.mpr (h member hmem)
    exact ⟨_, bind_eq_ok_iff.mpr ⟨pairs, hpairs, rfl⟩⟩

/-- … and escape when one has none. -/
theorem escapes_labelsOf_iff :
    Escapes (labelsOf members) ↔ ∃ member ∈ members, ¬ member.2.HasText := by
  unfold labelsOf
  rw [escapes_bind_pure_iff, escapes_mapM_iff_exists]
  · simp only [escapes_pair_iff]
  · intro member
    rw [escapes_pair_iff, exists_pair_iff]
    exact (em _).symm

theorem escapes_labelSet_iff {context : String} :
    Escapes (labelSet context value) ↔ BreaksLabels value := by
  cases value with
  | null => exact iff_of_false (not_escapes_ok _) (by simp [BreaksLabels])
  | object members =>
    show Escapes (labelsOf members) ↔ _
    simp [escapes_labelsOf_iff, BreaksLabels]
  | _ => exact iff_of_false (not_escapes_response _) (by simp [BreaksLabels])

/-! ## Numbers and times -/

/-- A number of seconds that has no end in milliseconds. -/
def Endless (value : Json) : Prop :=
  ∃ seconds, number .invalidUnixTimestamp value = .ok seconds ∧
    seconds.isNaN = false ∧ (seconds * 1000).isFinite = false

/-- An integer without a text is far above every finite double. -/
theorem Huge.of_not_hasText {value : Int} (h : ¬ (Json.int value).HasText) :
    Huge (.int value) := by
  rw [Json.hasText_int] at h
  rw [Huge, ← ofInt?_eq_none_iff]
  cases hnumber : Binary64.ofInt? value with
  | none => rfl
  | some number => exact absurd (Binary64.isWritable_of_ofInt? hnumber) h

theorem escapes_number_iff {fault : String → ResponseFault} :
    Escapes (number fault value) ↔ Huge value ∨ ¬ value.HasText := by
  cases value with
  | int value =>
    rw [or_iff_left_of_imp Huge.of_not_hasText]
    simp only [number, Huge, ← ofInt?_eq_none_iff]
    cases Binary64.ofInt? value <;> simp
  | text text =>
    simp only [number, Huge, Json.hasText_text, not_true_eq_false, or_self, iff_false]
    split
    · exact not_escapes_ok _
    · simp [escapes_refuse_iff]
  | bool | real => simp [number, Huge]
  | null | array | object => simp [number, Huge, escapes_refuse_iff]

/-- A number that is read before something else. -/
theorem escapes_number_bind_iff {α : Type} {fault : String → ResponseFault}
    {next : Binary64 → Result α} {Rest : Prop} (hnext : ∀ x, Escapes (next x) ↔ Rest) :
    Escapes (number fault value >>= next) ↔
      (Huge value ∨ ¬ value.HasText) ∨ (∃ x, number fault value = .ok x) ∧ Rest := by
  rw [escapes_bind_iff, escapes_number_iff]
  simp only [hnext, exists_and_right]

/-- What is a number has a text. -/
theorem hasText_of_number_eq_ok {fault : String → ResponseFault} {x : Binary64}
    (h : number fault value = .ok x) : value.HasText := by
  cases value with
  | int value =>
    simp only [number] at h
    cases hnumber : Binary64.ofInt? value with
    | some number => exact Json.hasText_int.mpr (Binary64.isWritable_of_ofInt? hnumber)
    | none => simp [hnumber] at h
  | null | array | object => exact absurd h refuse_ne_ok
  | _ => simp

theorem escapes_milliseconds_iff :
    Escapes (milliseconds value) ↔ Huge value ∨ ¬ value.HasText ∨ Endless value := by
  unfold milliseconds
  rw [escapes_bind_iff, escapes_number_iff, or_assoc]
  refine or_congr_right (or_congr_right (exists_congr fun seconds => and_congr_right fun hread => ?_))
  rw [← roundToInt?_eq_none_iff, Timestamp.ofSeconds?]
  cases (seconds * 1000).roundToInt? with
  | some time => simp [pure, Except.pure]
  | none =>
    cases hnan : seconds.isNaN with
    | true =>
      simp only [if_true, escapes_refuse_iff, hasText_of_number_eq_ok hread]
      simp
    | false => simp [throw, throwThe, MonadExceptOf.throw]

theorem escapes_timestamp_iff : Escapes (timestamp value) ↔ ¬ value.HasText := by
  cases value with
  | null => simp [timestamp]
  | text text =>
    simp only [timestamp, Json.hasText_text, not_true_eq_false, iff_false]
    split
    · exact not_escapes_ok _
    · split
      · exact not_escapes_ok _
      · simp [escapes_refuse_iff]
  | _ => simp [timestamp, escapes_refuse_iff]

end Fields

section Pages

variable [NestingLimits]

/-! ## The envelope -/

/-- What an answer that reports no success tells of the reason. -/
def detail (members : List (Text × Json)) : Json :=
  (Keyed.find? ("error" : Text) members).getD (.object members)

/-- An envelope that escapes: it reports no success, and its status or the
reason has no text. -/
def BreaksEnvelope (members : List (Text × Json)) : Prop :=
  (Json.member "status" members).isText "success" = false ∧
    (¬ (Json.member "status" members).HasText ∨ ¬ (detail members).HasText)

theorem escapes_data_iff : Escapes (data (.object members)) ↔ BreaksEnvelope members := by
  simp only [data, BreaksEnvelope]
  cases (Json.member "status" members).isText "success" with
  | true =>
    refine iff_of_false ?_ (by simp)
    simp only [if_true]
    split
    · exact not_escapes_ok _
    · exact not_escapes_response _
  | false =>
    simp only [Bool.false_eq_true, if_false, true_and]
    refine escapes_text_bind_iff fun status => ?_
    rw [escapes_bind_throw_iff, escapes_text_iff]
    rfl

/-! ## Alerts -/

/-- The label sets of a page are read, one after the other, and then
something else. -/
theorem escapes_labelSets_bind_iff {α : Type} {context other : String} {value notes : Json}
    {next : Labels → Labels → Result α} {Rest : Prop}
    (hnext : ∀ labels annotations, Escapes (next labels annotations) ↔ Rest) :
    Escapes (do
      let labels ← labelSet context value
      let annotations ← labelSet other notes
      next labels annotations) ↔
    BreaksLabels value ∨ (∃ labels, labelSet context value = .ok labels) ∧
      (BreaksLabels notes ∨ (∃ labels, labelSet other notes = .ok labels) ∧ Rest) := by
  simp only [escapes_bind_iff, escapes_labelSet_iff, hnext, exists_and_right]

/-- An alert that escapes: a value of its label sets has no text, or the
label sets can be read, and its state, its value or its time has none. -/
def BreaksAlert (value : Json) : Prop :=
  ∃ members, value = .object members ∧
    (BreaksLabels (Json.member "labels" members) ∨
      (∃ labels, labelSet "alert labels" (Json.member "labels" members) = .ok labels) ∧
      (BreaksLabels (Json.member "annotations" members) ∨
        (∃ notes, labelSet "alert annotations" (Json.member "annotations" members) = .ok notes) ∧
        (¬ (Json.member "state" members).HasText ∨ ¬ (Json.member "value" members).HasText ∨
          ¬ (Json.member "activeAt" members).HasText)))

theorem escapes_alert_iff : Escapes (alert value) ↔ BreaksAlert value := by
  unfold alert BreaksAlert
  rw [escapes_object_bind_iff]
  refine exists_congr fun members => and_congr_right fun _ => ?_
  refine escapes_labelSets_bind_iff fun labels annotations => ?_
  refine escapes_textOr_bind_iff fun state => escapes_textOr_bind_iff fun value => ?_
  rw [escapes_bind_pure_iff, escapes_timestamp_iff]

/-! ## Rule groups -/

/-- The hold of a rule and the interval of a group, which may be left
out. -/
def given (name : String) (members : List (Text × Json)) : Json :=
  (Keyed.find? (name : Text) members).getD (.real 0)

/-- The alerts of a rule escape, or they can be read, and its health has no
text. -/
def BreaksAlerts (members : List (Text × Json)) : Prop :=
  Unlisted (Json.member "alerts" members) ∨
    ∃ entries, items (Json.member "alerts" members) = .ok entries ∧
      (Meets alert BreaksAlert entries ∨
        (∀ entry ∈ entries, ∃ read, alert entry = .ok read) ∧
          ¬ (Json.member "health" members).HasText)

/-- The members of a rule that escapes: its name, its query, its state or a
value of its label sets has no text; or the label sets can be read, and its
hold is a huge integer or has no text; or the hold can be read too, and its
alerts escape. -/
def BreaksAlerting (members : List (Text × Json)) : Prop :=
  ¬ (Json.member "name" members).HasText ∨ ¬ (Json.member "query" members).HasText ∨
    ¬ (Json.member "state" members).HasText ∨
    BreaksLabels (Json.member "labels" members) ∨
      (∃ labels, labelSet "rule labels" (Json.member "labels" members) = .ok labels) ∧
      (BreaksLabels (Json.member "annotations" members) ∨
        (∃ notes, labelSet "rule annotations" (Json.member "annotations" members) = .ok notes) ∧
        ((Huge (given "duration" members) ∨ ¬ (given "duration" members).HasText) ∨
          (∃ x, number (.notANumber "rule duration") (given "duration" members) = .ok x) ∧
          BreaksAlerts members))

/-- A rule that escapes; only alerting ones are looked at. -/
def BreaksRule (value : Json) : Prop :=
  ∃ members, value = .object members ∧ isAlerting members = true ∧ BreaksAlerting members

/-- A group that escapes: its rules are no list; or one of them escapes,
after those before it were read; or all are read, and its name has no text
or its interval is a huge integer or has no text. -/
def BreaksGroup (value : Json) : Prop :=
  ∃ members, value = .object members ∧
    (Unlisted (Json.member "rules" members) ∨
      ∃ rules, items (Json.member "rules" members) = .ok rules ∧
        (Meets rule BreaksRule rules ∨
          (∀ entry ∈ rules, ∃ read, rule entry = .ok read) ∧
            (¬ (Json.member "name" members).HasText ∨ Huge (given "interval" members) ∨
              ¬ (given "interval" members).HasText)))

theorem escapes_alertingRule_iff : Escapes (alertingRule members) ↔ BreaksAlerting members := by
  unfold alertingRule BreaksAlerting BreaksAlerts
  refine escapes_textOr_bind_iff fun name => escapes_textOr_bind_iff fun query =>
    escapes_textOr_bind_iff fun state => ?_
  refine escapes_labelSets_bind_iff fun labels annotations => ?_
  refine escapes_number_bind_iff fun duration => ?_
  refine escapes_entries_bind_iff (fun _ => escapes_alert_iff) fun alerts => ?_
  rw [escapes_bind_pure_iff, escapes_textOr_iff]

theorem escapes_rule_iff : Escapes (rule value) ↔ BreaksRule value := by
  unfold rule BreaksRule
  rw [escapes_object_bind_iff]
  refine exists_congr fun members => and_congr_right fun _ => ?_
  by_cases halerting : isAlerting members = true
  · rw [if_pos halerting, escapes_bind_iff, escapes_alertingRule_iff]
    simp [halerting, pure, Except.pure]
  · simp [halerting, pure, Except.pure]

theorem escapes_ruleGroup_iff : Escapes (ruleGroup value) ↔ BreaksGroup value := by
  unfold ruleGroup BreaksGroup
  rw [escapes_object_bind_iff]
  refine exists_congr fun members => and_congr_right fun _ => ?_
  refine escapes_entries_bind_iff (fun _ => escapes_rule_iff) fun rules => ?_
  refine escapes_textOr_bind_iff fun name => ?_
  rw [escapes_bind_pure_iff, escapes_number_iff]
  rfl

/-! ## Vectors -/

/-- The members of a sample with a time and a value, when it escapes: a
value of its metric has no text; or the metric can be read, and the time is
a huge integer, has no text or has no end; or the time can be read too, and
the value is a huge integer or has no text. -/
def BreaksPoint (members : List (Text × Json)) (time reading : Json) : Prop :=
  BreaksLabels (Json.member "metric" members) ∨
    (∃ metric, labelSet "sample metric" (Json.member "metric" members) = .ok metric) ∧
    ((Huge time ∨ ¬ time.HasText ∨ Endless time) ∨
      (∃ t, milliseconds time = .ok t) ∧ (Huge reading ∨ ¬ reading.HasText))

/-- A sample that escapes: it has a time and a value and escapes with its
members, or it has none and no text to be quoted by. -/
def BreaksSample (value : Json) : Prop :=
  ∃ members, value = .object members ∧
    ((∃ time reading, Json.member "value" members = .array [time, reading] ∧
      BreaksPoint members time reading) ∨
    (∀ time reading, Json.member "value" members ≠ .array [time, reading]) ∧ ¬ value.HasText)

theorem escapes_point_iff {members : List (Text × Json)} {time reading : Json} :
    Escapes (do
      let metric ← labelSet "sample metric" (Json.member "metric" members)
      let timestamp ← milliseconds time
      let value ← number (.notANumber "sample value") reading
      return ({ metric, timestamp, value } : QuerySample)) ↔ BreaksPoint members time reading := by
  simp only [BreaksPoint, escapes_bind_iff, escapes_labelSet_iff, escapes_milliseconds_iff,
    escapes_number_iff, pure, Except.pure, not_escapes_ok, and_false, exists_false, or_false,
    exists_and_right]

theorem escapes_sample_iff : Escapes (sample value) ↔ BreaksSample value := by
  unfold sample BreaksSample
  rw [escapes_object_bind_iff]
  refine exists_congr fun members => and_congr_right fun _ => ?_
  split
  · rename_i time reading hpoint
    rw [escapes_point_iff, or_iff_left fun h => h.1 time reading hpoint]
    constructor
    · exact fun h => ⟨time, reading, hpoint, h⟩
    · rintro ⟨time', reading', hpoint', h⟩
      rw [hpoint'] at hpoint
      simp only [Json.array.injEq, List.cons.injEq, and_true] at hpoint
      obtain ⟨rfl, rfl⟩ := hpoint
      exact h
  · rename_i hpoint
    rw [escapes_refuse_iff, or_iff_right, and_iff_right hpoint]
    rintro ⟨time, reading, hpoint', -⟩
    exact hpoint time reading hpoint'

/-! ## Pages -/

theorem escapes_alerts_iff : Escapes (alerts (.object members)) ↔ BreaksEnvelope members ∨
    ∃ page entries, data (.object members) = .ok page ∧
      Json.member "alerts" page = .array entries ∧ Meets alert BreaksAlert entries := by
  unfold alerts
  rw [escapes_bind_iff, escapes_data_iff]
  simp only [escapes_page_iff, escapes_alert_iff, exists_and_left]

theorem escapes_ruleGroups_iff : Escapes (ruleGroups (.object members)) ↔ BreaksEnvelope members ∨
    ∃ page groups, data (.object members) = .ok page ∧
      Json.member "groups" page = .array groups ∧ Meets ruleGroup BreaksGroup groups := by
  unfold ruleGroups
  rw [escapes_bind_iff, escapes_data_iff]
  simp only [escapes_page_iff, escapes_ruleGroup_iff, exists_and_left]

theorem escapes_vector_iff : Escapes (vector (.object members)) ↔ BreaksEnvelope members ∨
    ∃ page, data (.object members) = .ok page ∧
      if (Json.member "resultType" page).isText "vector" then
        ∃ entries, Json.member "result" page = .array entries ∧ Meets sample BreaksSample entries
      else ¬ (Json.member "resultType" page).HasText := by
  unfold vector
  rw [escapes_bind_iff, escapes_data_iff]
  refine or_congr_right (exists_congr fun page => and_congr_right fun _ => ?_)
  by_cases hvector : (Json.member "resultType" page).isText "vector" = true
  · simp only [hvector, if_true, escapes_page_iff, escapes_sample_iff]
  · simp only [hvector, Bool.false_eq_true, if_false, escapes_refuse_iff]

/-- **Every object** as a payload: a page escapes exactly when its envelope
does, or when the envelope is in order and some entry escapes after those
before it were read. A vector escapes also when the answer is something
else and what it is has no text. -/
theorem parsers_escape_iff (members : List (Text × Json)) :
    (Escapes (alerts (.object members)) ↔ BreaksEnvelope members ∨
      ∃ page entries, data (.object members) = .ok page ∧
        Json.member "alerts" page = .array entries ∧ Meets alert BreaksAlert entries) ∧
    (Escapes (ruleGroups (.object members)) ↔ BreaksEnvelope members ∨
      ∃ page groups, data (.object members) = .ok page ∧
        Json.member "groups" page = .array groups ∧ Meets ruleGroup BreaksGroup groups) ∧
    (Escapes (vector (.object members)) ↔ BreaksEnvelope members ∨
      ∃ page, data (.object members) = .ok page ∧
        if (Json.member "resultType" page).isText "vector" then
          ∃ entries, Json.member "result" page = .array entries ∧ Meets sample BreaksSample entries
        else ¬ (Json.member "resultType" page).HasText) :=
  ⟨escapes_alerts_iff, escapes_ruleGroups_iff, escapes_vector_iff⟩

/-! ## Payloads with a text -/

theorem not_breaksLabels (h : value.HasText) : ¬ BreaksLabels value := by
  rintro ⟨members, rfl, member, hmem, hnone⟩
  exact hnone (h.of_mem_object hmem)

theorem not_breaksAlert (h : value.HasText) : ¬ BreaksAlert value := by
  rintro ⟨members, rfl, hlabels | ⟨-, hnotes | ⟨-, hfields⟩⟩⟩
  · exact not_breaksLabels (h.member "labels") hlabels
  · exact not_breaksLabels (h.member "annotations") hnotes
  · rcases hfields with hstate | hvalue | htime
    · exact hstate (h.member "state")
    · exact hvalue (h.member "value")
    · exact htime (h.member "activeAt")

theorem not_breaksEnvelope (h : (Json.object members).HasText) : ¬ BreaksEnvelope members := by
  rintro ⟨-, hstatus | hdetail⟩
  · exact hstatus (h.member "status")
  · refine hdetail ?_
    rw [detail]
    cases hfound : Keyed.find? ("error" : Text) members with
    | none => exact h
    | some value => exact h.of_mem_object (Keyed.mem_of_find? hfound)

/-- The data of an answer have a text when the answer has. -/
theorem hasText_of_data_eq_ok {page : List (Text × Json)} (h : (Json.object members).HasText)
    (hpage : data (.object members) = .ok page) : (Json.object page).HasText := by
  simp only [data] at hpage
  split at hpage
  · split at hpage
    · rename_i found hfound
      obtain rfl := Except.ok.inj hpage
      exact hfound ▸ h.member "data"
    · cases hpage
  · obtain ⟨status, -, hpage⟩ := bind_eq_ok_iff.mp hpage
    obtain ⟨reason, -, hpage⟩ := bind_eq_ok_iff.mp hpage
    cases hpage

/-- **The alerts page** does not escape when the payload has a text, … -/
theorem not_escapes_alerts (h : (Json.object members).HasText) :
    ¬ Escapes (alerts (.object members)) := by
  rw [escapes_alerts_iff]
  rintro (henvelope | ⟨page, entries, hpage, hentries, before, entry, after, heq, -, hentry⟩)
  · exact not_breaksEnvelope h henvelope
  · have harray : (Json.array entries).HasText :=
      hentries ▸ (hasText_of_data_eq_ok h hpage).member "alerts"
    exact not_breaksAlert (harray.of_mem_array (by simp [heq])) hentry

/-- … as every payload has that is read. -/
theorem not_escapes_alerts_of_parse {source : String}
    (h : Json.parse source = .ok (.object members)) : ¬ Escapes (alerts (.object members)) :=
  not_escapes_alerts (Json.hasText_of_parse h)

end Pages

/-! ## Payloads that escape -/

/-- An answer that reports success. -/
def success (page : List (Text × Json)) : Json :=
  .object [("status", .text "success"), ("data", .object page)]

/-- A rule group with a number in the place of its rules. -/
def numberedRules : Json := success [("groups", .array [.object [("rules", .int 5)]])]

/-- A rule group whose interval no double is near. -/
def hugeInterval : Json :=
  success [("groups", .array [.object [("interval", .int (Nat.pow 10 400))]])]

/-- A sample at the end of time. -/
def endlessTime : Json :=
  success [
    ("resultType", .text "vector"),
    ("result", .array [.object [("value", .array [.real (.infinite false), .text "1"])]])]

/-- An alert with a state. -/
def alertInState (state : Json) : Json :=
  success [("alerts", .array [.object [("state", state)]])]

/-- An array around an array, and so on. -/
def nested : Nat → Json
  | 0 => .array []
  | depth + 1 => .array [nested depth]

/-- None of them is read, and nothing tells what is wrong with it. -/
theorem payloads_escape :
    Escapes (ruleGroups numberedRules) ∧ Escapes (ruleGroups hugeInterval) ∧
      Escapes (vector endlessTime) ∧ Escapes (alerts (alertInState (.int (Nat.pow 10 4300)))) ∧
      Escapes (alerts (alertInState (nested 2000))) := by
  decide +kernel

end Payload

end AlertConformance
