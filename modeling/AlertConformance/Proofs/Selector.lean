/-
AlertConformance.Proofs.Selector — a selector tells which labels it is for.

A selector lists the labels of a set in order of their names, each value
quoted. A name of letters, digits and underscores ends at the equals sign,
and a quoted value at the first quote that is not escaped, so whatever a
value holds — quotes, commas, braces, characters beyond the first plane,
lone surrogates — the selector can be read again. What is read are the
labels with the surrogate pairs of their values joined, as a quoted text
does not tell a pair held apart from its character.

* `LabelTexts.Plain` — label sets whose names are ASCII words.
* `LabelTexts.Whole`, `LabelTexts.joined` — label sets whose values hold no
  pair apart, and the one that joins the pairs of a label set.
* `readSelector?` — how a selector is read.
* `readMatcher?_formatMatcher`, `readMatchers?_closedMatchers` — one label
  and all of them.
* `readSelector?_formatLabels` — reading gives the joined labels.
* `formatLabels_eq_iff_same` — label sets of characters.
* `formatLabels_identifies` — equal selectors, equal joined label sets.
-/
import AlertConformance.Proofs.Json.Quoting
import AlertConformance.Proofs.LabelKey
import AlertConformance.Rule

namespace AlertConformance

/-! ## Names -/

/-- An ASCII letter, a digit or an underscore. -/
def isNameChar (c : Char) : Bool := c.isAlphanum || c = '_'

namespace LabelTexts

/-- All names are words of letters, digits and underscores. -/
def Plain (labels : LabelTexts) : Prop :=
  ∀ name ∈ labels.names, ∀ c ∈ name.toList, isNameChar c = true

theorem plain_iff {labels : LabelTexts} :
    labels.Plain ↔ labels.names.all (fun name => name.toList.all isNameChar) = true := by
  simp [Plain]

instance (labels : LabelTexts) : Decidable labels.Plain := decidable_of_iff _ plain_iff.symm

/-! ## Order -/

theorem sorted_perm (labels : LabelTexts) : labels.sorted.Perm labels.entries :=
  List.mergeSort_perm _ _

theorem sorted_pairwise (labels : LabelTexts) :
    labels.sorted.Pairwise fun a b => (compare a.1 b.1).isLE = true := by
  refine List.pairwise_mergeSort (fun _ _ _ => Std.TransCmp.isLE_trans) (fun a b => ?_) _
  have hswap : compare a.1 b.1 = (compare b.1 a.1).swap := Std.OrientedCmp.eq_swap
  rw [hswap]
  cases compare b.1 a.1 <;> rfl

/-- The order of insertion does not show in the order of the names, as no
name comes twice. -/
theorem sorted_eq_of_perm {a b : LabelTexts} (h : a.entries.Perm b.entries) :
    a.sorted = b.sorted := by
  have hperm : a.sorted.Perm b.sorted := a.sorted_perm.trans (h.trans b.sorted_perm.symm)
  refine hperm.eq_of_pairwise ?_ a.sorted_pairwise b.sorted_pairwise
  rintro ⟨name, value⟩ ⟨other, value'⟩ hvalue hvalue' hle hge
  obtain rfl : name = other := Std.LawfulEqCmp.eq_of_compare (Std.OrientedCmp.isLE_antisymm hle hge)
  have hfound := Keyed.find?_of_mem a.distinct (a.sorted_perm.mem_iff.mp hvalue)
  have hfound' := Keyed.find?_of_mem a.distinct
    (a.sorted_perm.mem_iff.mp (hperm.mem_iff.mpr hvalue'))
  rw [Option.some.inj (hfound.symm.trans hfound')]

/-- Label sets that list the same are those that give every name the same
value. -/
theorem sorted_eq_iff {a b : LabelTexts} :
    a.sorted = b.sorted ↔ ∀ name, a.get? name = b.get? name := by
  simp only [get?, ← Keyed.perm_iff_find?_eq a.distinct b.distinct]
  exact ⟨fun h => a.sorted_perm.symm.trans (h ▸ b.sorted_perm), sorted_eq_of_perm⟩

theorem Plain.sorted {labels : LabelTexts} (h : labels.Plain) :
    ∀ entry ∈ labels.sorted, ∀ c ∈ entry.1.toList, isNameChar c = true := by
  intro entry hentry
  exact h entry.1 (List.mem_map_of_mem (labels.sorted_perm.mem_iff.mp hentry))

/-! ## Pairs held apart -/

/-- No value holds a surrogate pair apart. -/
def Whole (labels : LabelTexts) : Prop := ∀ entry ∈ labels.entries, entry.2.Whole

instance (labels : LabelTexts) : Decidable labels.Whole := inferInstanceAs (Decidable (∀ _ ∈ _, _))

/-- The labels with the surrogate pairs of their values joined. -/
def joined (labels : LabelTexts) : LabelTexts :=
  ⟨Keyed.mapValues Text.joined labels.entries, by simpa using labels.distinct⟩

theorem Whole.joined_eq {labels : LabelTexts} (h : labels.Whole) : labels.joined = labels := by
  rw [joined, mk.injEq, Keyed.mapValues]
  refine (List.map_congr_left fun entry hmem => ?_).trans (List.map_id _)
  exact Prod.ext rfl (h entry hmem).joined_eq

theorem get?_joined (labels : LabelTexts) (name : String) :
    labels.joined.get? name = (labels.get? name).map Text.joined :=
  Keyed.find?_mapValues ..

theorem sorted_joined (labels : LabelTexts) :
    labels.joined.sorted = Keyed.mapValues Text.joined labels.sorted := by
  have h := List.map_mergeSort (l := labels.entries)
    (r := fun a b => (compare a.1 b.1).isLE) (s := fun a b => (compare a.1 b.1).isLE)
    (f := fun (name, value) => (name, Text.joined value)) fun _ _ _ _ => rfl
  exact h.symm

end LabelTexts

/-! ## Reading -/

/-- The label at the head of the input and what follows it. -/
def readMatcher? (cs : List Char) : Option ((String × Text) × List Char) :=
  match cs.dropWhile isNameChar with
  | '=' :: '"' :: rest =>
    match Json.readText (rest.length + 1) [] rest with
    | .ok (value, rest) => some ((String.ofList (cs.takeWhile isNameChar), value), rest)
    | .error _ => none
  | _ => none

/-- The labels up to the closing brace, of which there is at least one. -/
def readMatchers? : (fuel : Nat) → List Char → Option (List (String × Text))
  | 0, _ => none
  | fuel + 1, cs =>
    (readMatcher? cs).bind fun (entry, rest) =>
      match rest with
      | ['}'] => some [entry]
      | ',' :: ' ' :: rest => (readMatchers? fuel rest).map (entry :: ·)
      | _ => none

/-- The labels that a selector lists. -/
def readSelector? (selector : String) : Option (List (String × Text)) :=
  match selector.toList with
  | '{' :: rest => if rest = ['}'] then some [] else readMatchers? rest.length rest
  | _ => none

/-! ## One label -/

theorem toList_formatMatcher (entry : String × Text) :
    (formatMatcher entry).toList =
      entry.1.toList ++ '=' :: '"' :: entry.2.points.flatMap Json.quotedPoint ++ ['"'] := by
  simp [formatMatcher, Json.quotedText, toString]

theorem formatMatcher_joined (name : String) (value : Text) :
    formatMatcher (name, value.joined) = formatMatcher (name, value) := by
  rw [formatMatcher, formatMatcher, Json.quotedText_joined]

/-- **One label** is read back with its pairs joined, whatever comes after
it. -/
theorem readMatcher?_formatMatcher {name : String} (value : Text)
    (hname : ∀ c ∈ name.toList, isNameChar c = true) (rest : List Char) :
    readMatcher? ((formatMatcher (name, value)).toList ++ rest) =
      some ((name, value.joined), rest) := by
  have hchars : (formatMatcher (name, value)).toList ++ rest = name.toList ++
      '=' :: '"' :: (value.points.flatMap Json.quotedPoint ++ '"' :: rest) := by
    simp [toList_formatMatcher]
  have hstops : isNameChar '=' = false := by decide
  rw [hchars, readMatcher?, List.dropWhile_append_of_pos hname, List.takeWhile_append_of_pos hname]
  simp only [List.dropWhile_cons, List.takeWhile_cons, hstops, Bool.false_eq_true, if_false,
    List.append_nil]
  rw [Json.readText_quoted]
  simp

/-! ## All labels -/

/-- The characters of a selector after its first brace. -/
def closedMatchers (entries : List (String × Text)) : List Char :=
  (", ".intercalate (entries.map formatMatcher)).toList ++ ['}']

theorem toList_formatLabels (labels : LabelTexts) :
    (formatLabels labels).toList = '{' :: closedMatchers labels.sorted := by
  simp [formatLabels, closedMatchers]

theorem closedMatchers_singleton (entry : String × Text) :
    closedMatchers [entry] = (formatMatcher entry).toList ++ ['}'] := by
  simp [closedMatchers]

theorem closedMatchers_cons_cons (entry next : String × Text) (rest : List (String × Text)) :
    closedMatchers (entry :: next :: rest) =
      (formatMatcher entry).toList ++ ',' :: ' ' :: closedMatchers (next :: rest) := by
  simp [closedMatchers]

theorem length_lt_closedMatchers (entries : List (String × Text)) :
    entries.length < (closedMatchers entries).length := by
  induction entries with
  | nil => simp [closedMatchers]
  | cons entry rest ih =>
    cases rest with
    | nil =>
      simp [closedMatchers_singleton, toList_formatMatcher]
      omega
    | cons next rest =>
      simp [closedMatchers_cons_cons] at ih ⊢
      omega

/-- **All labels** are read back, up to the closing brace. -/
theorem readMatchers?_closedMatchers {fuel : Nat} {entries : List (String × Text)}
    (hne : entries ≠ []) (hnames : ∀ entry ∈ entries, ∀ c ∈ entry.1.toList, isNameChar c = true)
    (hfuel : entries.length ≤ fuel) :
    readMatchers? fuel (closedMatchers entries) = some (Keyed.mapValues Text.joined entries) := by
  induction entries generalizing fuel with
  | nil => exact absurd rfl hne
  | cons entry rest ih =>
    obtain ⟨name, value⟩ := entry
    obtain ⟨hname, hrest⟩ := List.forall_mem_cons.mp hnames
    obtain ⟨fuel, rfl⟩ := Nat.exists_eq_add_of_le' (Nat.le_trans (by simp) hfuel : 1 ≤ fuel)
    cases rest with
    | nil => rw [closedMatchers_singleton, readMatchers?, readMatcher?_formatMatcher value hname]; rfl
    | cons next rest =>
      rw [closedMatchers_cons_cons, readMatchers?, readMatcher?_formatMatcher value hname]
      simp only [Option.bind_some]
      rw [ih (by simp) hrest (by simp at hfuel ⊢; omega), Option.map_some]
      rfl

/-- **Reading a selector** gives its labels with their pairs joined. -/
theorem readSelector?_formatLabels {labels : LabelTexts} (h : labels.Plain) :
    readSelector? (formatLabels labels) = some labels.joined.sorted := by
  have hlength := length_lt_closedMatchers labels.sorted
  rw [readSelector?, toList_formatLabels, labels.sorted_joined]
  simp only
  by_cases hsorted : labels.sorted = []
  · rw [hsorted]
    rfl
  · have hbrace : closedMatchers labels.sorted ≠ ['}'] := by
      intro hbrace
      simp [hbrace, hsorted] at hlength
    rw [if_neg hbrace]
    exact readMatchers?_closedMatchers hsorted h.sorted (Nat.le_of_lt hlength)

/-! ## Identity -/

/-- The selector does not show the order of insertion, … -/
theorem formatLabels_eq_of_perm {a b : LabelTexts} (h : a.entries.Perm b.entries) :
    formatLabels a = formatLabels b := by
  rw [formatLabels, formatLabels, LabelTexts.sorted_eq_of_perm h]

/-- … and not whether a surrogate pair was held apart. -/
theorem formatLabels_joined (labels : LabelTexts) :
    formatLabels labels.joined = formatLabels labels := by
  have hmatchers : labels.joined.sorted.map formatMatcher = labels.sorted.map formatMatcher := by
    rw [labels.sorted_joined, Keyed.mapValues, List.map_map]
    exact List.map_congr_left fun entry _ => formatMatcher_joined entry.1 entry.2
  rw [formatLabels, formatLabels, hmatchers]

theorem formatLabels_eq_iff {a b : LabelTexts} (ha : a.Plain) (hb : b.Plain) :
    formatLabels a = formatLabels b ↔
      ∀ name, (a.get? name).map Text.joined = (b.get? name).map Text.joined := by
  simp only [← LabelTexts.get?_joined, ← LabelTexts.sorted_eq_iff]
  constructor
  · intro h
    have hread := readSelector?_formatLabels ha
    rw [h, readSelector?_formatLabels hb] at hread
    exact (Option.some.inj hread).symm
  · intro h
    rw [← formatLabels_joined a, ← formatLabels_joined b, formatLabels, formatLabels, h]

theorem formatLabels_eq_iff_of_whole {a b : LabelTexts} (ha : a.Plain) (hb : b.Plain)
    (hawhole : a.Whole) (hbwhole : b.Whole) :
    formatLabels a = formatLabels b ↔ ∀ name, a.get? name = b.get? name := by
  simp only [formatLabels_eq_iff ha hb, ← LabelTexts.get?_joined, hawhole.joined_eq,
    hbwhole.joined_eq]

/-- Label sets of characters hold no surrogates. -/
theorem Labels.whole_texts (labels : Labels) : labels.texts.Whole := by
  intro entry hmem
  obtain ⟨entry, -, rfl⟩ := List.mem_map.mp hmem
  exact Text.whole_ofString entry.2

theorem Labels.get?_texts (labels : Labels) (name : String) :
    labels.texts.get? name = (labels.get? name).map Text.ofString :=
  Keyed.find?_mapValues ..

/-- **Label sets of characters** have one selector exactly when they are the
same. -/
theorem formatLabels_eq_iff_same {a b : Labels} (ha : a.texts.Plain) (hb : b.texts.Plain) :
    formatLabels a = formatLabels b ↔ a.same b = true := by
  rw [formatLabels_eq_iff_of_whole ha hb a.whole_texts b.whole_texts]
  simp only [Labels.get?_texts]
  constructor
  · intro h
    exact Labels.same_of_get? fun name =>
      Option.map_injective (fun _ _ => Text.ofString_inj.mp) (h name)
  · intro h name
    rw [Labels.get?_eq_of_same h]

/-! ## ASCII -/

theorem isNameChar_ascii {c : Char} (h : isNameChar c = true) : c.toNat < 0x80 := by
  delta isNameChar Char.isAlphanum Char.isAlpha Char.isUpper Char.isLower Char.isDigit at h
  simp only [Bool.or_eq_true, Bool.and_eq_true, decide_eq_true_eq, ge_iff_le,
    UInt32.le_iff_toNat_le] at h
  rcases h with ((h | h) | h) | rfl
  · exact Nat.lt_of_le_of_lt h.2 (by decide)
  · exact Nat.lt_of_le_of_lt h.2 (by decide)
  · exact Nat.lt_of_le_of_lt h.2 (by decide)
  · decide

theorem formatMatcher_ascii {entry : String × Text}
    (hname : ∀ c ∈ entry.1.toList, isNameChar c = true) :
    ∀ c ∈ (formatMatcher entry).toList, c.toNat < 0x80 := by
  intro c hc
  rw [toList_formatMatcher, List.append_assoc, List.mem_append, List.cons_append,
    List.mem_cons] at hc
  rcases hc with hc | rfl | hc
  · exact isNameChar_ascii (hname c hc)
  · decide
  · exact Json.quotedPoints_ascii _ c hc

theorem closedMatchers_ascii {entries : List (String × Text)}
    (hnames : ∀ entry ∈ entries, ∀ c ∈ entry.1.toList, isNameChar c = true) :
    ∀ c ∈ closedMatchers entries, c.toNat < 0x80 := by
  induction entries with
  | nil => simp [closedMatchers]
  | cons entry rest ih =>
    obtain ⟨hentry, hrest⟩ := List.forall_mem_cons.mp hnames
    intro c hc
    cases rest with
    | nil =>
      rw [closedMatchers_singleton, List.mem_append] at hc
      rcases hc with hc | hc
      · exact formatMatcher_ascii hentry c hc
      · rw [List.mem_singleton.mp hc]
        decide
    | cons next rest =>
      rw [closedMatchers_cons_cons, List.mem_append, List.mem_cons, List.mem_cons] at hc
      rcases hc with hc | rfl | rfl | hc
      · exact formatMatcher_ascii hentry c hc
      · decide
      · decide
      · exact ih hrest c hc

/-- A selector is ASCII, whatever its values hold. -/
theorem formatLabels_ascii {labels : LabelTexts} (h : labels.Plain) :
    ∀ c ∈ (formatLabels labels).toList, c.toNat < 0x80 := by
  rw [toList_formatLabels]
  intro c hc
  rcases List.mem_cons.mp hc with rfl | hc
  · decide
  · exact closedMatchers_ascii h.sorted c hc

/-! ## The labels of a series -/

theorem plain_metricTexts (group alert : Text) : (metricTexts group alert).Plain := by
  have hnames : (metricTexts group alert).names = ["__name__", "alertname", "rulegroup"] := rfl
  rw [LabelTexts.plain_iff, hnames]
  decide

theorem joined_metricTexts (group alert : Text) :
    (metricTexts group alert).joined = metricTexts group.joined alert.joined := by
  have hmetric : (testMetricName : Text).joined = testMetricName :=
    (Text.whole_ofString testMetricName).joined_eq
  have hentries (group alert : Text) : (metricTexts group alert).entries =
      [("__name__", (testMetricName : Text)), ("alertname", alert), ("rulegroup", group)] := rfl
  simp only [LabelTexts.joined, hentries, Keyed.mapValues, List.map_cons, List.map_nil, hmetric]
  rfl

theorem get?_metricTexts_iff {group alert group' alert' : Text} :
    (∀ name, (metricTexts group alert).get? name = (metricTexts group' alert').get? name) ↔
      group = group' ∧ alert = alert' := by
  constructor
  · intro h
    have halert : some alert = some alert' := h "alertname"
    have hgroup : some group = some group' := h "rulegroup"
    exact ⟨Option.some.inj hgroup, Option.some.inj halert⟩
  · rintro ⟨rfl, rfl⟩ name
    rfl

theorem formatLabels_metricTexts_eq_iff {group alert group' alert' : Text} :
    formatLabels (metricTexts group alert) = formatLabels (metricTexts group' alert') ↔
      group.joined = group'.joined ∧ alert.joined = alert'.joined := by
  simp only [formatLabels_eq_iff (plain_metricTexts group alert) (plain_metricTexts group' alert'),
    ← LabelTexts.get?_joined, joined_metricTexts, get?_metricTexts_iff]

/-- **Selectors identify label sets.** The selector of a label set with plain
names is ASCII and does not depend on the order of insertion. Two such label
sets have one selector exactly when they give the same names the same
values, once surrogate pairs are joined; so when no value holds a pair
apart, exactly when they are the same. The series of an alert is selected
by its group and its name in the same sense. -/
theorem formatLabels_identifies :
    (∀ a : LabelTexts, a.Plain →
      (∀ c ∈ (formatLabels a).toList, c.toNat < 0x80) ∧
      (∀ rearranged : LabelTexts, rearranged.entries.Perm a.entries →
        formatLabels rearranged = formatLabels a) ∧
      ∀ b : LabelTexts, b.Plain →
        (formatLabels a = formatLabels b ↔
          ∀ name, (a.get? name).map Text.joined = (b.get? name).map Text.joined) ∧
        (a.Whole → b.Whole →
          (formatLabels a = formatLabels b ↔ ∀ name, a.get? name = b.get? name))) ∧
    ∀ group alert : Text, (metricTexts group alert).Plain ∧
      ∀ group' alert' : Text,
        (formatLabels (metricTexts group alert) = formatLabels (metricTexts group' alert') ↔
          group.joined = group'.joined ∧ alert.joined = alert'.joined) ∧
        (group.Whole → alert.Whole → group'.Whole → alert'.Whole →
          (formatLabels (metricTexts group alert) = formatLabels (metricTexts group' alert') ↔
            group = group' ∧ alert = alert')) := by
  constructor
  · intro a ha
    refine ⟨formatLabels_ascii ha, ?_, ?_⟩
    · intro rearranged hperm
      exact formatLabels_eq_of_perm hperm
    · intro b hb
      exact ⟨formatLabels_eq_iff ha hb, formatLabels_eq_iff_of_whole ha hb⟩
  · intro group alert
    refine ⟨plain_metricTexts group alert, fun group' alert' => ?_⟩
    refine ⟨formatLabels_metricTexts_eq_iff, fun hgroup halert hgroup' halert' => ?_⟩
    rw [formatLabels_metricTexts_eq_iff, hgroup.joined_eq, halert.joined_eq, hgroup'.joined_eq,
      halert'.joined_eq]

/-- A value that looks like the rest of a selector, one beyond the first
plane, and a lone surrogate. -/
theorem formatLabels_identifies_lookalike :
    let lone : Text := ⟨[.surrogate 0x400]⟩
    let a := LabelTexts.ofList [("emoji", "😀"), ("lone", lone), ("a", "x\", b=\"y")]
    let rearranged := LabelTexts.ofList [("a", "x\", b=\"y"), ("emoji", "😀"), ("lone", lone)]
    let b := LabelTexts.ofList [("a", "x"), ("b", "y"), ("emoji", "😀"), ("lone", lone)]
    a.Plain ∧ b.Plain ∧ a.Whole ∧ b.Whole ∧ formatLabels rearranged = formatLabels a ∧
      formatLabels a ≠ formatLabels b := by
  intro lone a rearranged b
  have ha : a.Plain := by decide
  have hb : b.Plain := by decide
  have hawhole : a.Whole := by decide
  have hbwhole : b.Whole := by decide
  obtain ⟨-, hrearranged, hiff⟩ := formatLabels_identifies.1 a ha
  refine ⟨ha, hb, hawhole, hbwhole, hrearranged rearranged (by decide), ?_⟩
  intro heq
  have hvalue : a.get? "b" = b.get? "b" := ((hiff b hb).2 hawhole hbwhole).mp heq "b"
  revert hvalue
  decide

/-- A text that holds a pair apart is quoted like the character of the pair,
so that two label sets may share a selector. -/
theorem formatLabels_collide : ¬ ∀ a b : LabelTexts, a.Plain → b.Plain →
    (formatLabels a = formatLabels b ↔ ∀ name, a.get? name = b.get? name) := by
  intro h
  let apart := LabelTexts.ofList [("emoji", ⟨[.surrogate 0x3d, .surrogate 0x600]⟩)]
  let whole := LabelTexts.ofList [("emoji", "😀")]
  have hsame : formatLabels apart = formatLabels whole := by decide +kernel
  have hvalue : apart.get? "emoji" = whole.get? "emoji" :=
    (h apart whole (by decide) (by decide)).mp hsame "emoji"
  revert hvalue
  decide

end AlertConformance
