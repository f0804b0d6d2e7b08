/-
AlertConformance.Proofs.RulesDocument — a rules document loses nothing.

A document writes durations as text and leaves out what says nothing: a hold
of zero and label sets without labels. Durations have different texts, and
no text or label set that is written stands for what is left out, so rules
and groups can be told from their documents. Label sets count as maps here:
the order of labels may differ between groups with equal documents.

* `Rule.Same`, `RuleGroup.Same` — rules and groups that say the same.
* `RuleDocument.Same`, `GroupDocument.Same` — documents that say the same.
* `firstRepeated?_nil_eq_none_iff` — a name that comes twice is found.
* `Rule.document_same_iff`, `RuleGroup.document_same_iff` — documents tell
  rules and groups apart.
* `RuleGroup.rule_of_mem`, `RuleGroup.rule_eq_unknownName_iff` — rules are
  found by their names.
* `rulesDocument_lossless` — all of it for a list of groups.
-/
import AlertConformance.Proofs.Duration
import AlertConformance.Proofs.LabelKey
import AlertConformance.Rule
import Mathlib.Data.List.Forall2
import Mathlib.Data.List.Nodup

namespace AlertConformance

/-! ## What says the same -/

structure Rule.Same (a b : Rule) : Prop where
  name : a.name = b.name
  expr : a.expr = b.expr
  hold : a.hold = b.hold
  labels : a.labels.same b.labels = true
  annotations : a.annotations.same b.annotations = true

structure RuleGroup.Same (a b : RuleGroup) : Prop where
  name : a.name = b.name
  interval : a.interval = b.interval
  rules : List.Forall₂ Rule.Same a.rules b.rules

/-- Label sets that are both left out, or equal. -/
def Labels.SameIfAny : Option Labels → Option Labels → Prop :=
  Option.Rel fun a b => a.same b = true

structure RuleDocument.Same (a b : RuleDocument) : Prop where
  alert : a.alert = b.alert
  expr : a.expr = b.expr
  hold : a.hold = b.hold
  labels : Labels.SameIfAny a.labels b.labels
  annotations : Labels.SameIfAny a.annotations b.annotations

structure GroupDocument.Same (a b : GroupDocument) : Prop where
  name : a.name = b.name
  interval : a.interval = b.interval
  rules : List.Forall₂ RuleDocument.Same a.rules b.rules

/-! ## Names that come twice -/

theorem firstRepeated?_eq_none {seen names : List String} (hnodup : names.Nodup)
    (hfresh : ∀ name ∈ names, name ∉ seen) : firstRepeated? seen names = none := by
  induction names generalizing seen with
  | nil => rfl
  | cons name rest ih =>
    obtain ⟨hfirst, hnodup⟩ := List.nodup_cons.mp hnodup
    obtain ⟨hunseen, hrest⟩ := List.forall_mem_cons.mp hfresh
    rw [firstRepeated?, if_neg hunseen]
    apply ih hnodup
    intro other hother hmem
    rcases List.mem_cons.mp hmem with rfl | hseen
    · exact hfirst hother
    · exact hrest other hother hseen

/-- A name that comes twice is found. -/
theorem firstRepeated?_nil_eq_none_iff {names : List String} :
    firstRepeated? [] names = none ↔ names.Nodup := by
  constructor
  · intro h
    exact (nodup_of_firstRepeated?_eq_none h).1
  · intro hnodup
    exact firstRepeated?_eq_none hnodup (by simp)

/-- Groups have documents, or two of them share a name. -/
theorem rulesDocument_cases (groups : List RuleGroup) :
    ((groups.map RuleGroup.name).Nodup ∧
      rulesDocument groups = .ok (groups.map RuleGroup.document)) ∨
    (¬ (groups.map RuleGroup.name).Nodup ∧
      ∃ name, rulesDocument groups = .error (.definition (.groupTwice name))) := by
  rw [← firstRepeated?_nil_eq_none_iff, rulesDocument]
  cases firstRepeated? [] (groups.map RuleGroup.name) with
  | none => simp
  | some name => simp

theorem rulesDocument_eq_ok_iff {groups : List RuleGroup} {documents : List GroupDocument} :
    rulesDocument groups = .ok documents ↔
      (groups.map RuleGroup.name).Nodup ∧ groups.map RuleGroup.document = documents := by
  rcases rulesDocument_cases groups with ⟨hnodup, hok⟩ | ⟨htwice, name, herror⟩
  · simp [hok, hnodup]
  · simp [herror, htwice]

theorem rulesDocument_eq_error_iff {groups : List RuleGroup} :
    (∃ fault, rulesDocument groups = .error (.definition fault)) ↔
      ¬ (groups.map RuleGroup.name).Nodup := by
  rcases rulesDocument_cases groups with ⟨hnodup, hok⟩ | ⟨htwice, name, herror⟩
  · simp [hok, hnodup]
  · simp [herror, htwice]

/-! ## What is left out -/

theorem Labels.isEmpty_eq_of_same {a b : Labels} (h : a.same b = true) :
    a.isEmpty = b.isEmpty :=
  ((same_iff_perm a b).mp h).isEmpty_eq

theorem Labels.same_of_isEmpty {a b : Labels} (ha : a.isEmpty = true) (hb : b.isEmpty = true) :
    a.same b = true := by
  rw [same_iff_perm, List.isEmpty_iff.mp ha, List.isEmpty_iff.mp hb]

/-- Label sets are told apart although the empty one is left out. -/
theorem Labels.sameIfAny_nonempty?_iff (a b : Labels) :
    SameIfAny a.nonempty? b.nonempty? ↔ a.same b = true := by
  by_cases ha : a.isEmpty = true
  · by_cases hb : b.isEmpty = true
    · simp [SameIfAny, nonempty?, ha, hb, same_of_isEmpty ha hb]
    · have hdiffer : ¬ a.same b = true := by
        intro hsame
        exact hb (isEmpty_eq_of_same hsame ▸ ha)
      simp [SameIfAny, nonempty?, ha, hb, hdiffer]
  · by_cases hb : b.isEmpty = true
    · have hdiffer : ¬ a.same b = true := by
        intro hsame
        exact ha (isEmpty_eq_of_same hsame ▸ hb)
      simp [SameIfAny, nonempty?, ha, hb, hdiffer]
    · simp [SameIfAny, nonempty?, ha, hb]

theorem durationText_toNat_inj {duration other : Int} (hduration : 0 ≤ duration)
    (hother : 0 ≤ other) :
    durationText duration.toNat = durationText other.toNat ↔ duration = other := by
  rw [durationText_injective.eq_iff]
  omega

/-- Holds are told apart although zero is left out. -/
theorem Rule.document_hold_inj (a b : Rule) :
    a.document.hold = b.document.hold ↔ a.hold = b.hold := by
  have htext := durationText_toNat_inj a.hold_nonneg b.hold_nonneg
  simp only [document]
  split <;> split <;> simp [*]
  all_goals omega

/-! ## Documents -/

/-- **Rules** can be told from their documents. -/
theorem Rule.document_same_iff (a b : Rule) : a.document.Same b.document ↔ a.Same b := by
  constructor
  · intro h
    exact {
      name := h.alert
      expr := h.expr
      hold := (document_hold_inj a b).mp h.hold
      labels := (Labels.sameIfAny_nonempty?_iff _ _).mp h.labels
      annotations := (Labels.sameIfAny_nonempty?_iff _ _).mp h.annotations }
  · intro h
    exact {
      alert := h.name
      expr := h.expr
      hold := (document_hold_inj a b).mpr h.hold
      labels := (Labels.sameIfAny_nonempty?_iff _ _).mpr h.labels
      annotations := (Labels.sameIfAny_nonempty?_iff _ _).mpr h.annotations }

theorem forall₂_document_iff (rules others : List Rule) :
    List.Forall₂ RuleDocument.Same (rules.map Rule.document) (others.map Rule.document) ↔
      List.Forall₂ Rule.Same rules others := by
  simp [List.forall₂_map_left_iff, List.forall₂_map_right_iff, Rule.document_same_iff]

/-- **Groups** can be told from their documents. -/
theorem RuleGroup.document_same_iff (a b : RuleGroup) :
    a.document.Same b.document ↔ a.Same b := by
  have hinterval :=
    durationText_toNat_inj (Int.le_of_lt a.interval_pos) (Int.le_of_lt b.interval_pos)
  constructor
  · intro h
    exact {
      name := h.name
      interval := hinterval.mp h.interval
      rules := (forall₂_document_iff _ _).mp h.rules }
  · intro h
    exact {
      name := h.name
      interval := hinterval.mpr h.interval
      rules := (forall₂_document_iff _ _).mpr h.rules }

/-! ## The rule of a name -/

namespace RuleGroup

/-- A rule is found by its name: no rule before it has the same. -/
theorem rule_of_mem {group : RuleGroup} {rule : Rule} (h : rule ∈ group.rules) :
    group.rule rule.name = .ok rule := by
  unfold RuleGroup.rule
  cases hfind : group.rules.find? fun other => other.name = rule.name with
  | none =>
    have hnone := List.find?_eq_none.mp hfind rule h
    simp at hnone
  | some found =>
    have hmem := List.mem_of_find?_eq_some hfind
    have hname : found.name = rule.name := by simpa using List.find?_some hfind
    rw [List.inj_on_of_nodup_map group.distinct hmem h hname]

theorem rule_eq_unknownName_iff (group : RuleGroup) (name : String) :
    group.rule name = .error (.unknownName name) ↔ ∀ rule ∈ group.rules, rule.name ≠ name := by
  unfold RuleGroup.rule
  cases hfind : group.rules.find? fun other => other.name = name with
  | none => simpa using hfind
  | some found =>
    have hname : found.name = name := by simpa using List.find?_some hfind
    simp only [reduceCtorEq, false_iff, not_forall]
    exact ⟨found, List.mem_of_find?_eq_some hfind, not_not.mpr hname⟩

end RuleGroup

/-! ## The main result -/

/-- **A rules document loses nothing**: making it fails exactly when two
groups share a name, and groups with the same documents are the same groups
in the same order. Each rule of a group is found by its name, and looking
for a name fails exactly when no rule has it. -/
theorem rulesDocument_lossless (groups : List RuleGroup) :
    ((∃ fault, rulesDocument groups = .error (.definition fault)) ↔
      ¬ (groups.map RuleGroup.name).Nodup) ∧
    ((∃ documents, rulesDocument groups = .ok documents) ↔
      (groups.map RuleGroup.name).Nodup) ∧
    (∀ others documents others', rulesDocument groups = .ok documents →
      rulesDocument others = .ok others' →
      (List.Forall₂ GroupDocument.Same documents others' ↔
        List.Forall₂ RuleGroup.Same groups others)) ∧
    ∀ group ∈ groups,
      (∀ rule ∈ group.rules, group.rule rule.name = .ok rule) ∧
      ∀ name, group.rule name = .error (.unknownName name) ↔
        ∀ rule ∈ group.rules, rule.name ≠ name := by
  refine ⟨rulesDocument_eq_error_iff, ?_, ?_, ?_⟩
  · simp [rulesDocument_eq_ok_iff]
  · intro others documents others' hdocuments hothers
    obtain ⟨-, rfl⟩ := rulesDocument_eq_ok_iff.mp hdocuments
    obtain ⟨-, rfl⟩ := rulesDocument_eq_ok_iff.mp hothers
    simp [List.forall₂_map_left_iff, List.forall₂_map_right_iff, RuleGroup.document_same_iff]
  · intro group _
    exact ⟨fun rule hrule => group.rule_of_mem hrule, group.rule_eq_unknownName_iff⟩

/-- A group of one rule without a hold that has the given labels. -/
def pagingGroup (labels : Labels) (h : "" ∉ labels.names) : RuleGroup where
  name := "G"
  interval := 30000
  rules := [{
    name := "Down"
    expr := "up == 0"
    hold := 0
    labels
    annotations := .empty
    name_ne_empty := by decide
    expr_ne_empty := by decide
    hold_nonneg := by decide
    names_ne_empty := List.mem_append.not.mpr (not_or.mpr ⟨h, by decide⟩) }]
  name_ne_empty := by decide
  interval_pos := by decide
  rules_ne_nil := by simp
  distinct := by simp

/-- Two groups that differ in the order of their labels have the same
document. -/
theorem rulesDocument_lossless_reordered :
    let groups := [pagingGroup (.ofList [("severity", "page"), ("team", "db")]) (by decide)]
    let others := [pagingGroup (.ofList [("team", "db"), ("severity", "page")]) (by decide)]
    ∃ documents others', rulesDocument groups = .ok documents ∧
      rulesDocument others = .ok others' ∧
      List.Forall₂ GroupDocument.Same documents others' ∧
      List.Forall₂ RuleGroup.Same groups others := by
  intro groups others
  have hsame : List.Forall₂ RuleGroup.Same groups others := by
    refine .cons ⟨rfl, rfl, .cons ⟨rfl, rfl, rfl, ?_, ?_⟩ .nil⟩ .nil
    · decide
    · decide
  have hiff := (rulesDocument_lossless groups).2.2.1 others _ _ rfl rfl
  exact ⟨_, _, rfl, rfl, hiff.mpr hsame, hsame⟩

end AlertConformance
