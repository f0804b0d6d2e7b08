/-
AlertConformance.Proofs.Check.Matching — when an observation passes.

Alerts and samples are compared in order of their label sets. When what is
expected and what is observed can be paired such that each pair agrees,
and no two things are expected with one label set, sorting both sides puts
the partners next to each other. The order of the observation does not
matter.

* `Matches` — a pairing of the expected with the observed, in any order.
* `Matches.firstDifference?` — then the sorted lists do not differ.
* `Alert.difference?_eq_none_iff` — when two alerts agree.
* `checkAgainst_ok` — one candidate without a difference is enough.
-/
import AlertConformance.Check
import AlertConformance.Proofs.LabelKey
import Mathlib.Data.List.Forall2

namespace AlertConformance

instance : Std.TransCmp compareKeys := inferInstanceAs (Std.TransCmp (List.compareLex _))

instance : Std.LawfulEqCmp compareKeys := inferInstanceAs (Std.LawfulEqCmp (List.compareLex _))

theorem compareKeys_total (a b : LabelKey) :
    ((compareKeys a b).isLE || (compareKeys b a).isLE) = true := by
  have h : compareKeys a b = (compareKeys b a).swap := Std.OrientedCmp.eq_swap
  rw [h]
  cases compareKeys b a <;> rfl

section Matching

variable {α : Type} {key : α → LabelKey} {difference? : α → α → Option Difference}
  {expected listed actual : List α}

/-! ## Sorting by label sets -/

theorem sortByKey_perm (key : α → LabelKey) (elements : List α) :
    (sortByKey key elements).Perm elements :=
  List.mergeSort_perm _ _

theorem map_sortByKey_sorted (key : α → LabelKey) (elements : List α) :
    ((sortByKey key elements).map key).Pairwise fun a b => (compareKeys a b).isLE = true := by
  rw [List.pairwise_map]
  exact List.pairwise_mergeSort (fun _ _ _ => Std.TransCmp.isLE_trans)
    (fun a b => compareKeys_total (key a) (key b)) _

/-- Lists with the same label sets have them in the same order when they
are sorted. -/
theorem map_sortByKey_eq (h : (expected.map key).Perm (actual.map key)) :
    (sortByKey key expected).map key = (sortByKey key actual).map key := by
  refine List.Perm.eq_of_pairwise (fun a b _ _ hab hba => ?_) (map_sortByKey_sorted key expected)
    (map_sortByKey_sorted key actual) ?_
  · exact Std.LawfulEqCmp.eq_of_compare (Std.OrientedCmp.isLE_antisymm hab hba)
  · exact ((sortByKey_perm key expected).map key).trans
      (h.trans ((sortByKey_perm key actual).map key).symm)

theorem firstDifference?_eq_none
    (h : List.Forall₂ (fun e a => difference? e a = none) expected actual) :
    firstDifference? difference? expected actual = none := by
  induction h with
  | nil => rfl
  | cons hagree _ ih => rw [firstDifference?, hagree, Option.none_or, ih]

/-! ## Pairings -/

/-- The expected things can be paired with the observed ones, in whatever
order these come, such that `agrees` holds of each pair. -/
def Matches (agrees : α → α → Prop) (expected actual : List α) : Prop :=
  ∃ listed, actual.Perm listed ∧ List.Forall₂ agrees expected listed

theorem Matches.length_eq {agrees : α → α → Prop} (h : Matches agrees expected actual) :
    expected.length = actual.length := by
  obtain ⟨listed, hperm, hpairs⟩ := h
  rw [hpairs.length_eq, hperm.length_eq]

theorem map_eq_of_forall₂ {β : Type} {key : α → β} {agrees : α → α → Prop}
    (hkey : ∀ e a, agrees e a → key e = key a) (h : List.Forall₂ agrees expected listed) :
    expected.map key = listed.map key := by
  induction h with
  | nil => rfl
  | cons hagree _ ih => rw [List.map_cons, List.map_cons, hkey _ _ hagree, ih]

/-- What partners have in common is listed on both sides, in some order. -/
theorem Matches.map_perm {β : Type} {key : α → β} {agrees : α → α → Prop}
    (hkey : ∀ e a, agrees e a → key e = key a) (h : Matches agrees expected actual) :
    (expected.map key).Perm (actual.map key) := by
  obtain ⟨listed, hperm, hpairs⟩ := h
  rw [map_eq_of_forall₂ hkey hpairs]
  exact (hperm.map key).symm

/-- What is related to the things of a pairing, one by one, is paired
too. -/
theorem Matches.comp {β γ : Type} {agrees agrees' : α → α → Prop} {related : β → γ → Prop}
    {f : β → α} {g : γ → α} {wanted : List β} {shown : List γ}
    (h : Matches agrees (shown.map g) actual) (hrelated : List.Forall₂ related wanted shown)
    (hcomp : ∀ e s a, related e s → agrees (g s) a → agrees' (f e) a) :
    Matches agrees' (wanted.map f) actual := by
  obtain ⟨listed, hperm, hpairs⟩ := h
  refine ⟨listed, hperm, ?_⟩
  clear hperm
  induction hrelated generalizing listed with
  | nil => cases hpairs with | nil => exact .nil
  | cons hhead _ ih =>
    cases hpairs with
    | cons hpair hpairs => exact .cons (hcomp _ _ _ hhead hpair) (ih _ hpairs)

/-- When label sets are expected once, the partner of an expected thing is
the only observed one with its label set. -/
theorem agrees_of_key_eq {agrees : α → α → Prop} (hkey : ∀ e a, agrees e a → key e = key a)
    (hdistinct : (expected.map key).Nodup) (h : List.Forall₂ agrees expected listed) :
    ∀ e ∈ expected, ∀ a ∈ listed, key e = key a → agrees e a := by
  induction h with
  | nil => intro e he; simp at he
  | @cons first partner expected listed hagree hrest ih =>
    obtain ⟨hnot, hdistinct⟩ := List.nodup_cons.mp hdistinct
    have hkeys := map_eq_of_forall₂ hkey hrest
    intro e he a ha hsame
    rcases List.mem_cons.mp he with rfl | he
    · rcases List.mem_cons.mp ha with rfl | ha
      · exact hagree
      · exact absurd (hkeys ▸ hsame ▸ List.mem_map_of_mem ha) hnot
    · rcases List.mem_cons.mp ha with rfl | ha
      · have hfirst : key first ∈ expected.map key := by
          rw [hkey _ _ hagree, ← hsame]
          exact List.mem_map_of_mem he
        exact absurd hfirst hnot
      · exact ih hdistinct e he a ha hsame

/-- **Matching**: when each expected thing agrees with its partner, which
has its label set, and label sets are expected once, the first difference
in order of the label sets is none. -/
theorem Matches.firstDifference? (hdistinct : (expected.map key).Nodup)
    (h : Matches (fun e a => key e = key a ∧ difference? e a = none) expected actual) :
    AlertConformance.firstDifference? difference? (sortByKey key expected)
      (sortByKey key actual) = none := by
  obtain ⟨listed, hperm, hpairs⟩ := h
  have hkeys := map_eq_of_forall₂ (fun _ _ hagree => hagree.1) hpairs
  have hsorted := map_sortByKey_eq (hkeys ▸ (hperm.map key).symm)
  refine firstDifference?_eq_none (List.forall₂_iff_get.mpr ⟨?_, fun i hi hj => ?_⟩)
  · simpa using congrArg List.length hsorted
  · have he := (sortByKey_perm key expected).mem_iff.mp (List.get_mem _ ⟨i, hi⟩)
    have ha := (sortByKey_perm key actual).mem_iff.mp (List.get_mem _ ⟨i, hj⟩)
    refine (agrees_of_key_eq (fun _ _ hagree => hagree.1) hdistinct hpairs _ he _
      (hperm.mem_iff.mp ha) ?_).2
    have hget := congrArg (fun keys => keys[i]?) hsorted
    simpa [List.getElem?_map, List.getElem?_eq_getElem hi, List.getElem?_eq_getElem hj] using hget

end Matching

/-! ## Alerts and samples -/

variable {tolerance : Int}

theorem valuesEqual_self (value : String) : valuesEqual value value = true := by
  rw [valuesEqual, if_pos rfl]

/-- An expected and an observed alert agree when nothing differs but the
time, and that by no more than the tolerance. -/
theorem Alert.difference?_eq_none_iff {expected actual : Alert} :
    expected.difference? tolerance actual = none ↔
      expected.labels.same actual.labels = true ∧ expected.state = actual.state ∧
      expected.annotations.same actual.annotations = true ∧
      valuesEqual expected.value actual.value = true ∧
      bothWithin expected.activeAt actual.activeAt tolerance = true := by
  unfold Alert.difference?
  grind

/-- The same for samples. -/
theorem QuerySample.difference?_eq_none_iff {expected actual : QuerySample} :
    expected.difference? tolerance actual = none ↔
      expected.metric.same actual.metric = true ∧ expected.value.equal actual.value = true ∧
      withinTolerance expected.timestamp actual.timestamp tolerance = true := by
  unfold QuerySample.difference?
  grind

theorem Matches.imp {α : Type} {agrees agrees' : α → α → Prop} {expected actual : List α}
    (hagrees : ∀ e a, agrees e a → agrees' e a) (h : Matches agrees expected actual) :
    Matches agrees' expected actual := by
  obtain ⟨listed, hperm, hpairs⟩ := h
  exact ⟨listed, hperm, hpairs.imp hagrees⟩

/-- A page of alerts that match the expected ones does not differ. -/
theorem Matches.alertsDifference? {expected actual : List Alert}
    (hdistinct : (expected.map Alert.key).Nodup)
    (h : Matches (fun e a => e.difference? tolerance a = none) expected actual) :
    alertsDifference? tolerance expected actual = none := by
  rw [AlertConformance.alertsDifference?, if_neg (by simpa using h.length_eq)]
  refine Matches.firstDifference? hdistinct (h.imp fun e a hagree => ⟨?_, hagree⟩)
  exact (Labels.key_eq_iff_same _ _).mpr (Alert.difference?_eq_none_iff.mp hagree).1

/-- A vector of samples that match the expected ones does not differ. -/
theorem Matches.samplesDifference? {expected : Option (List QuerySample)}
    {actual : List QuerySample} (hdistinct : ((expected.getD []).map QuerySample.key).Nodup)
    (h : Matches (fun e a => e.difference? tolerance a = none) (expected.getD []) actual) :
    samplesDifference? tolerance expected actual = none := by
  simp only [AlertConformance.samplesDifference?]
  rw [if_neg (by simpa using h.length_eq)]
  refine Matches.firstDifference? hdistinct (h.imp fun e a hagree => ⟨?_, hagree⟩)
  exact (Labels.key_eq_iff_same _ _).mpr (QuerySample.difference?_eq_none_iff.mp hagree).1

/-! ## Rules and groups -/

/-- A rule that shows matching alerts does not differ otherwise. -/
theorem RuleSnapshot.difference?_eq_none (rule : RuleSnapshot) {alerts : List Alert}
    (hduration : rule.duration.isClose rule.duration = true)
    (halerts : alertsDifference? tolerance rule.alerts alerts = none) :
    rule.difference? tolerance { rule with alerts } = none := by
  have hfields : rule.fieldDifference? { rule with alerts } = none := by
    simp [RuleSnapshot.fieldDifference?, Labels.same_refl]
  rw [RuleSnapshot.difference?, hfields, Option.none_or, if_neg (by simpa using hduration), halerts,
    Option.map_none]

/-- A group whose rules do not differ does not. -/
theorem GroupSnapshot.difference?_eq_none (group : GroupSnapshot) {rules : List RuleSnapshot}
    (hinterval : group.interval.isClose group.interval = true)
    (hrules : List.Forall₂ (fun e a => RuleSnapshot.difference? tolerance e a = none)
      group.rules rules) :
    group.difference? tolerance { group with rules } = none := by
  rw [GroupSnapshot.difference?, if_neg (by simp), if_neg (by simpa using hinterval),
    if_neg (by simpa using hrules.length_eq), firstDifference?_eq_none hrules]

/-! ## Candidates -/

/-- One candidate without a difference is enough. -/
theorem checkAgainst_ok {α : Type} {difference? : α → Option Difference} {candidates : List α}
    (candidate : α) (hmem : candidate ∈ candidates) (hnone : difference? candidate = none)
    (subject : String) (actual : Literal) (toLiteral : α → Literal) :
    checkAgainst difference? subject actual toLiteral candidates = .ok () := by
  have hany : (candidates.map difference?).any Option.isNone = true :=
    List.any_eq_true.mpr ⟨_, List.mem_map_of_mem hmem, by rw [hnone]; rfl⟩
  rw [checkAgainst, if_pos hany]

end AlertConformance
