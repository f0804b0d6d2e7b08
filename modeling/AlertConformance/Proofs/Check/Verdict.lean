/-
AlertConformance.Proofs.Check.Verdict — what the verdict of a check says.

A check sorts both sides by their label sets and stops at the first
difference. Label sets are expected once, so nothing that is observed has a
choice of partners: if some pairing agrees, it is the one that sorting
finds. A check therefore passes exactly when a pairing with some candidate
agrees, and the order of what is observed, of what is expected and of the
candidates says nothing.

* `matches_iff_exists_equiv` — a pairing is a bijection of the positions.
* `Alert.Fits`, `QuerySample.Fits`, `RuleSnapshot.Fits`,
  `GroupSnapshot.Fits` — what an observation has in common with what is
  expected.
* `sortedDifference?_eq_none_iff` — sorting decides whether some
  pairing agrees.
* `checkAgainst_eq_ok_iff` — a check passes exactly for a candidate without
  a difference.
* `checks_decide` — the verdicts of the three checks.
-/
import AlertConformance.Proofs.Check.Matching
import Mathlib.Data.Fintype.Fin
import Mathlib.Data.List.Perm.Basic
import Mathlib.Logic.Equiv.Fintype

namespace AlertConformance

/-! ## Pairings -/

section Pairings

variable {α : Type} {agrees agrees' : α → α → Prop} {expected expected' actual actual' : List α}

/-- Rearranged lists have a bijection between their positions that keeps
what stands there. -/
theorem exists_equiv_of_perm (h : expected.Perm actual) :
    ∃ partner : Fin expected.length ≃ Fin actual.length,
      ∀ i, actual.get (partner i) = expected.get i := by
  classical
  have hcount : ∀ (xs : List α) (x : α),
      Fintype.card { i : Fin xs.length // xs.get i = x } = xs.count x := by
    intro xs x
    rw [Fintype.card_subtype]
    exact Fin.card_filter_univ_eq_vector_get_eq_count x ⟨xs, rfl⟩
  have hplaces : ∀ x, Nonempty ({ i : Fin expected.length // expected.get i = x } ≃
      { j : Fin actual.length // actual.get j = x }) := by
    intro x
    refine ⟨Fintype.equivOfCardEq ?_⟩
    rw [hcount, hcount, h.count_eq]
  exact ⟨Equiv.ofFiberEquiv fun x => (hplaces x).some, Equiv.ofFiberEquiv_map _⟩

/-- A pairing is a bijection between the positions of both lists whose
pairs agree. -/
theorem matches_iff_exists_equiv :
    Matches agrees expected actual ↔
      ∃ partner : Fin expected.length ≃ Fin actual.length,
        ∀ i, agrees (expected.get i) (actual.get (partner i)) := by
  constructor
  · rintro ⟨listed, hperm, hpairs⟩
    obtain ⟨hlength, hget⟩ := List.forall₂_iff_get.mp hpairs
    obtain ⟨place, hplace⟩ := exists_equiv_of_perm hperm.symm
    refine ⟨(finCongr hlength).trans place, fun i => ?_⟩
    rw [Equiv.trans_apply, hplace]
    exact hget i i.isLt (hlength ▸ i.isLt)
  · rintro ⟨partner, hagrees⟩
    have hlength : expected.length = actual.length := by
      simpa using Fintype.card_congr partner
    refine ⟨List.ofFn fun i => actual.get (partner i), ?_, ?_⟩
    · have hplaces := Equiv.Perm.ofFn_comp_perm ((finCongr hlength.symm).trans partner) actual.get
      rw [List.ofFn_get] at hplaces
      refine hplaces.symm.trans (List.Perm.of_eq ?_)
      exact List.ofFn_congr hlength.symm _
    · refine List.forall₂_iff_get.mpr ⟨by simp, fun i hi _ => ?_⟩
      simpa using hagrees ⟨i, hi⟩

theorem matches_congr (h : ∀ e a, agrees e a ↔ agrees' e a) :
    Matches agrees expected actual ↔ Matches agrees' expected actual :=
  ⟨Matches.imp fun e a => (h e a).mp, Matches.imp fun e a => (h e a).mpr⟩

/-- The order of the observed things does not matter to a pairing, … -/
theorem Matches.perm_right (h : Matches agrees expected actual) (hperm : actual.Perm actual') :
    Matches agrees expected actual' := by
  obtain ⟨listed, hlisted, hpairs⟩ := h
  exact ⟨listed, hperm.symm.trans hlisted, hpairs⟩

/-- … nor does that of the expected ones. -/
theorem Matches.perm_left (h : Matches agrees expected actual) (hperm : expected'.Perm expected) :
    Matches agrees expected' actual := by
  obtain ⟨listed, hlisted, hpairs⟩ := h
  obtain ⟨listed', hpairs', hlisted'⟩ := List.perm_comp_forall₂ hperm hpairs
  exact ⟨listed', hlisted.trans hlisted'.symm, hpairs'⟩

theorem matches_congr_perm (hexpected : expected.Perm expected') (hactual : actual.Perm actual') :
    Matches agrees expected actual ↔ Matches agrees expected' actual' :=
  ⟨fun h => (h.perm_left hexpected.symm).perm_right hactual,
    fun h => (h.perm_left hexpected).perm_right hactual.symm⟩

/-- Each expected thing has a partner among the observed. -/
theorem Matches.exists_partner (h : Matches agrees expected actual) {e : α} (he : e ∈ expected) :
    ∃ a ∈ actual, agrees e a := by
  obtain ⟨partner, hagrees⟩ := matches_iff_exists_equiv.mp h
  obtain ⟨i, rfl⟩ := List.mem_iff_get.mp he
  exact ⟨_, List.get_mem _ _, hagrees i⟩

theorem Matches.symm (hsymm : ∀ e a, agrees e a → agrees a e) (h : Matches agrees expected actual) :
    Matches agrees actual expected := by
  obtain ⟨listed, hperm, hpairs⟩ := h
  have hflip : Matches agrees listed expected :=
    ⟨expected, List.Perm.refl _, hpairs.flip.imp fun a e hagree => hsymm e a hagree⟩
  exact hflip.perm_left hperm

end Pairings

/-! ## Differences of whole lists -/

section Lists

variable {α : Type} {key : α → LabelKey} {difference? : α → α → Option Difference}
  {expected actual : List α}

theorem firstDifference?_eq_none_iff (hlength : expected.length = actual.length) :
    firstDifference? difference? expected actual = none ↔
      List.Forall₂ (fun e a => difference? e a = none) expected actual := by
  refine ⟨fun h => ?_, firstDifference?_eq_none⟩
  induction expected generalizing actual with
  | nil =>
    cases actual with
    | nil => exact .nil
    | cons a as => simp at hlength
  | cons e es ih =>
    cases actual with
    | nil => simp at hlength
    | cons a as =>
      simp only [firstDifference?, Option.or_eq_none_iff] at h
      simp only [List.length_cons, Nat.add_right_cancel_iff] at hlength
      exact .cons h.1 (ih hlength h.2)

/-- **Sorting**: when things without a difference have one label set, and
label sets are expected once, two lists that are counted and then compared
in order have no difference exactly when some pairing has none. What is
observed may hold anything, also one label set twice. -/
theorem sortedDifference?_eq_none_iff {count : Difference}
    (hkey : ∀ e a, difference? e a = none → key e = key a)
    (hdistinct : (expected.map key).Nodup) :
    (if expected.length ≠ actual.length then some count
      else firstDifference? difference? (sortByKey key expected) (sortByKey key actual)) = none ↔
      Matches (fun e a => difference? e a = none) expected actual := by
  constructor
  · intro h
    by_cases hlength : expected.length = actual.length
    · rw [if_neg (not_not.mpr hlength)] at h
      have hsorted : (sortByKey key expected).length = (sortByKey key actual).length := by
        rw [(sortByKey_perm key expected).length_eq, (sortByKey_perm key actual).length_eq, hlength]
      have hmatches : Matches (fun e a => difference? e a = none) (sortByKey key expected)
          (sortByKey key actual) :=
        ⟨_, List.Perm.refl _, (firstDifference?_eq_none_iff hsorted).mp h⟩
      exact (matches_congr_perm (sortByKey_perm key expected)
        (sortByKey_perm key actual)).mp hmatches
    · simp [hlength] at h
  · intro h
    rw [if_neg (not_not.mpr h.length_eq)]
    exact Matches.firstDifference? hdistinct (h.imp fun e a hnone => ⟨hkey e a hnone, hnone⟩)

end Lists

/-! ## What an observation has in common with what is expected -/

/-- An alert that fits an expected one: everything is equal but the time,
which is near. -/
structure Alert.Fits (tolerance : Int) (expected actual : Alert) : Prop where
  labels : expected.labels.same actual.labels = true
  state : expected.state = actual.state
  annotations : expected.annotations.same actual.annotations = true
  value : valuesEqual expected.value actual.value = true
  activeAt :
    (expected.activeAt = none ∧ actual.activeAt = none) ∨
      ∃ wanted ∈ expected.activeAt, ∃ seen ∈ actual.activeAt, (wanted - seen).natAbs ≤ tolerance

/-- A sample that fits an expected one. -/
structure QuerySample.Fits (tolerance : Int) (expected actual : QuerySample) : Prop where
  metric : expected.metric.same actual.metric = true
  value : expected.value.equal actual.value = true
  timestamp : (expected.timestamp - actual.timestamp).natAbs ≤ tolerance

/-- A rule that fits an expected one: everything is equal but the duration,
which is close, and the alerts, which fit in some order. -/
structure RuleSnapshot.Fits (tolerance : Int) (expected actual : RuleSnapshot) : Prop where
  name : expected.name = actual.name
  query : expected.query = actual.query
  state : expected.state = actual.state
  health : expected.health = actual.health
  kind : expected.kind = actual.kind
  labels : expected.labels.same actual.labels = true
  annotations : expected.annotations.same actual.annotations = true
  duration : expected.duration.isClose actual.duration = true
  alerts : Matches (Alert.Fits tolerance) expected.alerts actual.alerts

/-- A group that fits an expected one: the rules fit one by one, in
order. -/
structure GroupSnapshot.Fits (tolerance : Int) (expected actual : GroupSnapshot) : Prop where
  name : expected.name = actual.name
  interval : expected.interval.isClose actual.interval = true
  rules : List.Forall₂ (RuleSnapshot.Fits tolerance) expected.rules actual.rules

section Fits

variable {tolerance : Int}

theorem withinTolerance_iff {expected actual : Int} :
    withinTolerance expected actual tolerance = true ↔ (expected - actual).natAbs ≤ tolerance := by
  rw [withinTolerance, decide_eq_true_eq]

theorem bothWithin_iff {expected actual : Option Int} :
    bothWithin expected actual tolerance = true ↔
      (expected = none ∧ actual = none) ∨
        ∃ wanted ∈ expected, ∃ seen ∈ actual, (wanted - seen).natAbs ≤ tolerance := by
  cases expected with
  | none => cases actual with
    | none => simp [bothWithin]
    | some seen => simp [bothWithin]
  | some wanted => cases actual with
    | none => simp [bothWithin]
    | some seen => simp [bothWithin, withinTolerance_iff]

theorem Alert.difference?_eq_none_iff_fits {expected actual : Alert} :
    expected.difference? tolerance actual = none ↔ expected.Fits tolerance actual := by
  rw [Alert.difference?_eq_none_iff, bothWithin_iff]
  constructor
  · rintro ⟨hlabels, hstate, hannotations, hvalue, htime⟩
    exact ⟨hlabels, hstate, hannotations, hvalue, htime⟩
  · rintro ⟨hlabels, hstate, hannotations, hvalue, htime⟩
    exact ⟨hlabels, hstate, hannotations, hvalue, htime⟩

theorem QuerySample.difference?_eq_none_iff_fits {expected actual : QuerySample} :
    expected.difference? tolerance actual = none ↔ expected.Fits tolerance actual := by
  rw [QuerySample.difference?_eq_none_iff, withinTolerance_iff]
  constructor
  · rintro ⟨hmetric, hvalue, htime⟩
    exact ⟨hmetric, hvalue, htime⟩
  · rintro ⟨hmetric, hvalue, htime⟩
    exact ⟨hmetric, hvalue, htime⟩

theorem Alert.Fits.key_eq {expected actual : Alert} (h : expected.Fits tolerance actual) :
    expected.key = actual.key :=
  (Labels.key_eq_iff_same _ _).mpr h.labels

theorem QuerySample.Fits.key_eq {expected actual : QuerySample}
    (h : expected.Fits tolerance actual) : expected.key = actual.key :=
  (Labels.key_eq_iff_same _ _).mpr h.metric

/-- A page of alerts has no difference exactly when its alerts fit the
expected ones in some order. -/
theorem alertsDifference?_eq_none_iff {expected actual : List Alert}
    (hdistinct : (expected.map Alert.key).Nodup) :
    alertsDifference? tolerance expected actual = none ↔
      Matches (Alert.Fits tolerance) expected actual := by
  rw [← matches_congr fun e a => Alert.difference?_eq_none_iff_fits]
  refine sortedDifference?_eq_none_iff (fun e a hnone => ?_) hdistinct
  exact (Alert.difference?_eq_none_iff_fits.mp hnone).key_eq

/-- The same for a vector of samples, where no vector is an empty one. -/
theorem samplesDifference?_eq_none_iff {expected : Option (List QuerySample)}
    {actual : List QuerySample} (hdistinct : ((expected.getD []).map QuerySample.key).Nodup) :
    samplesDifference? tolerance expected actual = none ↔
      Matches (QuerySample.Fits tolerance) (expected.getD []) actual := by
  rw [← matches_congr fun e a => QuerySample.difference?_eq_none_iff_fits]
  refine sortedDifference?_eq_none_iff (fun e a hnone => ?_) hdistinct
  exact (QuerySample.difference?_eq_none_iff_fits.mp hnone).key_eq

theorem RuleSnapshot.fieldDifference?_eq_none_iff {expected actual : RuleSnapshot} :
    expected.fieldDifference? actual = none ↔
      expected.name = actual.name ∧ expected.query = actual.query ∧
      expected.state = actual.state ∧ expected.health = actual.health ∧
      expected.kind = actual.kind ∧ expected.labels.same actual.labels = true ∧
      expected.annotations.same actual.annotations = true := by
  simp [RuleSnapshot.fieldDifference?]

theorem RuleSnapshot.difference?_eq_none_iff {expected actual : RuleSnapshot}
    (hdistinct : (expected.alerts.map Alert.key).Nodup) :
    expected.difference? tolerance actual = none ↔ expected.Fits tolerance actual := by
  rw [RuleSnapshot.difference?, Option.or_eq_none_iff, RuleSnapshot.fieldDifference?_eq_none_iff]
  constructor
  · rintro ⟨⟨hname, hquery, hstate, hhealth, hkind, hlabels, hannotations⟩, hrest⟩
    by_cases hduration : expected.duration.isClose actual.duration = true
    · rw [if_neg (by simp [hduration]), Option.map_eq_none_iff,
        alertsDifference?_eq_none_iff hdistinct] at hrest
      exact ⟨hname, hquery, hstate, hhealth, hkind, hlabels, hannotations, hduration, hrest⟩
    · simp [hduration] at hrest
  · intro h
    refine ⟨⟨h.name, h.query, h.state, h.health, h.kind, h.labels, h.annotations⟩, ?_⟩
    rw [if_neg (by simp [h.duration]), Option.map_eq_none_iff,
      alertsDifference?_eq_none_iff hdistinct]
    exact h.alerts

theorem GroupSnapshot.difference?_eq_none_iff {expected actual : GroupSnapshot}
    (hdistinct : ∀ rule ∈ expected.rules, (rule.alerts.map Alert.key).Nodup) :
    expected.difference? tolerance actual = none ↔ expected.Fits tolerance actual := by
  have hrules : ∀ {es as : List RuleSnapshot},
      (∀ rule ∈ es, (rule.alerts.map Alert.key).Nodup) →
      (List.Forall₂ (fun e a => RuleSnapshot.difference? tolerance e a = none) es as ↔
        List.Forall₂ (RuleSnapshot.Fits tolerance) es as) := by
    intro es as hdistinct
    simp only [List.forall₂_iff_get]
    refine and_congr_right fun _ => forall_congr' fun i => forall_congr' fun hi =>
      forall_congr' fun _ => ?_
    exact RuleSnapshot.difference?_eq_none_iff (hdistinct _ (List.get_mem _ _))
  unfold GroupSnapshot.difference?
  constructor
  · intro h
    split at h
    · simp at h
    split at h
    · simp at h
    split at h
    · simp at h
    rename_i hname hinterval hlength
    rw [firstDifference?_eq_none_iff (not_not.mp hlength), hrules hdistinct] at h
    exact ⟨not_not.mp hname, by simpa using hinterval, h⟩
  · intro h
    have hlength := h.rules.length_eq
    rw [if_neg (by simp [h.name]), if_neg (by simp [h.interval]), if_neg (by simp [hlength]),
      firstDifference?_eq_none_iff hlength, hrules hdistinct]
    exact h.rules

end Fits

/-! ## Rearrangements -/

/-- The same rule with its alerts in another order. -/
def RuleSnapshot.Rearranged (rule other : RuleSnapshot) : Prop :=
  rule.alerts.Perm other.alerts ∧ other = { rule with alerts := other.alerts }

/-- The same group with the alerts of its rules in another order; the rules
stay in theirs. -/
def GroupSnapshot.Rearranged (group other : GroupSnapshot) : Prop :=
  List.Forall₂ RuleSnapshot.Rearranged group.rules other.rules ∧
    other = { group with rules := other.rules }

section Rearranged

variable {tolerance : Int}

theorem RuleSnapshot.Rearranged.symm {rule other : RuleSnapshot} (h : rule.Rearranged other) :
    other.Rearranged rule := by
  obtain ⟨hperm, hother⟩ := h
  refine ⟨hperm.symm, ?_⟩
  rw [hother]

theorem GroupSnapshot.Rearranged.symm {group other : GroupSnapshot} (h : group.Rearranged other) :
    other.Rearranged group := by
  obtain ⟨hrules, hother⟩ := h
  refine ⟨hrules.flip.imp fun _ _ (hrule : RuleSnapshot.Rearranged _ _) => hrule.symm, ?_⟩
  rw [hother]

/-- A rule fits in whatever order its alerts are listed. -/
theorem RuleSnapshot.Fits.rearranged {expected expected' actual actual' : RuleSnapshot}
    (h : expected.Fits tolerance actual) (hexpected : expected.Rearranged expected')
    (hactual : actual.Rearranged actual') : expected'.Fits tolerance actual' := by
  obtain ⟨hperm, hexpected⟩ := hexpected
  obtain ⟨hperm', hactual⟩ := hactual
  rw [hexpected, hactual]
  exact ⟨h.name, h.query, h.state, h.health, h.kind, h.labels, h.annotations, h.duration,
    (matches_congr_perm hperm hperm').mp h.alerts⟩

theorem GroupSnapshot.Fits.rearranged {expected expected' actual actual' : GroupSnapshot}
    (h : expected.Fits tolerance actual) (hexpected : expected.Rearranged expected')
    (hactual : actual.Rearranged actual') : expected'.Fits tolerance actual' := by
  obtain ⟨hrules, hexpected⟩ := hexpected
  obtain ⟨hrules', hactual⟩ := hactual
  rw [hexpected, hactual]
  refine ⟨h.name, h.interval, ?_⟩
  have hfits := h.rules
  rw [List.forall₂_iff_get] at hrules hrules' hfits ⊢
  refine ⟨by rw [← hrules.1, hfits.1, hrules'.1], fun i hi hj => ?_⟩
  have hwanted : i < expected.rules.length := hrules.1 ▸ hi
  have hseen : i < actual.rules.length := hrules'.1 ▸ hj
  exact (hfits.2 i hwanted hseen).rearranged (hrules.2 i hwanted hi) (hrules'.2 i hseen hj)

theorem nodup_keys_congr {α : Type} {key : α → LabelKey} {listed listed' : List α}
    (hperm : listed.Perm listed') (hdistinct : (listed.map key).Nodup) :
    (listed'.map key).Nodup :=
  (hperm.map key).nodup_iff.mp hdistinct

/-- The label sets of a group's alerts stay distinct, rule by rule. -/
theorem GroupSnapshot.Rearranged.distinct {group other : GroupSnapshot}
    (h : group.Rearranged other)
    (hdistinct : ∀ rule ∈ group.rules, (rule.alerts.map Alert.key).Nodup) :
    ∀ rule ∈ other.rules, (rule.alerts.map Alert.key).Nodup := by
  intro rule hrule
  obtain ⟨i, rfl⟩ := List.mem_iff_get.mp hrule
  obtain ⟨hlength, hget⟩ := List.forall₂_iff_get.mp h.1
  have hi : i < group.rules.length := by rw [hlength]; exact i.isLt
  exact nodup_keys_congr (hget i hi i.isLt).1 (hdistinct _ (List.get_mem _ _))

end Rearranged

/-! ## Verdicts -/

/-- A check passes exactly for a candidate without a difference. -/
theorem checkAgainst_eq_ok_iff {α : Type} {difference? : α → Option Difference}
    {candidates : List α} (subject : String) (actual : Literal) (toLiteral : α → Literal) :
    checkAgainst difference? subject actual toLiteral candidates = .ok () ↔
      ∃ candidate ∈ candidates, difference? candidate = none := by
  constructor
  · intro h
    by_cases hany : (candidates.map difference?).any Option.isNone = true
    · simpa using hany
    · rw [checkAgainst, if_neg hany] at h
      simp at h
  · rintro ⟨candidate, hmem, hnone⟩
    exact checkAgainst_ok candidate hmem hnone subject actual toLiteral

/-- A check `decides` a relation between candidates and observations: as
long as the candidates are `Distinct`, it passes exactly when the
observation fits one of them, and its verdict stays when the candidates,
the things in each and the observed things come in another order. -/
structure Decides {α β : Type} (check : List α → β → Result Unit) (Distinct : α → Prop)
    (fits : α → β → Prop) (rearranged : α → α → Prop) (rearranged' : β → β → Prop) : Prop where
  iff : ∀ candidates actual, (∀ candidate ∈ candidates, Distinct candidate) →
    (check candidates actual = .ok () ↔ ∃ candidate ∈ candidates, fits candidate actual)
  order : ∀ candidates candidates' actual actual',
    (∀ candidate ∈ candidates, Distinct candidate) →
    Matches rearranged candidates candidates' → rearranged' actual actual' →
    (check candidates actual = .ok () ↔ check candidates' actual' = .ok ())

/-- A check that passes exactly for what fits does not depend on an order
that neither distinctness nor fitting depend on. -/
theorem Decides.of_iff {α β : Type} {check : List α → β → Result Unit} {Distinct : α → Prop}
    {fits : α → β → Prop} {rearranged : α → α → Prop} {rearranged' : β → β → Prop}
    (hiff : ∀ candidates actual, (∀ candidate ∈ candidates, Distinct candidate) →
      (check candidates actual = .ok () ↔ ∃ candidate ∈ candidates, fits candidate actual))
    (hsymm : ∀ e e', rearranged e e' → rearranged e' e)
    (hsymm' : ∀ a a', rearranged' a a' → rearranged' a' a)
    (hdistinct : ∀ e e', rearranged e e' → Distinct e → Distinct e')
    (hfits : ∀ e e' a a', rearranged e e' → rearranged' a a' → fits e a → fits e' a') :
    Decides check Distinct fits rearranged rearranged' := by
  refine ⟨hiff, fun candidates candidates' actual actual' hd hcandidates hactual => ?_⟩
  have hback := hcandidates.symm hsymm
  have hd' : ∀ candidate ∈ candidates', Distinct candidate := by
    intro candidate hmem
    obtain ⟨origin, horigin, hrearranged⟩ := hback.exists_partner hmem
    exact hdistinct _ _ (hsymm _ _ hrearranged) (hd origin horigin)
  rw [hiff _ _ hd, hiff _ _ hd']
  constructor
  · rintro ⟨candidate, hmem, hfit⟩
    obtain ⟨partner, hpartner, hrearranged⟩ := hcandidates.exists_partner hmem
    exact ⟨partner, hpartner, hfits _ _ _ _ hrearranged hactual hfit⟩
  · rintro ⟨candidate, hmem, hfit⟩
    obtain ⟨partner, hpartner, hrearranged⟩ := hback.exists_partner hmem
    exact ⟨partner, hpartner, hfits _ _ _ _ hrearranged (hsymm' _ _ hactual) hfit⟩

theorem checkAlerts_eq_ok_iff {candidates : List (List Alert)} {actual : List Alert}
    {tolerance : Int}
    (hdistinct : ∀ candidate ∈ candidates, (candidate.map Alert.key).Nodup) :
    checkAlerts candidates actual tolerance = .ok () ↔
      ∃ candidate ∈ candidates, Matches (Alert.Fits tolerance) candidate actual := by
  rw [checkAlerts, checkAgainst_eq_ok_iff]
  refine exists_congr fun candidate => and_congr_right fun hmem => ?_
  exact alertsDifference?_eq_none_iff (hdistinct candidate hmem)

theorem checkGroup_eq_ok_iff {candidates : List GroupSnapshot} {actual : GroupSnapshot}
    {tolerance : Int}
    (hdistinct : ∀ candidate ∈ candidates, ∀ rule ∈ candidate.rules,
      (rule.alerts.map Alert.key).Nodup) :
    checkGroup candidates actual tolerance = .ok () ↔
      ∃ candidate ∈ candidates, candidate.Fits tolerance actual := by
  rw [checkGroup, checkAgainst_eq_ok_iff]
  refine exists_congr fun candidate => and_congr_right fun hmem => ?_
  exact GroupSnapshot.difference?_eq_none_iff (hdistinct candidate hmem)

theorem checkSamples_eq_ok_iff {candidates : List (Option (List QuerySample))}
    {actual : List QuerySample} {tolerance : Int}
    (hdistinct : ∀ candidate ∈ candidates, ((candidate.getD []).map QuerySample.key).Nodup) :
    checkSamples candidates actual tolerance = .ok () ↔
      ∃ candidate ∈ candidates, Matches (QuerySample.Fits tolerance) (candidate.getD []) actual := by
  rw [checkSamples, checkAgainst_eq_ok_iff]
  refine exists_congr fun candidate => and_congr_right fun hmem => ?_
  exact samplesDifference?_eq_none_iff (hdistinct candidate hmem)

/-- **The verdicts**: as long as label sets are expected once, the checks
pass exactly for the observations that fit a candidate. Alerts and samples
are paired in any order, no vector counts as an empty one, and rules are
compared one by one with their alerts in any order. -/
theorem checks_decide (tolerance : Int) :
    Decides (fun candidates actual => checkAlerts candidates actual tolerance)
      (fun alerts => (alerts.map Alert.key).Nodup) (Matches (Alert.Fits tolerance))
      List.Perm List.Perm ∧
    Decides (fun candidates actual => checkGroup candidates actual tolerance)
      (fun group => ∀ rule ∈ group.rules, (rule.alerts.map Alert.key).Nodup)
      (GroupSnapshot.Fits tolerance) GroupSnapshot.Rearranged GroupSnapshot.Rearranged ∧
    Decides (fun candidates actual => checkSamples candidates actual tolerance)
      (fun samples => ((samples.getD []).map QuerySample.key).Nodup)
      (fun expected => Matches (QuerySample.Fits tolerance) (expected.getD []))
      (fun samples samples' => (samples.getD []).Perm (samples'.getD [])) List.Perm := by
  refine ⟨?alerts, ?group, ?samples⟩
  case alerts =>
    exact Decides.of_iff (fun _ _ => checkAlerts_eq_ok_iff) (fun _ _ h => h.symm)
      (fun _ _ h => h.symm) (fun _ _ => nodup_keys_congr)
      (fun _ _ _ _ hperm hperm' => (matches_congr_perm hperm hperm').mp)
  case group =>
    exact Decides.of_iff (fun _ _ => checkGroup_eq_ok_iff) (fun _ _ h => h.symm)
      (fun _ _ h => h.symm) (fun _ _ h => h.distinct)
      (fun _ _ _ _ hexpected hactual h => h.rearranged hexpected hactual)
  case samples =>
    exact Decides.of_iff (fun _ _ => checkSamples_eq_ok_iff) (fun _ _ h => h.symm)
      (fun _ _ h => h.symm) (fun _ _ => nodup_keys_congr)
      (fun _ _ _ _ hperm hperm' => (matches_congr_perm hperm hperm').mp)

/-- An alert of a rule with two variants. -/
def variantAlert (activeAt : Int) (variant : String) : Alert where
  labels := .ofList [("alertname", "Variants"), ("variant", variant)]
  annotations := .empty
  state := AlertState.firing
  value := "1"
  activeAt := some activeAt

/-- Two alerts that are observed half a second late, the second one
first. -/
theorem checks_decide_swapped :
    checkAlerts [[], ["one", "two"].map (variantAlert 0)] (["two", "one"].map (variantAlert 500))
      1000 = .ok () := by
  have hdistinct : ∀ candidate ∈ [[], ["one", "two"].map (variantAlert 0)],
      (candidate.map Alert.key).Nodup := by
    have hkey : (variantAlert 0 "one").key ≠ (variantAlert 0 "two").key := by
      rw [Alert.key, Alert.key, ne_eq, Labels.key_eq_iff_same]
      decide
    simp [hkey]
  obtain ⟨hiff, -⟩ := (checks_decide 1000).1
  refine (hiff _ _ hdistinct).mpr ⟨_, .tail _ (.head _), ?_⟩
  refine ⟨["one", "two"].map (variantAlert 500), List.Perm.swap _ _ _, ?_⟩
  have hfits : ∀ variant, (variantAlert 0 variant).Fits 1000 (variantAlert 500 variant) := by
    intro variant
    exact ⟨Labels.same_refl _, rfl, Labels.same_refl _, valuesEqual_self _,
      .inr ⟨0, rfl, 500, rfl, by decide⟩⟩
  exact .cons (hfits "one") (.cons (hfits "two") .nil)

end AlertConformance
