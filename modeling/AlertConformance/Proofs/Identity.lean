/-
AlertConformance.Proofs.Identity — alerts are told apart by their label
sets.

The key of a label set is its canonical form: there is one for each map
from names to values. Whatever goes by keys therefore goes by label sets,
the queues and the anchors of a matcher as well as the order in which the
checks compare alerts and samples.

* `SortsByLabels`, `sortsByLabels` — sorting by the keys of label sets.
* `key_canonical` — the key, and what goes by it.
-/
import AlertConformance.Proofs.Check.Verdict
import AlertConformance.Proofs.Matcher.Identity
import Mathlib.Data.List.Induction
import Mathlib.Data.List.Sort

namespace AlertConformance

/-! ## The order of names -/

/-- A text by the numbers of its characters. -/
def codePoints (text : String) : List Nat := text.toList.map Char.toNat

/-- The name of the first pair is smaller, code point by code point. -/
def NameBefore (a b : String × String) : Prop := codePoints a.1 < codePoints b.1

instance : Std.Irrefl NameBefore := ⟨fun _ => List.lt_irrefl _⟩

instance : Std.Antisymm NameBefore :=
  ⟨fun _ _ hab hba => absurd hba (List.lt_asymm hab)⟩

theorem codePoints_lt_of_lt {a b : String} (h : a < b) : codePoints a < codePoints b :=
  List.map_lt (fun _ _ => UInt32.lt_iff_toNat_lt.mp) h

/-- Of two pairs in order with different names, the first has the smaller
name. -/
theorem nameBefore_of_isLE {a b : String × String} (h : (comparePairs a b).isLE = true)
    (hne : a.1 ≠ b.1) : NameBefore a b := by
  refine codePoints_lt_of_lt (compareOfLessAndEq_eq_lt.mp ?_)
  change compare a.1 b.1 = .lt
  change ((compare a.1 b.1).then (compare a.2 b.2)).isLE = true at h
  cases hname : compare a.1 b.1 with
  | lt => rfl
  | eq => exact absurd (Std.compare_eq_iff_eq.mp hname) hne
  | gt => simp [hname] at h

namespace Labels

/-! ## Insertions -/

/-- The value that a name was given last. -/
def lastValue? (name : String) (insertions : List (String × String)) : Option String :=
  (insertions.findRev? fun entry => entry.1 = name).map Prod.snd

/-- The same insertions in another order, except that those of one name
stay in theirs. -/
def Rearranged (insertions others : List (String × String)) : Prop :=
  ∀ name, (insertions.filter fun entry => entry.1 = name) =
    others.filter fun entry => entry.1 = name

theorem lastValue?_concat (name other value : String) (insertions : List (String × String)) :
    lastValue? name (insertions ++ [(other, value)]) =
      if other = name then some value else lastValue? name insertions := by
  unfold lastValue?
  rw [List.findRev?_eq_find?_reverse, List.findRev?_eq_find?_reverse, List.reverse_concat,
    List.find?_cons]
  by_cases h : other = name <;> simp [h]

theorem lastValue?_eq_of_rearranged {insertions others : List (String × String)}
    (h : Rearranged insertions others) (name : String) :
    lastValue? name insertions = lastValue? name others := by
  unfold lastValue?
  rw [List.findRev?_eq_find?_reverse, List.findRev?_eq_find?_reverse, ← List.getLast?_filter,
    ← List.getLast?_filter, h name]

/-- The last insertion of a name has its way. -/
theorem get?_ofList (insertions : List (String × String)) (name : String) :
    (ofList insertions).get? name = lastValue? name insertions := by
  induction insertions using List.reverseRecOn with
  | nil => rfl
  | append_singleton rest entry ih =>
    obtain ⟨other, value⟩ := entry
    have hstep : Keyed.ofList (rest ++ [(other, value)]) =
        Keyed.put other value (Keyed.ofList rest) := List.foldl_concat ..
    rw [lastValue?_concat, ← ih]
    exact (congrArg (Keyed.find? name) hstep).trans (Keyed.find?_put ..)

/-! ## The key of insertions -/

theorem mem_key_iff {labels : Labels} {name value : String} :
    (name, value) ∈ labels.key ↔ labels.get? name = some value := by
  rw [labels.key_perm.mem_iff]
  exact (Keyed.find?_eq_some_iff labels.distinct).symm

/-- A key has its names in increasing order, and so each of them once. -/
theorem key_increasing (labels : Labels) : labels.key.Pairwise NameBefore := by
  have hnames : labels.key.Pairwise fun a b => a.1 ≠ b.1 :=
    List.pairwise_map.mp ((labels.key_perm.map Prod.fst).nodup_iff.mpr labels.distinct)
  exact (labels.key_sorted.and hnames).imp fun h => nameBefore_of_isLE h.1 h.2

/-- **The key**: of all lists of pairs with increasing names, the one that
holds the last value of each name. -/
theorem key_ofList_eq_iff {insertions : List (String × String)} {pairs : LabelKey} :
    (ofList insertions).key = pairs ↔
      pairs.Pairwise NameBefore ∧
        ∀ name value, (name, value) ∈ pairs ↔ lastValue? name insertions = some value := by
  have hmem : ∀ name value,
      (name, value) ∈ (ofList insertions).key ↔ lastValue? name insertions = some value := by
    intro name value
    rw [mem_key_iff, get?_ofList]
  constructor
  · rintro rfl
    exact ⟨key_increasing _, hmem⟩
  · rintro ⟨hincreasing, hpairs⟩
    refine (key_increasing _).eq_of_mem_iff hincreasing fun ⟨name, value⟩ => ?_
    rw [hmem, hpairs]

/-- Every label set is what its own pairs make when they are inserted. -/
theorem ofList_entries (labels : Labels) : ofList labels.entries = labels := by
  obtain ⟨entries, distinct⟩ := labels
  rw [ofList, Labels.mk.injEq]
  exact Keyed.ofList_eq_self distinct

/-- Insertions make one label set when they give every name the same value
last. -/
theorem same_ofList_iff {insertions others : List (String × String)} :
    (ofList insertions).same (ofList others) = true ↔
      ∀ name, lastValue? name insertions = lastValue? name others := by
  constructor
  · intro h name
    rw [← get?_ofList, ← get?_ofList, get?_eq_of_same h]
  · intro h
    refine same_of_get? fun name => ?_
    rw [get?_ofList, get?_ofList, h]

theorem key_ofList_eq_key_iff {insertions others : List (String × String)} :
    (ofList insertions).key = (ofList others).key ↔
      ∀ name, lastValue? name insertions = lastValue? name others := by
  rw [key_eq_iff_same, same_ofList_iff]

end Labels

/-! ## Sorting -/

section Sorting

variable {α : Type}

/-- Sorting by a key tells things apart by their label sets, and by nothing
else. -/
structure SortsByLabels (key : α → LabelKey) (labels : α → Labels) : Prop where
  ordered : ∀ elements, ((sortByKey key elements).map key).Pairwise fun a b =>
    (compareKeys a b).isLE = true
  /-- Neither of two things comes first exactly when they have one label
  set. -/
  tie : ∀ a b, compareKeys (key a) (key b) = .eq ↔ (labels a).same (labels b) = true
  /-- Things with one label set stay in their order. -/
  stable : ∀ elements (wanted : Labels),
    ((sortByKey key elements).filter fun a => (labels a).same wanted) =
      elements.filter fun a => (labels a).same wanted
  /-- Two sorted lists have the same label sets, place by place, exactly
  when both lists have the same ones in some order. -/
  partners : ∀ expected actual,
    List.Forall₂ (fun e a => (labels e).same (labels a) = true) (sortByKey key expected)
        (sortByKey key actual) ↔
      Matches (fun e a => (labels e).same (labels a) = true) expected actual

/-- Things with one key stay in their order: they are sorted from the start,
and sorting keeps every part that is. -/
theorem filter_sortByKey (key : α → LabelKey) (elements : List α) (wanted : LabelKey) :
    ((sortByKey key elements).filter fun a => key a = wanted) =
      elements.filter fun a => key a = wanted := by
  have hsorted : (elements.filter fun a => key a = wanted).Pairwise fun a b =>
      (compareKeys (key a) (key b)).isLE = true := by
    refine List.pairwise_of_forall_mem_list fun a ha b hb => ?_
    have hkey : key a = key b := by
      rw [of_decide_eq_true (List.mem_filter.mp ha).2, of_decide_eq_true (List.mem_filter.mp hb).2]
    rw [hkey]
    exact Std.ReflCmp.isLE_rfl
  have hpart : (elements.filter fun a => key a = wanted).Sublist (sortByKey key elements) :=
    List.sublist_mergeSort (fun _ _ _ => Std.TransCmp.isLE_trans)
      (fun a b => compareKeys_total (key a) (key b)) hsorted List.filter_sublist
  have hkept := hpart.filter fun a => key a = wanted
  rw [List.filter_filter] at hkept
  simp only [Bool.and_self] at hkept
  exact (hkept.eq_of_length ((sortByKey_perm key elements).symm.filter _).length_eq).symm

/-- Sorting puts the same keys in the same places when both lists have the
same ones. -/
theorem forall₂_sortByKey_iff (key : α → LabelKey) (expected actual : List α) :
    List.Forall₂ (fun e a => key e = key a) (sortByKey key expected) (sortByKey key actual) ↔
      Matches (fun e a => key e = key a) expected actual := by
  constructor
  · intro h
    exact (matches_congr_perm (sortByKey_perm key expected) (sortByKey_perm key actual)).mp
      ⟨_, List.Perm.refl _, h⟩
  · intro h
    have hkeys := map_sortByKey_eq (h.map_perm fun _ _ hkey => hkey)
    rwa [← List.forall₂_eq_eq_eq, List.forall₂_map_left_iff, List.forall₂_map_right_iff] at hkeys

/-- **Sorting**: the key of the label set of each thing sorts by label
sets. -/
theorem sortsByLabels (labels : α → Labels) : SortsByLabels (fun a => (labels a).key) labels where
  ordered := map_sortByKey_sorted _
  tie a b := by rw [Std.LawfulEqCmp.compare_eq_iff_eq, Labels.key_eq_iff_same]
  stable elements wanted := by
    have hkept := filter_sortByKey (fun a => (labels a).key) elements wanted.key
    simpa only [Labels.key_eq_iff_same, Bool.decide_eq_true] using hkept
  partners expected actual := by
    have hplaces := forall₂_sortByKey_iff (fun a => (labels a).key) expected actual
    simpa only [Labels.key_eq_iff_same] using hplaces

end Sorting

/-! ## Canonical form -/

/-- **The key is canonical.** The key of a sequence of insertions is the one
list of pairs with increasing names that holds the last value of each, and
so it is equal for sequences that leave the same map, in whatever order. The
queues and the anchors of a matcher, in every state that a run leads to, and
the order in which alerts and samples are compared therefore tell alerts
apart exactly when their label sets differ as maps. -/
theorem key_canonical :
    (∀ labels : Labels, Labels.ofList labels.entries = labels) ∧
    (∀ (insertions : List (String × String)) (pairs : LabelKey),
      (Labels.ofList insertions).key = pairs ↔
        pairs.Pairwise NameBefore ∧
          ∀ name value,
            (name, value) ∈ pairs ↔ Labels.lastValue? name insertions = some value) ∧
    (∀ insertions others : List (String × String),
      ((Labels.ofList insertions).key = (Labels.ofList others).key ↔
        ∀ name, Labels.lastValue? name insertions = Labels.lastValue? name others) ∧
      ((Labels.ofList insertions).same (Labels.ofList others) = true ↔
        ∀ name, Labels.lastValue? name insertions = Labels.lastValue? name others) ∧
      (Labels.Rearranged insertions others →
        (Labels.ofList insertions).key = (Labels.ofList others).key)) ∧
    (∀ (expected : List ScheduledNotification) (matcher : Matcher),
      Matcher.Reaches expected matcher → matcher.Identifies expected) ∧
    SortsByLabels Alert.key Alert.labels ∧
    SortsByLabels QuerySample.key QuerySample.metric := by
  refine ⟨Labels.ofList_entries, fun _ _ => Labels.key_ofList_eq_iff,
    fun insertions others => ⟨?_, ?_, ?_⟩, fun _ _ => Matcher.Reaches.identifies,
    sortsByLabels _, sortsByLabels _⟩
  · exact Labels.key_ofList_eq_key_iff
  · exact Labels.same_ofList_iff
  · intro hrearranged
    exact Labels.key_ofList_eq_key_iff.mpr (Labels.lastValue?_eq_of_rearranged hrearranged)

/-- A label that is given a value and then another one, before and after the
name of the alert. -/
def severityFirst : List (String × String) :=
  [("severity", "page"), ("alertname", "A"), ("severity", "info")]

def severityLast : List (String × String) :=
  [("alertname", "A"), ("severity", "page"), ("severity", "info")]

/-- The two differ in the place of the name alone. -/
theorem rearranged_severity : Labels.Rearranged severityFirst severityLast := by
  intro name
  by_cases hname : "alertname" = name
  · subst hname
    decide
  · simp [severityFirst, severityLast, List.filter_cons, hname]

def severeEvent : ScheduledNotification :=
  { Matcher.sampleEvent "A" 1 0 false with labels := .ofList severityFirst }

/-- An alert is found in the schedule by its labels in the other order. -/
theorem key_canonical_severity :
    (Labels.ofList severityFirst).key = (Labels.ofList severityLast).key ∧
    ∃ start, Matcher.new [severeEvent] = .ok start ∧
      start.head? (Labels.ofList severityLast).key = some severeEvent := by
  obtain ⟨-, -, hinsertions, hmatcher, -⟩ := key_canonical
  refine ⟨(hinsertions _ _).2.2 rearranged_severity, ?_⟩
  obtain ⟨start, hnew⟩ := Matcher.exists_new (show Matcher.Numbered [severeEvent] by decide)
  have hpending : start.pending = [severeEvent] := by
    have hperm := (Matcher.Tracks.new hnew).perm
    rw [Matcher.taken, Matcher.consumed_new hnew] at hperm
    exact List.perm_singleton.mp hperm
  refine ⟨start, hnew, ?_⟩
  rw [(hmatcher _ start ⟨start, [], hnew, rfl⟩).head, hpending, List.find?_singleton]
  exact if_pos (by decide)

end AlertConformance
