/-
AlertConformance.Proofs.LabelKey — the key of a label set identifies it.

A label set remembers the order of its insertions, its key does not: the
key holds the same pairs, sorted by name. Two label sets therefore have
one key exactly when they give the same names the same values.

* `Keyed.find?_eq_some_iff` — looking up finds the pairs of the list.
* `Keyed.ofList_eq_self` — insertions of different names are the list.
* `Labels.key_eq_of_perm` — the key forgets the order of insertion.
* `Labels.key_eq_iff_same` — equal keys are equal label sets.
* `Labels.get?_eq_of_same`, `Labels.same_of_get?` — equal label sets give
  every name the same value.
* `Labels.get?_override` — the values of two label sets put together.
-/
import AlertConformance.Labels
import Mathlib.Data.List.Perm.Subperm

namespace AlertConformance

/-! ## Looking up a name -/

namespace Keyed

variable {κ α : Type} [DecidableEq κ] {name : κ} {value : α} {entries : List (κ × α)}

theorem find?_of_mem (hd : (keys entries).Nodup) (h : (name, value) ∈ entries) :
    find? name entries = some value := by
  induction entries with
  | nil => simp at h
  | cons entry rest ih =>
    obtain ⟨key, old⟩ := entry
    simp only [keys, List.map_cons, List.nodup_cons] at hd
    rcases List.mem_cons.mp h with h | h
    · obtain ⟨rfl, rfl⟩ := Prod.mk.inj h
      simp [find?]
    · have hne : ¬ key = name := by
        rintro rfl
        exact hd.1 (List.mem_map.mpr ⟨(key, value), h, rfl⟩)
      simpa [find?, hne] using ih hd.2 h

theorem mem_of_find? (h : find? name entries = some value) : (name, value) ∈ entries := by
  induction entries with
  | nil => simp [find?] at h
  | cons entry rest ih =>
    obtain ⟨key, old⟩ := entry
    by_cases hk : key = name
    · subst hk
      simp only [find?, if_true, Option.some.injEq] at h
      simp [h]
    · simp only [find?, if_neg hk] at h
      exact List.mem_cons_of_mem _ (ih h)

/-- A name has a value exactly when the list holds the pair of both. -/
theorem find?_eq_some_iff (hd : (keys entries).Nodup) :
    find? name entries = some value ↔ (name, value) ∈ entries :=
  ⟨mem_of_find?, find?_of_mem hd⟩

theorem find?_foldl_put (insertions entries : List (κ × α)) (hd : (keys insertions).Nodup) :
    find? name (insertions.foldl (fun acc (name, value) => put name value acc) entries) =
      (find? name insertions).or (find? name entries) := by
  induction insertions generalizing entries with
  | nil => rfl
  | cons entry rest ih =>
    obtain ⟨key, value⟩ := entry
    obtain ⟨hfresh, hd⟩ := List.nodup_cons.mp hd
    rw [List.foldl_cons, ih _ hd, find?_put, find?]
    by_cases hkey : key = name
    · have hnone : find? name rest = none := by
        cases hfind : find? name rest with
        | none => rfl
        | some value => exact absurd (List.mem_map_of_mem (mem_of_find? hfind)) (hkey ▸ hfresh)
      rw [if_pos hkey, if_pos hkey, hnone, Option.none_or, Option.some_or]
    · rw [if_neg hkey, if_neg hkey]

theorem find?_filter_ne (other : κ) :
    find? name (entries.filter fun entry => entry.1 ≠ other) =
      if name = other then none else find? name entries := by
  induction entries with
  | nil => simp [find?]
  | cons entry rest ih =>
    obtain ⟨key, value⟩ := entry
    by_cases hkey : key = other
    · rw [List.filter_cons_of_neg (by simpa using hkey), ih, find?]
      by_cases hname : name = other
      · rw [if_pos hname, if_pos hname]
      · rw [if_neg hname, if_neg hname, if_neg fun heq => hname (heq.symm.trans hkey)]
    · rw [List.filter_cons_of_pos (by simpa using hkey), find?, ih, find?]
      by_cases hname : key = name
      · rw [if_pos hname, if_pos hname, if_neg fun heq => hkey (hname.trans heq)]
      · rw [if_neg hname, if_neg hname]

/-! ## Names that come once -/

omit [DecidableEq κ] in
theorem nodup_of_nodup_keys (h : (keys entries).Nodup) : entries.Nodup :=
  List.Pairwise.of_map Prod.fst (fun _ _ hne heq => hne (heq ▸ rfl)) h

/-- Lists without a name that comes twice are rearrangements of each other
when they give every name the same value. -/
theorem perm_iff_find?_eq {others : List (κ × α)} (h : (keys entries).Nodup)
    (h' : (keys others).Nodup) :
    entries.Perm others ↔ ∀ name, find? name entries = find? name others := by
  constructor
  · intro hperm name
    refine Option.ext fun value => ?_
    rw [find?_eq_some_iff h, find?_eq_some_iff h', hperm.mem_iff]
  · intro hfind
    rw [List.perm_ext_iff_of_nodup (nodup_of_nodup_keys h) (nodup_of_nodup_keys h')]
    rintro ⟨name, value⟩
    rw [← find?_eq_some_iff h, ← find?_eq_some_iff h', hfind name]

theorem put_of_notMem (h : name ∉ keys entries) :
    put name value entries = entries ++ [(name, value)] := by
  induction entries with
  | nil => rfl
  | cons entry rest ih =>
    obtain ⟨key, old⟩ := entry
    rw [keys, List.map_cons, List.mem_cons, not_or] at h
    rw [put, if_neg fun heq => h.1 heq.symm, ih h.2, List.cons_append]

theorem foldl_put_of_nodup {insertions : List (κ × α)}
    (h : (keys (entries ++ insertions)).Nodup) :
    insertions.foldl (fun acc (name, value) => put name value acc) entries =
      entries ++ insertions := by
  induction insertions generalizing entries with
  | nil => rw [List.foldl_nil, List.append_nil]
  | cons entry rest ih =>
    obtain ⟨name, value⟩ := entry
    have hfresh : name ∉ keys entries := by
      rw [keys, List.map_append, List.map_cons] at h
      exact fun hmem => (List.nodup_append.mp h).2.2 _ hmem _ List.mem_cons_self rfl
    simp only [List.foldl_cons, put_of_notMem hfresh]
    rw [ih (by simpa using h), List.append_assoc, List.singleton_append]

/-- Names that come once are kept as they are. -/
theorem ofList_eq_self (h : (keys entries).Nodup) : ofList entries = entries :=
  foldl_put_of_nodup h

end Keyed

/-! ## The order of pairs -/

instance : Std.TransCmp comparePairs := inferInstanceAs (Std.TransCmp (compareLex _ _))

instance : Std.LawfulEqCmp comparePairs where
  eq_of_compare h := by
    simp only [comparePairs, compareLex_eq_eq, compareOn, Std.LawfulEqOrd.compare_eq_iff_eq] at h
    exact Prod.ext h.1 h.2

theorem comparePairs_antisymm {a b : String × String}
    (hab : (comparePairs a b).isLE = true) (hba : (comparePairs b a).isLE = true) : a = b :=
  Std.LawfulEqCmp.eq_of_compare (Std.OrientedCmp.isLE_antisymm hab hba)

theorem comparePairs_total (a b : String × String) :
    ((comparePairs a b).isLE || (comparePairs b a).isLE) = true := by
  have h : comparePairs a b = (comparePairs b a).swap := Std.OrientedCmp.eq_swap
  rw [h]
  cases comparePairs b a <;> rfl

/-! ## The key -/

namespace Labels

theorem key_perm (labels : Labels) : labels.key.Perm labels.entries :=
  List.mergeSort_perm _ _

theorem key_sorted (labels : Labels) :
    labels.key.Pairwise fun a b => (comparePairs a b).isLE = true :=
  List.pairwise_mergeSort (fun _ _ _ => Std.TransCmp.isLE_trans) comparePairs_total _

/-- The key forgets the order of insertion. -/
theorem key_eq_of_perm {a b : Labels} (h : a.entries.Perm b.entries) : a.key = b.key :=
  List.Perm.eq_of_pairwise (fun _ _ _ _ hxy hyx => comparePairs_antisymm hxy hyx)
    a.key_sorted b.key_sorted (a.key_perm.trans (h.trans b.key_perm.symm))

/-- Equal label sets are rearrangements of each other: as no name comes
twice, a list of the same length with all pairs of the other has no more. -/
theorem same_iff_perm (a b : Labels) : a.same b = true ↔ a.entries.Perm b.entries := by
  have hget : ∀ name value, b.get? name = some value ↔ (name, value) ∈ b.entries :=
    fun _ _ => Keyed.find?_eq_some_iff b.distinct
  simp only [same, Bool.and_eq_true, decide_eq_true_eq, List.all_eq_true, beq_iff_eq, hget]
  constructor
  · rintro ⟨hlen, hsub⟩
    exact (List.subperm_of_subset (Keyed.nodup_of_nodup_keys a.distinct) hsub).perm_of_length_le (Nat.le_of_eq hlen.symm)
  · intro h
    exact ⟨h.length_eq, fun _ hp => h.mem_iff.mp hp⟩

theorem same_refl (labels : Labels) : labels.same labels = true :=
  (same_iff_perm labels labels).mpr (List.Perm.refl _)

theorem same_symm {a b : Labels} (h : a.same b = true) : b.same a = true :=
  (same_iff_perm b a).mpr ((same_iff_perm a b).mp h).symm

theorem same_trans {a b c : Labels} (h : a.same b = true) (h' : b.same c = true) :
    a.same c = true :=
  (same_iff_perm a c).mpr (((same_iff_perm a b).mp h).trans ((same_iff_perm b c).mp h'))

/-- Equal label sets have the same labels. -/
theorem get?_eq_of_same {a b : Labels} (h : a.same b = true) (name : String) :
    a.get? name = b.get? name := by
  exact (Keyed.perm_iff_find?_eq a.distinct b.distinct).mp ((same_iff_perm a b).mp h) name

/-- The upper set of two has its way. -/
theorem get?_override (labels upper : Labels) (name : String) :
    (labels.override upper).get? name = (upper.get? name).or (labels.get? name) :=
  Keyed.find?_foldl_put _ _ upper.distinct

/-- **Identity**: two label sets have one key exactly when they give the
same names the same values. -/
theorem key_eq_iff_same (a b : Labels) : a.key = b.key ↔ a.same b = true := by
  rw [same_iff_perm]
  refine ⟨fun h => ?_, key_eq_of_perm⟩
  exact a.key_perm.symm.trans (h ▸ b.key_perm)

/-- Label sets that give every name the same value are equal. -/
theorem same_of_get? {a b : Labels} (h : ∀ name, a.get? name = b.get? name) :
    a.same b = true := by
  rw [same_iff_perm, Keyed.perm_iff_find?_eq a.distinct b.distinct]
  exact h

/-- Equal label sets stay equal when a label is put into both. -/
theorem same_insert {a b : Labels} (h : a.same b = true) (name value : String) :
    (a.insert name value).same (b.insert name value) = true := by
  refine same_of_get? fun other => ?_
  rw [get?_insert, get?_insert, get?_eq_of_same h]

end Labels

end AlertConformance
