/-
AlertConformance.Proofs.Checked — what a checked definition holds.

Rules, groups, templates, windows and test cases are made by functions
that may refuse. When such a function has returned something, each of its
steps has, and the result holds what it was given.

* `bind_eq_ok_iff`, `mapM_eq_ok_iff` — sequences of steps that succeed.
* `Rule.of_new_eq_ok`, `RuleGroup.of_new_eq_ok`, … — the results of the
  checked constructors.
-/
import AlertConformance.TestCase.Basic
import Mathlib.Data.List.Forall2

namespace AlertConformance

/-! ## Steps -/

section Steps

variable {ε α β γ δ : Type}

/-- A step and what follows it succeed together. -/
theorem bind_eq_ok_iff {x : Except ε α} {f : α → Except ε β} {b : β} :
    (x >>= f) = .ok b ↔ ∃ a, x = .ok a ∧ f a = .ok b := by
  cases x with
  | error e =>
    constructor
    · intro h
      cases h
    · rintro ⟨a, ha, -⟩
      cases ha
  | ok a =>
    constructor
    · intro h
      exact ⟨a, rfl, h⟩
    · rintro ⟨a', ha, h⟩
      cases ha
      exact h

/-- A step for each element of a list succeeds when all of them do. -/
theorem mapM_eq_ok_iff {f : α → Except ε β} {xs : List α} {ys : List β} :
    xs.mapM f = .ok ys ↔ List.Forall₂ (fun x y => f x = .ok y) xs ys := by
  induction xs generalizing ys with
  | nil =>
    rw [List.mapM_nil, List.forall₂_nil_left_iff]
    constructor
    · intro h
      cases h
      rfl
    · rintro rfl
      rfl
  | cons x xs ih =>
    rw [List.mapM_cons, bind_eq_ok_iff, List.forall₂_cons_left_iff]
    constructor
    · rintro ⟨y, hy, h⟩
      obtain ⟨rest, hrest, h⟩ := bind_eq_ok_iff.mp h
      cases h
      exact ⟨y, rest, hy, ih.mp hrest, rfl⟩
    · rintro ⟨y, rest, hy, hrest, rfl⟩
      exact ⟨y, hy, bind_eq_ok_iff.mpr ⟨rest, ih.mpr hrest, rfl⟩⟩

/-- Two steps whose results are changed, when the second one takes the
changed result of the first one. -/
theorem bind_eq_map {x : Except ε α} {x' : Except ε β} {f : α → Except ε γ} {f' : β → Except ε δ}
    {g : α → β} {h : γ → δ} (hx : x' = x.map g) (hf : ∀ a, f' (g a) = (f a).map h) :
    (x' >>= f') = (x >>= f).map h := by
  rw [hx]
  cases x with
  | error e => rfl
  | ok a => exact hf a

/-- A step for each element of a list whose results are changed. -/
theorem mapM_eq_map {f : α → Except ε γ} {f' : α → Except ε δ} {h : γ → δ}
    (hf : ∀ a, f' a = (f a).map h) (xs : List α) : xs.mapM f' = (xs.mapM f).map (List.map h) := by
  induction xs with
  | nil => rfl
  | cons x xs ih =>
    rw [List.mapM_cons, List.mapM_cons]
    refine bind_eq_map (hf x) fun y => bind_eq_map ih fun ys => ?_
    rfl

theorem eq_ok_of_toOption {x : Except ε α} {a : α} (h : x.toOption = some a) : x = .ok a := by
  cases x with
  | error e => cases h
  | ok b =>
    cases h
    rfl

theorem exists_eq_ok_of_isOk {x : Except ε α} (h : x.isOk = true) : ∃ a, x = .ok a := by
  cases x with
  | error e => cases h
  | ok a => exact ⟨a, rfl⟩

/-- A list of steps succeeds when each of them does. -/
theorem exists_mapM_eq_ok {f : α → Except ε β} {xs : List α} (h : ∀ x ∈ xs, ∃ y, f x = .ok y) :
    ∃ ys, xs.mapM f = .ok ys := by
  induction xs with
  | nil => exact ⟨[], rfl⟩
  | cons x xs ih =>
    obtain ⟨y, hy⟩ := h x List.mem_cons_self
    obtain ⟨ys, hys⟩ := ih fun other hmem => h other (List.mem_cons_of_mem _ hmem)
    exact ⟨y :: ys, mapM_eq_ok_iff.mpr (.cons hy (mapM_eq_ok_iff.mp hys))⟩

/-- Every element of a list has its partner in the other one. -/
theorem exists_mem_of_forall₂ {R : α → β → Prop} {xs : List α} {ys : List β}
    (h : List.Forall₂ R xs ys) {x : α} (hx : x ∈ xs) : ∃ y ∈ ys, R x y := by
  induction h with
  | nil => cases hx
  | @cons _ y _ _ hhead _ ih =>
    rcases List.mem_cons.mp hx with rfl | hx
    · exact ⟨y, List.mem_cons_self, hhead⟩
    · obtain ⟨y, hy, hrelated⟩ := ih hx
      exact ⟨y, List.mem_cons_of_mem _ hy, hrelated⟩

/-- A list of steps that succeeds has no step that fails. -/
theorem exists_eq_ok_of_mapM {f : α → Except ε β} {xs : List α} {ys : List β}
    (h : xs.mapM f = .ok ys) {x : α} (hx : x ∈ xs) : ∃ y, f x = .ok y := by
  obtain ⟨y, -, hy⟩ := exists_mem_of_forall₂ (mapM_eq_ok_iff.mp h) hx
  exact ⟨y, hy⟩

/-- The result of a step is among those of the list. -/
theorem mem_of_mapM_eq_ok {f : α → Except ε β} {xs : List α} {ys : List β} {x : α} {y : β}
    (h : xs.mapM f = .ok ys) (hx : x ∈ xs) (hy : f x = .ok y) : y ∈ ys := by
  obtain ⟨other, hmem, hother⟩ := exists_mem_of_forall₂ (mapM_eq_ok_iff.mp h) hx
  rw [hy] at hother
  cases hother
  exact hmem

end Steps

/-! ## Constructors -/

theorem Rule.of_new_eq_ok {name expr : String} {hold : Int} {labels annotations : Labels}
    {rule : Rule} (h : Rule.new name expr hold labels annotations = .ok rule) :
    rule.name = name ∧ rule.expr = expr ∧ rule.hold = hold ∧ rule.labels = labels ∧
      rule.annotations = annotations := by
  unfold Rule.new at h
  split at h
  · cases h
  split at h
  · cases h
  split at h
  · cases h
  split at h
  · cases h
  · cases h
    exact ⟨rfl, rfl, rfl, rfl, rfl⟩

theorem Rule.of_thresholdRule_eq_ok {group name threshold : String} {hold : Int}
    {labels annotations : List (String × String)} {rule : Rule}
    (h : thresholdRule group name threshold hold labels annotations = .ok rule) :
    rule.name = name ∧ rule.expr = formatLabels (metricLabels group name) ++ " > " ++ threshold ∧
      rule.hold = hold ∧ rule.labels = .ofList labels ∧ rule.annotations = .ofList annotations :=
  of_new_eq_ok h

theorem Template.of_new_eq_ok {rule : Rule} {rendered seriesLabels : Labels} {template : Template}
    (h : Template.new rule rendered seriesLabels = .ok template) :
    template = { rule, rendered, seriesLabels } := by
  unfold Template.new at h
  split at h
  · cases h
    rfl
  · cases h

theorem RuleGroup.of_new_eq_ok {name : String} {interval : Int} {rules : List Rule}
    {group : RuleGroup} (h : RuleGroup.new name interval rules = .ok group) :
    group.name = name ∧ group.interval = interval ∧ group.rules = rules := by
  unfold RuleGroup.new at h
  split at h
  · cases h
  split at h
  · cases h
  split at h
  · cases h
  split at h
  · cases h
  · cases h
    exact ⟨rfl, rfl, rfl⟩

theorem Window.of_new_eq_ok {start stop : Binary64} {window : Window}
    (h : Window.new start stop = .ok window) : window.start = start ∧ window.stop = stop := by
  unfold Window.new at h
  split at h
  · cases h
  · cases h
    exact ⟨rfl, rfl⟩

theorem Classifier.of_new_eq_ok {definitions : List (String × List Window)}
    {classifier : Classifier} (h : Classifier.new definitions = .ok classifier) :
    classifier.scenarios = Keyed.ofList definitions := by
  simp only [Classifier.new] at h
  split at h
  · cases h
  split at h
  · cases h
  · cases h
    rfl

end AlertConformance
