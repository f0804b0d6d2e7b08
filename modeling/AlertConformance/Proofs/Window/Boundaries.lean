/-
AlertConformance.Proofs.Window.Boundaries — a classifier changes its mind
only at a boundary.

The windows of a classifier may overlap, touch and be nested, in one
scenario and between several. Whether a window holds a time changes only
where the time passes one of its edges, so what all windows say together
changes only where it passes a boundary. Boundaries are values: edges that
are equal, as the two zeros are, share one, and since equal edges have equal
products with a thousand, it stands for all of them.

* `HasEdge` — the edges of a classifier's windows.
* `Collects`, `boundaries_collect` — the boundaries hold the value of every
  edge once, in increasing order.
* `Window.exists_edge_of_ne` — a window changes at one of its edges.
* `states_change_at_boundaries` — the states between, before and after all
  boundaries.
-/
import AlertConformance.Proofs.Numeric.Order
import AlertConformance.Proofs.Window.Coverage

namespace AlertConformance

/-! ## One window -/

namespace Window

variable {window : Window} {elapsed earlier later : Int}

/-- An edge in milliseconds is a number when the edge is one. -/
theorem isNaN_mul_thousand {edge : Binary64} (h : edge.isNaN = false) :
    (edge * 1000).isNaN = false :=
  Binary64.isNaN_mul h Binary64.holds_thousand (by decide)

theorem contains_iff_place (hstart : window.start.isNaN = false)
    (hstop : window.stop.isNaN = false) :
    window.contains elapsed = true ↔
      (window.start * 1000).place ≤ Binary64.ratPlace elapsed ∧
        Binary64.ratPlace elapsed < (window.stop * 1000).place := by
  rw [contains, between, Bool.and_eq_true, Binary64.leInt_iff_place (isNaN_mul_thousand hstart),
    Binary64.gtInt_iff_place (isNaN_mul_thousand hstop)]

/-- **One window** changes only when time passes one of its edges. -/
theorem exists_edge_of_ne (hstart : window.start.isNaN = false)
    (hstop : window.stop.isNaN = false) (hlt : earlier < later)
    (h : window.contains earlier ≠ window.contains later) :
    ∃ edge, (edge = window.start ∨ edge = window.stop) ∧
      Binary64.ratPlace earlier < (edge * 1000).place ∧
        (edge * 1000).place ≤ Binary64.ratPlace later := by
  have horder : Binary64.ratPlace earlier < Binary64.ratPlace later :=
    Binary64.ratPlace_lt_iff.mpr (by exact_mod_cast hlt)
  rw [ne_eq, Bool.eq_iff_iff, contains_iff_place hstart hstop, contains_iff_place hstart hstop] at h
  rcases lt_or_ge (Binary64.ratPlace earlier) (window.start * 1000).place with hbefore | hafter
  · -- the window has not started yet, so it starts in between
    refine ⟨window.start, .inl rfl, hbefore, ?_⟩
    by_contra hstarts
    exact h ⟨fun hholds => absurd hholds.1 (not_le.mpr hbefore),
      fun hholds => absurd hholds.1 hstarts⟩
  · -- the window has started, so it stops in between
    refine ⟨window.stop, .inr rfl, ?_, ?_⟩
    · by_contra hstopped
      exact h ⟨fun hholds => absurd hholds.2 hstopped,
        fun hholds => absurd (horder.trans hholds.2) hstopped⟩
    · by_contra hlasts
      exact h ⟨fun _ => ⟨hafter.trans horder.le, not_le.mp hlasts⟩,
        fun _ => ⟨hafter, horder.trans (not_le.mp hlasts)⟩⟩

end Window

namespace Classifier

variable {classifier : Classifier}

/-- An edge of one of the windows of a classifier. -/
def HasEdge (classifier : Classifier) (edge : Binary64) : Prop :=
  ∃ name windows, classifier.windows name = .ok windows ∧
    ∃ window ∈ windows, edge = window.start ∨ edge = window.stop

/-! ## Edges in order -/

/-- A list holds the value of each edge once, in increasing order. -/
structure Collects (sorted edges : List Binary64) : Prop where
  increasing : sorted.Pairwise fun earlier later => earlier.place < later.place
  kept : ∀ boundary ∈ sorted, boundary ∈ edges
  reached : ∀ edge ∈ edges, ∃ boundary ∈ sorted, edge.place = boundary.place

theorem mem_of_mem_insertEdge {edge other : Binary64} {sorted : List Binary64}
    (h : other ∈ insertEdge edge sorted) : other = edge ∨ other ∈ sorted := by
  induction sorted with
  | nil =>
    left
    simpa [insertEdge] using h
  | cons first rest ih =>
    rw [insertEdge] at h
    split at h
    · exact .inr h
    split at h
    · exact List.mem_cons.mp h
    · rcases List.mem_cons.mp h with rfl | hrest
      · exact .inr List.mem_cons_self
      · exact (ih hrest).imp_right (List.mem_cons_of_mem _)

theorem mem_insertEdge_of_mem {edge other : Binary64} {sorted : List Binary64}
    (h : other ∈ sorted) : other ∈ insertEdge edge sorted := by
  induction sorted with
  | nil => cases h
  | cons first rest ih =>
    rw [insertEdge]
    split
    · exact h
    split
    · exact List.mem_cons_of_mem _ h
    · rcases List.mem_cons.mp h with rfl | hrest
      · exact List.mem_cons_self
      · exact List.mem_cons_of_mem _ (ih hrest)

/-- An edge that is put in finds its value. -/
theorem exists_mem_insertEdge {edge : Binary64} {sorted : List Binary64}
    (hedge : edge.isNaN = false) (hsorted : ∀ other ∈ sorted, other.isNaN = false) :
    ∃ other ∈ insertEdge edge sorted, edge.place = other.place := by
  induction sorted with
  | nil => exact ⟨edge, List.mem_singleton_self _, rfl⟩
  | cons first rest ih =>
    obtain ⟨hfirst, hrest⟩ := List.forall_mem_cons.mp hsorted
    rw [insertEdge]
    split
    · rename_i hequal
      exact ⟨first, List.mem_cons_self, (Binary64.equal_iff_place hedge hfirst).mp hequal⟩
    split
    · exact ⟨edge, List.mem_cons_self, rfl⟩
    · obtain ⟨other, hmem, hplace⟩ := ih hrest
      exact ⟨other, List.mem_cons_of_mem _ hmem, hplace⟩

theorem increasing_insertEdge {edge : Binary64} {sorted : List Binary64}
    (hedge : edge.isNaN = false) (hsorted : ∀ other ∈ sorted, other.isNaN = false)
    (h : sorted.Pairwise fun earlier later => earlier.place < later.place) :
    (insertEdge edge sorted).Pairwise fun earlier later => earlier.place < later.place := by
  induction sorted with
  | nil => exact List.pairwise_singleton _ _
  | cons first rest ih =>
    obtain ⟨hfirst, hrest⟩ := List.forall_mem_cons.mp hsorted
    obtain ⟨hless, hincreasing⟩ := List.pairwise_cons.mp h
    rw [insertEdge]
    split
    · exact h
    rename_i hdiffers
    split
    · rename_i hbefore
      have hbefore := (Binary64.lt_iff_place hedge hfirst).mp hbefore
      refine List.pairwise_cons.mpr ⟨?_, h⟩
      intro other hother
      rcases List.mem_cons.mp hother with rfl | hother
      · exact hbefore
      · exact hbefore.trans (hless other hother)
    · rename_i hafter
      have hafter : first.place < edge.place := by
        rw [Binary64.equal_iff_place hedge hfirst] at hdiffers
        rw [Binary64.lt_iff_place hedge hfirst] at hafter
        exact lt_of_le_of_ne (not_lt.mp hafter) fun heq => hdiffers heq.symm
      refine List.pairwise_cons.mpr ⟨?_, ih hrest hincreasing⟩
      intro other hother
      rcases mem_of_mem_insertEdge hother with rfl | hother
      · exact hafter
      · exact hless other hother

/-- One more edge is collected. -/
theorem Collects.insertEdge {sorted edges : List Binary64} {edge : Binary64}
    (h : Collects sorted edges) (hedges : ∀ other ∈ edges, other.isNaN = false)
    (hedge : edge.isNaN = false) : Collects (insertEdge edge sorted) (edges ++ [edge]) := by
  have hsorted : ∀ other ∈ sorted, other.isNaN = false :=
    fun other hmem => hedges other (h.kept other hmem)
  refine ⟨increasing_insertEdge hedge hsorted h.increasing, ?_, ?_⟩
  · intro boundary hmem
    rcases mem_of_mem_insertEdge hmem with rfl | hmem
    · simp
    · exact List.mem_append_left _ (h.kept boundary hmem)
  · intro other hother
    rcases List.mem_append.mp hother with hother | hother
    · obtain ⟨boundary, hmem, hplace⟩ := h.reached other hother
      exact ⟨boundary, mem_insertEdge_of_mem hmem, hplace⟩
    · obtain rfl := List.mem_singleton.mp hother
      exact exists_mem_insertEdge hedge hsorted

/-- Edges are collected one after another. -/
theorem Collects.foldl_insertEdge {sorted edges rest : List Binary64} (h : Collects sorted edges)
    (hnumbers : ∀ edge ∈ edges ++ rest, edge.isNaN = false) :
    Collects (rest.foldl (fun sorted edge => Classifier.insertEdge edge sorted) sorted)
      (edges ++ rest) := by
  induction rest generalizing sorted edges with
  | nil => simpa using h
  | cons edge rest ih =>
    have hedge : edge.isNaN = false := hnumbers edge (by simp)
    have hedges : ∀ other ∈ edges, other.isNaN = false :=
      fun other hmem => hnumbers other (List.mem_append_left _ hmem)
    have hstep := h.insertEdge hedges hedge
    have happend : edges ++ edge :: rest = edges ++ [edge] ++ rest := by simp
    rw [List.foldl_cons]
    rw [happend] at hnumbers ⊢
    exact ih hstep hnumbers

/-- **Boundaries** hold the value of every edge once, in increasing
order. -/
theorem boundaries_collect (h : ∀ edge ∈ classifier.edges, edge.isNaN = false) :
    Collects classifier.boundaries classifier.edges := by
  have hnone : Collects [] [] := ⟨List.Pairwise.nil, by simp, by simp⟩
  exact hnone.foldl_insertEdge h

/-! ## The windows of a classifier -/

section Made

variable {definitions : List (String × List Window)} {elapsed earlier later : Int}

theorem windows_eq_ok_iff (h : Classifier.new definitions = .ok classifier) {name : String}
    {windows : List Window} :
    classifier.windows name = .ok windows ↔ (name, windows) ∈ classifier.scenarios := by
  have hnodup : (Keyed.keys classifier.scenarios).Nodup := by
    rw [of_new_eq_ok h]
    exact Keyed.nodup_ofList definitions
  rw [← Keyed.find?_eq_some_iff hnodup, Classifier.windows]
  cases Keyed.find? name classifier.scenarios <;> simp

theorem hasEdge_iff (h : Classifier.new definitions = .ok classifier) {edge : Binary64} :
    classifier.HasEdge edge ↔ edge ∈ classifier.edges := by
  simp [HasEdge, edges, windows_eq_ok_iff h]

/-- A scenario is valid in the union of the windows that it is given by
name. -/
theorem mem_states_iff (h : Classifier.new definitions = .ok classifier) {name : String} :
    name ∈ classifier.states elapsed ↔ ∃ windows, classifier.windows name = .ok windows ∧
      ∃ window ∈ windows, window.contains elapsed = true := by
  simp [states, windows_eq_ok_iff h]

/-- Times that all windows hold alike have the same scenarios. -/
theorem states_congr (h : ∀ name windows, (name, windows) ∈ classifier.scenarios →
    ∀ window ∈ windows, window.contains earlier = window.contains later) :
    classifier.states earlier = classifier.states later := by
  unfold states
  congr 1
  apply List.filter_congr
  rintro ⟨name, windows⟩ hmem
  rw [Bool.eq_iff_iff, List.any_eq_true, List.any_eq_true]
  constructor
  · rintro ⟨window, hwindow, hholds⟩
    exact ⟨window, hwindow, h name windows hmem window hwindow ▸ hholds⟩
  · rintro ⟨window, hwindow, hholds⟩
    exact ⟨window, hwindow, (h name windows hmem window hwindow).symm ▸ hholds⟩

theorem states_eq_nil (h : ∀ name windows, (name, windows) ∈ classifier.scenarios →
    ∀ window ∈ windows, window.contains elapsed = false) : classifier.states elapsed = [] := by
  rw [states, List.map_eq_nil_iff, List.filter_eq_nil_iff]
  rintro ⟨name, windows⟩ hmem
  rw [List.any_eq_true]
  rintro ⟨window, hwindow, hholds⟩
  simp [h name windows hmem window hwindow] at hholds

/-- The edges of a window of a classifier are edges of the classifier. -/
theorem hasEdge_of_mem (h : Classifier.new definitions = .ok classifier) {name : String}
    {windows : List Window} (hmem : (name, windows) ∈ classifier.scenarios) {window : Window}
    (hwindow : window ∈ windows) :
    classifier.HasEdge window.start ∧ classifier.HasEdge window.stop :=
  ⟨⟨name, windows, (windows_eq_ok_iff h).mpr hmem, window, hwindow, .inl rfl⟩,
    ⟨name, windows, (windows_eq_ok_iff h).mpr hmem, window, hwindow, .inr rfl⟩⟩

/-! ## Boundaries -/

/-- A boundary stands for an edge, also in milliseconds. -/
theorem exists_boundary_of_edge (h : Classifier.new definitions = .ok classifier)
    (hnumbers : ∀ edge, classifier.HasEdge edge → edge.isNaN = false) {edge : Binary64}
    (hedge : classifier.HasEdge edge) :
    ∃ boundary ∈ classifier.boundaries, boundary.isNaN = false ∧ edge.place = boundary.place ∧
      (edge * 1000).place = (boundary * 1000).place := by
  have hcollect := boundaries_collect fun edge hmem => hnumbers edge ((hasEdge_iff h).mpr hmem)
  obtain ⟨boundary, hmem, hplace⟩ := hcollect.reached edge ((hasEdge_iff h).mp hedge)
  have hnumber := hnumbers boundary ((hasEdge_iff h).mpr (hcollect.kept boundary hmem))
  obtain ⟨t, k, g, hthousand, -⟩ := Binary64.holds_thousand.exists_finite
  have hfinite : (1000 : Binary64).isFinite = true := by
    rw [hthousand]
    rfl
  exact ⟨boundary, hmem, hnumber, hplace,
    Binary64.place_mul_eq (hnumbers edge hedge) hnumber hfinite hplace⟩

theorem boundaries_increasing (h : Classifier.new definitions = .ok classifier)
    (hnumbers : ∀ edge, classifier.HasEdge edge → edge.isNaN = false) :
    classifier.boundaries.Pairwise fun earlier later => earlier.lt later = true := by
  have hcollect := boundaries_collect fun edge hmem => hnumbers edge ((hasEdge_iff h).mpr hmem)
  have hnumber : ∀ boundary ∈ classifier.boundaries, boundary.isNaN = false :=
    fun boundary hmem => hnumbers boundary ((hasEdge_iff h).mpr (hcollect.kept boundary hmem))
  apply hcollect.increasing.imp_of_mem
  intro earlier later hearlier hlater hless
  exact (Binary64.lt_iff_place (hnumber earlier hearlier) (hnumber later hlater)).mpr hless

/-- Where the states of two times differ, a boundary lies between them. -/
theorem exists_boundary_of_states_ne (h : Classifier.new definitions = .ok classifier)
    (hnumbers : ∀ edge, classifier.HasEdge edge → edge.isNaN = false) (hlt : earlier < later)
    (hne : classifier.states earlier ≠ classifier.states later) :
    ∃ boundary ∈ classifier.boundaries,
      (boundary * 1000).gtInt earlier = true ∧ (boundary * 1000).leInt later = true := by
  by_contra hnone
  refine hne (states_congr ?_)
  intro name windows hmem window hwindow
  by_contra hchanges
  obtain ⟨hstart, hstop⟩ := hasEdge_of_mem h hmem hwindow
  obtain ⟨edge, hedge, hafter, hbefore⟩ :=
    Window.exists_edge_of_ne (hnumbers _ hstart) (hnumbers _ hstop) hlt hchanges
  have hedge : classifier.HasEdge edge := by
    rcases hedge with rfl | rfl
    · exact hstart
    · exact hstop
  obtain ⟨boundary, hboundary, hnumber, -, hplace⟩ := exists_boundary_of_edge h hnumbers hedge
  rw [hplace] at hafter hbefore
  have hproduct := Window.isNaN_mul_thousand hnumber
  exact hnone ⟨boundary, hboundary, (Binary64.gtInt_iff_place hproduct earlier).mpr hafter,
    (Binary64.leInt_iff_place hproduct later).mpr hbefore⟩

/-- No window has started before all boundaries. -/
theorem states_eq_nil_of_before (h : Classifier.new definitions = .ok classifier)
    (hnumbers : ∀ edge, classifier.HasEdge edge → edge.isNaN = false)
    (hbefore : ∀ boundary ∈ classifier.boundaries, (boundary * 1000).gtInt elapsed = true) :
    classifier.states elapsed = [] := by
  apply states_eq_nil
  intro name windows hmem window hwindow
  obtain ⟨hstart, hstop⟩ := hasEdge_of_mem h hmem hwindow
  obtain ⟨boundary, hboundary, hnumber, -, hplace⟩ := exists_boundary_of_edge h hnumbers hstart
  have hlt := (Binary64.gtInt_iff_place (Window.isNaN_mul_thousand hnumber) elapsed).mp
    (hbefore boundary hboundary)
  rw [Bool.eq_false_iff, ne_eq, Window.contains_iff_place (hnumbers _ hstart) (hnumbers _ hstop)]
  rintro ⟨hstarted, -⟩
  exact absurd hlt (not_lt.mpr (hplace ▸ hstarted))

/-- No window lasts after all boundaries. -/
theorem states_eq_nil_of_after (h : Classifier.new definitions = .ok classifier)
    (hnumbers : ∀ edge, classifier.HasEdge edge → edge.isNaN = false)
    (hafter : ∀ boundary ∈ classifier.boundaries, (boundary * 1000).leInt elapsed = true) :
    classifier.states elapsed = [] := by
  apply states_eq_nil
  intro name windows hmem window hwindow
  obtain ⟨hstart, hstop⟩ := hasEdge_of_mem h hmem hwindow
  obtain ⟨boundary, hboundary, hnumber, -, hplace⟩ := exists_boundary_of_edge h hnumbers hstop
  have hle := (Binary64.leInt_iff_place (Window.isNaN_mul_thousand hnumber) elapsed).mp
    (hafter boundary hboundary)
  rw [Bool.eq_false_iff, ne_eq, Window.contains_iff_place (hnumbers _ hstart) (hnumbers _ hstop)]
  rintro ⟨-, hlasts⟩
  exact absurd hlasts (not_lt.mpr (hplace ▸ hle))

/-- **The states change at boundaries** only. The boundaries are the edges of
all windows in strictly increasing order, each value once. Where the states
of two times differ, a boundary lies after the first time and not after the
second one, compared in milliseconds as the windows are. Before all
boundaries, and from the last one on, no scenario is valid; in between a
scenario is valid in the union of its half-open windows. -/
theorem states_change_at_boundaries (h : Classifier.new definitions = .ok classifier)
    (hnumbers : ∀ edge, classifier.HasEdge edge → edge.isNaN = false) :
    (classifier.boundaries.Pairwise fun earlier later => earlier.lt later = true) ∧
    (∀ boundary ∈ classifier.boundaries, classifier.HasEdge boundary) ∧
    (∀ edge, classifier.HasEdge edge →
      ∃ boundary ∈ classifier.boundaries, edge.equal boundary = true) ∧
    (∀ earlier later, earlier < later → classifier.states earlier ≠ classifier.states later →
      ∃ boundary ∈ classifier.boundaries,
        (boundary * 1000).gtInt earlier = true ∧ (boundary * 1000).leInt later = true) ∧
    (∀ elapsed, (∀ boundary ∈ classifier.boundaries, (boundary * 1000).gtInt elapsed = true) →
      classifier.states elapsed = []) ∧
    (∀ elapsed, (∀ boundary ∈ classifier.boundaries, (boundary * 1000).leInt elapsed = true) →
      classifier.states elapsed = []) ∧
    ∀ name elapsed, name ∈ classifier.states elapsed ↔
      ∃ windows, classifier.windows name = .ok windows ∧ ∃ window ∈ windows,
        (window.start * 1000).leInt elapsed = true ∧
          (window.stop * 1000).gtInt elapsed = true := by
  have hcollect := boundaries_collect fun edge hmem => hnumbers edge ((hasEdge_iff h).mpr hmem)
  refine ⟨boundaries_increasing h hnumbers, ?_, ?_, ?_, ?_, ?_, ?_⟩
  · intro boundary hmem
    exact (hasEdge_iff h).mpr (hcollect.kept boundary hmem)
  · intro edge hedge
    obtain ⟨boundary, hmem, hnumber, hplace, -⟩ := exists_boundary_of_edge h hnumbers hedge
    exact ⟨boundary, hmem, (Binary64.equal_iff_place (hnumbers edge hedge) hnumber).mpr hplace⟩
  · intro earlier later
    exact exists_boundary_of_states_ne h hnumbers
  · intro elapsed
    exact states_eq_nil_of_before h hnumbers
  · intro elapsed
    exact states_eq_nil_of_after h hnumbers
  · intro name elapsed
    simp only [mem_states_iff h, Window.contains, between, Bool.and_eq_true]

/-- Nested and touching windows of two scenarios that share an edge. -/
def sharedEdges : List (String × List Window) := [
  ("high", [⟨0, 10, by decide +kernel⟩, ⟨2, 5, by decide +kernel⟩]),
  ("low", [⟨10, 20, by decide +kernel⟩])]

/-- At the edge that they share, one scenario takes over from the other. -/
theorem states_change_at_boundaries_shared : ∃ classifier,
    Classifier.new sharedEdges = .ok classifier ∧
    (∀ edge, classifier.HasEdge edge → edge.isNaN = false) ∧
    classifier.states 1000 = ["high"] ∧ classifier.states 10000 = ["low"] ∧
    ∃ boundary ∈ classifier.boundaries,
      (boundary * 1000).gtInt 1000 = true ∧ (boundary * 1000).leInt 10000 = true := by
  have hnew : Classifier.new sharedEdges = .ok ⟨sharedEdges⟩ := rfl
  have hnumbers : ∀ edge, Classifier.HasEdge ⟨sharedEdges⟩ edge → edge.isNaN = false := by
    intro edge hedge
    have hnone : ∀ edge ∈ Classifier.edges ⟨sharedEdges⟩, edge.isNaN = false := by decide +kernel
    exact hnone edge ((hasEdge_iff hnew).mp hedge)
  have hhigh : Classifier.states ⟨sharedEdges⟩ 1000 = ["high"] := by decide +kernel
  have hlow : Classifier.states ⟨sharedEdges⟩ 10000 = ["low"] := by decide +kernel
  obtain ⟨-, -, -, hchange, -⟩ := states_change_at_boundaries hnew hnumbers
  refine ⟨_, hnew, hnumbers, hhigh, hlow, hchange 1000 10000 (by decide) ?_⟩
  simp [hhigh, hlow]

end Made

end Classifier

end AlertConformance
