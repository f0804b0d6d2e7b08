/-
AlertConformance.Proofs.Window.Coverage — the times that a window covers.

Edges are doubles in seconds. For intervals of whole seconds the edges
are whole numbers, and the arithmetic on them is exact, so a window covers
precisely the milliseconds between two whole seconds.

* `Binary64.Marks` — a double that is a time in seconds.
* `Window.Covers`, `Window.covers` — the times in a window.
* `phaseSpans`, `phaseWindows_covers` — the windows of phases and what
  they cover.
* `exists_phaseSpan`, `exists_phase` — the spans of phases leave no gaps.
* `TestCase.mem_outcomesAt` — when an outcome is possible.
-/
import AlertConformance.Proofs.Checked
import AlertConformance.Proofs.LabelKey
import AlertConformance.Proofs.Numeric.Whole

namespace AlertConformance

/-! ## Seconds -/

namespace Binary64

variable {x y : Binary64} {time later : Int}

/-- A double is a time of whole seconds, small enough to be exact in
milliseconds too. -/
def Marks (x : Binary64) (time : Int) : Prop :=
  ∃ n : Int, x.Holds n ∧ time = n * 1000 ∧ time.natAbs < 2 ^ 53

theorem marks_zero : (0 : Binary64).Marks 0 := ⟨0, holds_zero, rfl, by decide⟩

theorem marks_one : (1 : Binary64).Marks 1000 := ⟨1, holds_one, rfl, by decide⟩

theorem Marks.add (hx : x.Marks time) (hy : y.Marks later)
    (hsum : (time + later).natAbs < 2 ^ 53) : (x + y).Marks (time + later) := by
  obtain ⟨m, hm, rfl, -⟩ := hx
  obtain ⟨n, hn, rfl, -⟩ := hy
  exact ⟨m + n, hm.add hn (by omega), by rw [Int.add_mul], hsum⟩

theorem Marks.sub (hx : x.Marks time) (hy : y.Marks later)
    (hsub : (time - later).natAbs < 2 ^ 53) : (x - y).Marks (time - later) := by
  obtain ⟨m, hm, rfl, -⟩ := hx
  obtain ⟨n, hn, rfl, -⟩ := hy
  exact ⟨m - n, hm.sub hn (by omega), by rw [Int.sub_mul], hsub⟩

theorem Marks.le_iff (hx : x.Marks time) (hy : y.Marks later) : x.le y = true ↔ time ≤ later := by
  obtain ⟨m, hm, rfl, -⟩ := hx
  obtain ⟨n, hn, rfl, -⟩ := hy
  rw [hm.le_iff hn]
  omega

/-- A multiple of a time. -/
theorem Marks.ofInt_mul (hx : x.Marks time) {count : Int} (hcount : count.natAbs < 2 ^ 53)
    (hmul : (count * time).natAbs < 2 ^ 53) : (ofInt count * x).Marks (count * time) := by
  obtain ⟨n, hn, rfl, -⟩ := hx
  rw [← Int.mul_assoc] at hmul ⊢
  exact ⟨count * n, (holds_ofInt hcount).mul hn (by omega), rfl, hmul⟩

/-- The seconds of a time. -/
theorem marks_of_inSeconds (h : inSeconds time = .ok x) (hwhole : 1000 ∣ time)
    (htime : time.natAbs < 2 ^ 53) : x.Marks time := by
  obtain ⟨n, rfl⟩ := hwhole
  have hholds := holds_ofInt htime
  unfold inSeconds ofInt? at h
  split at h
  · rename_i number hnumber
    split at hnumber
    · rename_i heq
      cases hnumber
      cases h
      rw [← heq]
      rw [Int.mul_comm] at hholds htime ⊢
      exact ⟨n, hholds.div holds_thousand (by decide) (by omega), rfl, htime⟩
    · cases hnumber
  · cases h

theorem marks_of_mapM_inSeconds {times : List Int} {edges : List Binary64}
    (h : times.mapM inSeconds = .ok edges)
    (htimes : ∀ time ∈ times, 1000 ∣ time ∧ time.natAbs < 2 ^ 53) :
    List.Forall₂ Marks edges times := by
  induction mapM_eq_ok_iff.mp h with
  | nil => exact .nil
  | cons hedge hrest ih =>
    obtain ⟨hwhole, htime⟩ := htimes _ List.mem_cons_self
    exact .cons (marks_of_inSeconds hedge hwhole htime)
      (ih (mapM_eq_ok_iff.mpr hrest) fun time hmem => htimes time (List.mem_cons_of_mem _ hmem))

end Binary64

/-! ## Windows -/

variable {window : Window} {start stop slack horizon : Int}

/-- A window holds the elapsed times from `start` and before `stop`. -/
def Window.Covers (window : Window) (start stop : Int) : Prop :=
  ∀ elapsed, window.contains elapsed = true ↔ start ≤ elapsed ∧ elapsed < stop

theorem Window.covers (hstart : window.start.Marks start) (hstop : window.stop.Marks stop) :
    window.Covers start stop := by
  obtain ⟨m, hm, rfl, hmbound⟩ := hstart
  obtain ⟨n, hn, rfl, hnbound⟩ := hstop
  intro elapsed
  rw [contains, between, Bool.and_eq_true,
    (hm.mul Binary64.holds_thousand hmbound).leInt_iff,
    (hn.mul Binary64.holds_thousand hnbound).gtInt_iff]

theorem Window.covers_of_new {x y : Binary64} (h : Window.new x y = .ok window)
    (hstart : x.Marks start) (hstop : y.Marks stop) : window.Covers start stop := by
  obtain ⟨rfl, rfl⟩ := of_new_eq_ok h
  exact Window.covers hstart hstop

/-! ## Phases -/

/-- The spans of the phases that transitions at some times divide: the
times of `phaseEdges`. -/
def phaseSpans (times : List Int) (horizon slack : Int) : List (Int × Int) :=
  (0 :: times.map fun time => time - 1000).zip ((times.map fun time => time + slack) ++ [horizon])

/-- A bound below which times, their sums and differences are exact. -/
def exactLimit : Int := 2 ^ 50

theorem forall₂_zip_zip {α β γ δ : Type} {R : α → β → Prop} {S : γ → δ → Prop} {as : List α}
    {bs : List β} {cs : List γ} {ds : List δ} (hleft : List.Forall₂ R as bs)
    (hright : List.Forall₂ S cs ds) :
    List.Forall₂ (fun p q => R p.1 q.1 ∧ S p.2 q.2) (as.zip cs) (bs.zip ds) := by
  induction hleft generalizing cs ds with
  | nil => exact .nil
  | cons hhead _ ih =>
    cases hright with
    | nil => exact .nil
    | cons hhead' htail => exact .cons ⟨hhead, hhead'⟩ (ih htail)

/-- **No gaps**: at every time before the horizon some span lasts. -/
theorem exists_phaseSpan {elapsed : Int} (times : List Int) (hslack : 0 ≤ slack)
    (hlow : 0 ≤ elapsed) (hhigh : elapsed < horizon) :
    ∃ span ∈ phaseSpans times horizon slack, span.1 ≤ elapsed ∧ elapsed < span.2 := by
  -- the start of the first span changes along the list
  have hspans : ∀ (times : List Int) (start : Int), start ≤ elapsed →
      ∃ span ∈ (start :: times.map fun time => time - 1000).zip
        ((times.map fun time => time + slack) ++ [horizon]),
        span.1 ≤ elapsed ∧ elapsed < span.2 := by
    intro times
    induction times with
    | nil =>
      intro start hstart
      exact ⟨(start, horizon), List.mem_cons_self, hstart, hhigh⟩
    | cons time times ih =>
      intro start hstart
      rcases Int.lt_or_le elapsed (time + slack) with hbefore | hafter
      · exact ⟨(start, time + slack), List.mem_cons_self, hstart, hbefore⟩
      · obtain ⟨span, hmem, hspan⟩ := ih (time - 1000) (by omega)
        exact ⟨span, List.mem_cons_of_mem _ hmem, hspan⟩
  exact hspans times 0 hlow

/-- When there is a phase for every span, at every time some phase lasts. -/
theorem exists_phase {α : Type} {phases : List α} {elapsed : Int} (times : List Int)
    (hphases : times.length < phases.length) (hslack : 0 ≤ slack) (hlow : 0 ≤ elapsed)
    (hhigh : elapsed < horizon) :
    ∃ phase span, (phase, span) ∈ phases.zip (phaseSpans times horizon slack) ∧
      span.1 ≤ elapsed ∧ elapsed < span.2 := by
  obtain ⟨span, hspan, hlasts⟩ := exists_phaseSpan times hslack hlow hhigh
  have hlength : (phaseSpans times horizon slack).length ≤ phases.length := by
    simp only [phaseSpans, List.length_zip, List.length_cons, List.length_map, List.length_append,
      List.length_nil]
    omega
  rw [← List.map_snd_zip hlength] at hspan
  obtain ⟨⟨phase, other⟩, hmem, rfl⟩ := List.mem_map.mp hspan
  exact ⟨phase, other, hmem, hlasts⟩

section Phases

variable {edges : List Binary64} {times : List Int} {x y : Binary64} {windows : List Window}

/-- The edges of phases are the times of their spans. -/
theorem phaseEdges_marks (hedges : List.Forall₂ Binary64.Marks edges times)
    (htimes : ∀ time ∈ times, 0 ≤ time ∧ time < exactLimit) (hhorizon : x.Marks horizon)
    (hslack : y.Marks slack) (hbound : 0 ≤ slack ∧ slack < exactLimit) :
    List.Forall₂ (fun edge span => edge.1.Marks span.1 ∧ edge.2.Marks span.2)
      (phaseEdges edges x y) (phaseSpans times horizon slack) := by
  unfold exactLimit at htimes hbound
  have hshifted : List.Forall₂ (fun edge time =>
      (edge - 1).Marks (time - 1000) ∧ (edge + y).Marks (time + slack)) edges times := by
    induction hedges with
    | nil => exact .nil
    | cons hedge _ ih =>
      obtain ⟨hlow, hhigh⟩ := htimes _ List.mem_cons_self
      refine .cons ⟨hedge.sub Binary64.marks_one (by omega), hedge.add hslack (by omega)⟩ ?_
      exact ih fun time hmem => htimes time (List.mem_cons_of_mem _ hmem)
  refine forall₂_zip_zip (.cons Binary64.marks_zero ?_) (List.rel_append ?_ (.cons hhorizon .nil))
  · rw [List.forall₂_map_left_iff, List.forall₂_map_right_iff]
    exact hshifted.imp fun _ _ h => h.1
  · rw [List.forall₂_map_left_iff, List.forall₂_map_right_iff]
    exact hshifted.imp fun _ _ h => h.2

/-- **Coverage**: the windows of phases cover their spans. -/
theorem phaseWindows_covers (h : phaseWindows edges x y = .ok windows)
    (hedges : List.Forall₂ Binary64.Marks edges times)
    (htimes : ∀ time ∈ times, 0 ≤ time ∧ time < exactLimit) (hhorizon : x.Marks horizon)
    (hslack : y.Marks slack) (hbound : 0 ≤ slack ∧ slack < exactLimit) :
    List.Forall₂ (fun window span => window.Covers span.1 span.2) windows
      (phaseSpans times horizon slack) := by
  have hwindows : (phaseEdges edges x y).mapM (fun edge => Window.new edge.1 edge.2) =
      .ok windows := by
    simp only [phaseWindows] at h
    split at h
    · cases h
    split at h
    · split at h
      · cases h
      · exact h
    · exact h
  have hmarks := phaseEdges_marks hedges htimes hhorizon hslack hbound
  have hnew := mapM_eq_ok_iff.mp hwindows
  clear h hwindows
  generalize phaseEdges edges x y = pairs at hmarks hnew
  generalize phaseSpans times horizon slack = spans at hmarks ⊢
  induction hmarks generalizing windows with
  | nil =>
    cases hnew
    exact .nil
  | cons hmark _ ih =>
    cases hnew with
    | cons hwindow hrest => exact .cons (Window.covers_of_new hwindow hmark.1 hmark.2) (ih hrest)

/-- The transitions between phases come one after another. -/
theorem transitions_increase (h : phaseWindows edges x y = .ok windows)
    (hedges : List.Forall₂ Binary64.Marks edges times) : times.IsChain (· < ·) := by
  have hstep : hasStepBack edges = false := by
    simp only [phaseWindows] at h
    split at h
    · cases h
    · rename_i hfalse
      exact Bool.eq_false_iff.mpr hfalse
  clear h
  induction hedges with
  | nil => exact .nil
  | cons hfirst hrest ih =>
    cases hrest with
    | nil => exact .singleton _
    | cons hsecond hrest =>
      rw [hasStepBack, Bool.or_eq_false_iff] at hstep
      refine .cons_cons ?_ (ih hstep.2)
      exact Int.not_le.mp (mt (hsecond.le_iff hfirst).mpr (Bool.eq_false_iff.mp hstep.1))

end Phases

/-! ## Scenarios -/

namespace Keyed

variable {κ α : Type}

theorem keys_zip_sublist (names : List κ) (values : List α) :
    (keys (names.zip values)).Sublist names := by
  induction names generalizing values with
  | nil => exact List.Sublist.refl _
  | cons name names ih =>
    cases values with
    | nil => exact List.nil_sublist _
    | cons value values => exact (ih values).cons_cons name

end Keyed

/-- A scenario is valid at the times of its windows. -/
theorem Classifier.mem_states {classifier : Classifier} {definitions : List (String × List Window)}
    (h : Classifier.new definitions = .ok classifier) (hnames : (Keyed.keys definitions).Nodup)
    {name : String} {elapsed : Int} :
    name ∈ classifier.states elapsed ↔
      ∃ windows, (name, windows) ∈ definitions ∧ ∃ window ∈ windows, window.contains elapsed := by
  rw [states, of_new_eq_ok h, Keyed.ofList_eq_self hnames]
  simp

/-- A scenario is valid at the times that one of its windows covers. -/
theorem Classifier.mem_states_of_covers {classifier : Classifier}
    {definitions : List (String × List Window)}
    (h : Classifier.new definitions = .ok classifier) (hnames : (Keyed.keys definitions).Nodup)
    {name : String} {windows : List Window} (hmem : (name, windows) ∈ definitions)
    (hwindow : window ∈ windows) (hcovers : window.Covers start stop) {elapsed : Int}
    (hlow : start ≤ elapsed) (hhigh : elapsed < stop) : name ∈ classifier.states elapsed :=
  (mem_states h hnames).mpr
    ⟨windows, hmem, window, hwindow, (hcovers elapsed).mpr ⟨hlow, hhigh⟩⟩

/-- A phase is valid during its span. -/
theorem Classifier.phase_mem_states {classifier : Classifier} {phases : List String}
    {windows : List Window} {spans : List (Int × Int)}
    (h : Classifier.new (phases.zip (windows.map fun window => [window])) = .ok classifier)
    (hphases : phases.Nodup)
    (hcovers : List.Forall₂ (fun window span => window.Covers span.1 span.2) windows spans)
    {phase : String} {span : Int × Int} (hmem : (phase, span) ∈ phases.zip spans) {elapsed : Int}
    (hlow : span.1 ≤ elapsed) (hhigh : elapsed < span.2) : phase ∈ classifier.states elapsed := by
  rw [mem_states h (hphases.sublist (Keyed.keys_zip_sublist _ _))]
  clear h hphases
  induction hcovers generalizing phases with
  | nil =>
    rw [List.zip_nil_right] at hmem
    cases hmem
  | @cons window _ _ _ hcover _ ih =>
    cases phases with
    | nil => cases hmem
    | cons name phases =>
      rw [List.map_cons, List.zip_cons_cons]
      rcases List.mem_cons.mp hmem with heq | hmem
      · cases heq
        exact ⟨[window], List.mem_cons_self, window, List.mem_singleton_self _,
          (hcover elapsed).mpr ⟨hlow, hhigh⟩⟩
      · obtain ⟨found, hfound, hwindow⟩ := ih hmem
        exact ⟨found, List.mem_cons_of_mem _ hfound, hwindow⟩

/-- An outcome is possible when all of its scenarios are valid. -/
theorem TestCase.mem_outcomesAt {test : TestCase} {outcome : Outcome} {elapsed : Int} :
    outcome ∈ test.outcomesAt elapsed ↔ outcome ∈ test.outcomes ∧
      ∀ scenario ∈ outcome.scenarios, scenario ∈ test.classifier.states elapsed := by
  simp [outcomesAt]

end AlertConformance
