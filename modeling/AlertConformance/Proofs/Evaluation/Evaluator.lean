/-
AlertConformance.Proofs.Evaluation.Evaluator — an engine that evaluates as
it should.

An alerting rule selects series and compares them with a threshold. At an
evaluation a series is active when its last sample exceeds the threshold.
Its alert has been active since the first evaluation of the unbroken run
of active ones, is pending until it has been so for the hold of its rule,
and fires from then on. Whoever looks at the engine sees the results of
its last evaluation.

* `Reading` — what a rule reads and how its annotations render.
* `Reading.alertAt?`, `alertsAt` — the alerts of a rule at an evaluation.
* `Cadence.shown` — what the rules of a group show at a time.
* `ActiveAlert.Agrees`, `Outcome.Fits` — alerts of the engine that are the
  expected ones.
* `Reading.Quiet`, `Reading.Peak` — times without an alert and times with
  one; `Peak.agrees` is what an engine shows then.
-/
import AlertConformance.Proofs.Evaluation.Cadence
import AlertConformance.Proofs.LabelKey
import AlertConformance.Proofs.Series.Levels

namespace AlertConformance

/-! ## Alerts of an engine -/

/-- The labels of a series without one of its names. -/
def Labels.without (labels : Labels) (name : String) : Labels where
  entries := labels.entries.filter fun entry => entry.1 ≠ name
  distinct := labels.distinct.sublist (List.filter_sublist.map Prod.fst)

theorem Labels.get?_without (labels : Labels) (removed name : String) :
    (labels.without removed).get? name = if name = removed then none else labels.get? name :=
  Keyed.find?_filter_ne removed

/-- The labels of the alert of a rule for an element of its result. -/
def Rule.alertLabels (rule : Rule) (result : Labels) : Labels :=
  (result.override rule.labels).insert "alertname" rule.name

/-- The state of an alert that has been active for some time. -/
def stateAfter (hold held : Int) : ActiveState := if held < hold then .pending else .firing

/-- An alert with its times counted from the start of a test, as it is
seen when the test started at `zeroTime`. -/
def Alert.since (alert : Alert) (zeroTime : Int) : Alert :=
  { alert with activeAt := alert.activeAt.map fun elapsed => zeroTime + elapsed }

/-- What a rule reads: the series of a selector, and the threshold that
their values have to exceed. `rendered` is what the annotations render to
for the text of a value. -/
structure Reading where
  selector : Labels
  threshold : String
  rendered : String → Labels

namespace Reading

variable {interval : Int}

/-- The expression of a rule that reads so. -/
def expr (reading : Reading) : String :=
  formatLabels reading.selector ++ " > " ++ reading.threshold

/-- Whether a series has the labels of the selector among its own. -/
def selects (reading : Reading) (labels : Labels) : Bool :=
  reading.selector.entries.all fun (name, value) => labels.get? name == some value

/-- Whether a value exceeds the threshold. -/
def exceededBy (reading : Reading) (value : Binary64) : Bool :=
  (Binary64.ofText? reading.threshold).any fun threshold => threshold.lt value

/-- Whether a series is active at an evaluation. -/
def active (reading : Reading) (series : TimeSeries) (cadence : Cadence interval) (k : Nat) :
    Bool :=
  (series.valueAt (cadence.instant k)).any reading.exceededBy

/-- The text of the value of a series at an evaluation. -/
def valueText (series : TimeSeries) (cadence : Cadence interval) (k : Nat) : String :=
  ((series.valueAt (cadence.instant k)).map formatValue).getD ""

/-- The alert of a series, if it is active at an evaluation. -/
def alertAt? (reading : Reading) (rule : Rule) (series : TimeSeries) (cadence : Cadence interval)
    (k : Nat) : Option Alert :=
  (Cadence.runStart? (reading.active series cadence) k).map fun start =>
    { labels := rule.alertLabels (series.labels.without "__name__")
      annotations := reading.rendered (valueText series cadence k)
      state := (stateAfter rule.hold (cadence.instant k - cadence.instant start)).text
      value := valueText series cadence k
      activeAt := some (cadence.instant start) }

/-- The alerts of a rule at an evaluation. -/
def alertsAt (reading : Reading) (rule : Rule) (series : List TimeSeries)
    (cadence : Cadence interval) (k : Nat) : List Alert :=
  (series.filter fun series => reading.selects series.labels).filterMap fun series =>
    reading.alertAt? rule series cadence k

end Reading

/-- What the rules of a group show at an elapsed time: the results of the
last evaluation, and no alerts before the first. -/
def Cadence.shown {interval : Int} (cadence : Cadence interval) (rules : List Rule)
    (results : Nat → List (List Alert)) (time : Int) : List (List Alert) :=
  match cadence.last? time with
  | some k => results k
  | none => rules.map fun _ => []

/-! ## Expected alerts -/

/-- An alert of an engine is an expected one, active since about the
expected time. -/
structure ActiveAlert.Agrees (tolerance : Int) (expected : ActiveAlert) (shown : Alert) :
    Prop where
  labels : expected.template.labels.same shown.labels = true
  annotations : expected.template.rendered.same shown.annotations = true
  state : expected.state.text = shown.state
  value : expected.value = shown.value
  activeAt : ∃ elapsed, shown.activeAt = some elapsed ∧
    withinTolerance expected.activeAt elapsed tolerance = true

/-- An engine shows the alerts of an outcome, rule by rule. -/
def Outcome.Fits (tolerance : Int) (outcome : Outcome) (shown : List (List Alert)) : Prop :=
  List.Forall₂ (List.Forall₂ (ActiveAlert.Agrees tolerance)) outcome.rules shown

/-- The labels of a template are those of the alert when they agree with
the result on all names that the rule leaves alone. -/
theorem Template.labels_same_alertLabels {rule : Rule} {rendered seriesLabels result : Labels}
    (h : ∀ name, name ≠ "alertname" → rule.labels.get? name = none →
      seriesLabels.get? name = result.get? name) :
    (Template.labels ⟨rule, rendered, seriesLabels⟩).same (rule.alertLabels result) = true := by
  refine Labels.same_of_get? fun name => ?_
  rw [labels, Rule.alertLabels, Labels.get?_insert, Labels.get?_insert, Labels.get?_override,
    Labels.get?_override]
  by_cases halert : "alertname" = name
  · rw [if_pos halert, if_pos halert]
  rw [if_neg halert, if_neg halert]
  cases hrule : rule.labels.get? name with
  | none => rw [h name (Ne.symm halert) hrule]
  | some value => rw [Option.some_or, Option.some_or]

theorem get?_metricLabels {group alert name : String} (hmetric : name ≠ "__name__")
    (hname : name ≠ "alertname") (hgroup : name ≠ "rulegroup") :
    (metricLabels group alert).get? name = none := by
  simp [metricLabels, Labels.get?, Labels.ofList, Keyed.ofList, Keyed.put, Keyed.find?,
    Ne.symm hmetric, Ne.symm hname, Ne.symm hgroup]

/-- A rule that names its group leaves nothing of the series that the case
feeds it: all names but the one of the metric are its own. -/
theorem get?_metricLabels_without {rule : Rule} {group name : String} (alert : String)
    (hgroup : rule.labels.get? "rulegroup" = some group) (hname : name ≠ "alertname")
    (hrule : rule.labels.get? name = none) :
    ((metricLabels group alert).without "__name__").get? name = none := by
  rw [Labels.get?_without]
  split
  · rfl
  · rename_i hmetric
    refine get?_metricLabels hmetric hname ?_
    rintro rfl
    rw [hgroup] at hrule
    cases hrule

namespace Reading

variable {interval time : Int} {reading : Reading} {rule : Rule} {series : TimeSeries}
  {cadence : Cadence interval} {k : Nat}

theorem selects_selector (reading : Reading) : reading.selects reading.selector = true :=
  List.all_eq_true.mpr fun _ hmem => beq_iff_eq.mpr
    (Keyed.find?_of_mem reading.selector.distinct hmem)

/-- A rule that selects one series has the alert of this one. -/
theorem alertsAt_eq_toList {others : List TimeSeries}
    (h : (others.filter fun series => reading.selects series.labels) = [series]) :
    reading.alertsAt rule others cadence k =
      (reading.alertAt? rule series cadence k).toList := by
  rw [alertsAt, h]
  cases halert : reading.alertAt? rule series cadence k with
  | none => simp only [List.filterMap_cons, halert, List.filterMap_nil, Option.toList_none]
  | some alert => simp only [List.filterMap_cons, halert, List.filterMap_nil, Option.toList_some]

theorem labels_of_alertAt? {alert : Alert}
    (h : reading.alertAt? rule series cadence k = some alert) :
    alert.labels = rule.alertLabels (series.labels.without "__name__") := by
  obtain ⟨start, -, rfl⟩ := Option.map_eq_some_iff.mp h
  rfl

/-- Whether a series does not exceed the threshold at a time. -/
def Quiet (reading : Reading) (series : TimeSeries) (time : Int) : Prop :=
  (series.valueAt time).any reading.exceededBy = false

/-- A series that is quiet at an evaluation has no alert. -/
theorem Quiet.alertAt?_eq_none (h : reading.Quiet series (cadence.instant k)) :
    reading.alertAt? rule series cadence k = none := by
  have hactive : reading.active series cadence k = false := h
  rw [alertAt?, Cadence.runStart?_eq_none hactive, Option.map_none]

/-- A series exceeds the threshold with one value from `start` until
`stop`, and has not done so since `rest`. -/
structure Peak (reading : Reading) (series : TimeSeries) (rest start stop : Int)
    (value : Binary64) : Prop where
  inside : ∀ time, start ≤ time → time < stop → series.valueAt time = some value
  exceeds : reading.exceededBy value = true
  before : ∀ time, rest ≤ time → time < start → reading.Quiet series time

variable {rest start stop : Int} {value : Binary64}

/-- During a peak the series has been active since the first evaluation of
the peak, when some evaluation before has not seen it active. -/
theorem Peak.runStart?_eq (h : reading.Peak series rest start stop value)
    (hlow : start ≤ cadence.instant k) (hhigh : cadence.instant k < stop)
    (hrest : rest ≤ 0 ∨ rest + interval ≤ start) :
    Cadence.runStart? (reading.active series cadence) k = some (cadence.first start) := by
  refine cadence.runStart?_eq_first hlow (fun j hj hstart => ?_) (fun j hstart hnext => ?_)
  · have hmono := cadence.instant_mono hj
    rw [active, h.inside _ hstart (by omega), Option.any_some]
    exact h.exceeds
  · have hnonneg := cadence.instant_nonneg j
    exact h.before _ (by omega) hstart

/-- What is expected of the alert of a series while it exceeds the
threshold with a value since some time. -/
structure Expects (reading : Reading) (rule : Rule) (series : TimeSeries) (start : Int)
    (value : Binary64) (expected : ActiveAlert) : Prop where
  labels : expected.template.labels.same
    (rule.alertLabels (series.labels.without "__name__")) = true
  rendered : expected.template.rendered.same (reading.rendered expected.value) = true
  value : expected.value = formatValue value
  activeAt : expected.activeAt = start

/-- What is expected of a rule that reads the series of its own name. -/
theorem expects_metric {group text : String} {samples : List Sample} {start : Int}
    {value : Binary64} (state : ActiveState)
    (hgroup : rule.labels.get? "rulegroup" = some group) (htext : text = formatValue value) :
    reading.Expects rule ⟨metricLabels group rule.name, samples⟩ start value
      ⟨⟨rule, reading.rendered text, .empty⟩, state, text, start⟩ where
  labels := Template.labels_same_alertLabels fun _ hname hrule =>
    (get?_metricLabels_without _ hgroup hname hrule).symm
  rendered := Labels.same_refl _
  value := htext
  activeAt := rfl

/-- During a peak the series has an alert that began with the first
evaluation of the peak. -/
theorem Peak.alertAt?_eq (h : reading.Peak series rest start stop value)
    (hrest : rest ≤ 0 ∨ rest + interval ≤ start) (hlow : start ≤ cadence.instant k)
    (hhigh : cadence.instant k < stop) :
    reading.alertAt? rule series cadence k = some {
      labels := rule.alertLabels (series.labels.without "__name__")
      annotations := reading.rendered (formatValue value)
      state := (stateAfter rule.hold
        (cadence.instant k - cadence.instant (cadence.first start))).text
      value := formatValue value
      activeAt := some (cadence.instant (cadence.first start)) } := by
  have htext : valueText series cadence k = formatValue value := by
    rw [valueText, h.inside _ hlow hhigh, Option.map_some, Option.getD_some]
  rw [alertAt?, h.runStart?_eq hlow hhigh hrest, Option.map_some, htext]

/-- The first evaluation of a peak is close enough to its start. -/
theorem withinTolerance_first (hstart : 0 ≤ start) :
    withinTolerance start (cadence.instant (cadence.first start)) interval = true := by
  have hseen := cadence.le_instant_first start
  have hsoon := cadence.instant_first_lt hstart
  rw [withinTolerance, decide_eq_true_eq]
  omega

/-- During a peak an engine shows what is expected since its start. -/
theorem Peak.agrees {expected : ActiveAlert} (h : reading.Peak series rest start stop value)
    (hexpects : reading.Expects rule series start value expected) (hstart : 0 ≤ start)
    (hrest : rest ≤ 0 ∨ rest + interval ≤ start) (hlow : start ≤ cadence.instant k)
    (hhigh : cadence.instant k < stop)
    (hstate : expected.state =
      stateAfter rule.hold (cadence.instant k - cadence.instant (cadence.first start))) :
    ∃ alert, reading.alertAt? rule series cadence k = some alert ∧
      expected.Agrees interval alert := by
  refine ⟨_, h.alertAt?_eq hrest hlow hhigh, hexpects.labels, ?_, ?_, hexpects.value, _, rfl, ?_⟩
  · rw [← hexpects.value]
    exact hexpects.rendered
  · rw [hstate]
  · rw [hexpects.activeAt]
    exact withinTolerance_first hstart

/-! ## Runs of samples -/

section Runs

variable {labels : Labels} (early quiet rest : List (Nat × Binary64))

theorem quiet_of_level {runs : List (Nat × Binary64)} (hruns : ∀ run ∈ runs, 0 < run.1)
    (hinterval : 0 < interval) (htime : 0 ≤ time) {run : Nat × Binary64}
    (hlevel : levelAt interval runs time = some run.2) (hrun : reading.exceededBy run.2 = false) :
    reading.Quiet ⟨labels, stamp interval (blocks runs)⟩ time := by
  rw [Quiet, valueAt_blocks _ hruns hinterval htime, hlevel, Option.any_some, hrun]

/-- A series is quiet during runs that do not exceed the threshold. -/
theorem quiet_of_runs (hruns : ∀ run ∈ early ++ (quiet ++ rest), 0 < run.1)
    (hinterval : 0 < interval) (hquiet : ∀ run ∈ quiet, reading.exceededBy run.2 = false)
    (hlow : runsLength early * interval ≤ time)
    (hhigh : time < runsLength (early ++ quiet) * interval) :
    reading.Quiet ⟨labels, stamp interval (blocks (early ++ (quiet ++ rest)))⟩ time := by
  have hnonneg : 0 ≤ runsLength early * interval :=
    Int.mul_nonneg (Int.natCast_nonneg _) (Int.le_of_lt hinterval)
  rw [runsLength_append, Int.natCast_add, Int.add_mul] at hhigh
  have hne : quiet ++ rest ≠ [] := by
    rintro hnil
    rw [(List.append_eq_nil_iff.mp hnil).1, runsLength_nil, Int.natCast_zero,
      Int.zero_mul] at hhigh
    omega
  obtain ⟨run, hmem, hlevel⟩ := levelAt_eq_some_of_lt rest
    (show 0 ≤ time - runsLength early * interval by omega)
    (show time - runsLength early * interval < runsLength quiet * interval by omega)
  rw [← levelAt_append hinterval hne hlow] at hlevel
  exact quiet_of_level hruns hinterval (by omega) hlevel (hquiet run hmem)

/-- It stays quiet when the last runs do not exceed the threshold. -/
theorem quiet_of_last_runs (hruns : ∀ run ∈ early ++ quiet, 0 < run.1) (hinterval : 0 < interval)
    (hne : quiet ≠ []) (hquiet : ∀ run ∈ quiet, reading.exceededBy run.2 = false)
    (hlow : runsLength early * interval ≤ time) :
    reading.Quiet ⟨labels, stamp interval (blocks (early ++ quiet))⟩ time := by
  have hnonneg : 0 ≤ runsLength early * interval :=
    Int.mul_nonneg (Int.natCast_nonneg _) (Int.le_of_lt hinterval)
  obtain ⟨run, hmem, hlevel⟩ := levelAt_eq_some_of_mem hne
  rw [← levelAt_append hinterval hne hlow] at hlevel
  exact quiet_of_level hruns hinterval (by omega) hlevel (hquiet run hmem)

/-- A run that exceeds the threshold after some that do not is a peak. -/
theorem peak_of_runs {run : Nat × Binary64}
    (hruns : ∀ other ∈ early ++ (quiet ++ run :: rest), 0 < other.1) (hinterval : 0 < interval)
    (hquiet : ∀ other ∈ quiet, reading.exceededBy other.2 = false)
    (hrun : reading.exceededBy run.2 = true) :
    reading.Peak ⟨labels, stamp interval (blocks (early ++ (quiet ++ run :: rest)))⟩
      (runsLength early * interval) (runsLength (early ++ quiet) * interval)
      (runsLength (early ++ quiet ++ [run]) * interval) run.2 := by
  refine ⟨fun time hlow hhigh => ?_, hrun, fun time hlow hhigh => ?_⟩
  · have hnonneg : 0 ≤ runsLength (early ++ quiet) * interval :=
      Int.mul_nonneg (Int.natCast_nonneg _) (Int.le_of_lt hinterval)
    rw [runsLength_append, Int.natCast_add, Int.add_mul] at hhigh
    obtain ⟨other, hmem, hlevel⟩ := levelAt_eq_some_of_lt rest
      (show 0 ≤ time - runsLength (early ++ quiet) * interval by omega)
      (show time - runsLength (early ++ quiet) * interval < runsLength [run] * interval by omega)
    rw [List.singleton_append, ← levelAt_append hinterval (List.cons_ne_nil _ _) hlow,
      List.append_assoc] at hlevel
    rw [valueAt_blocks _ hruns hinterval (by omega), hlevel, List.mem_singleton.mp hmem]
  · exact quiet_of_runs early quiet _ hruns hinterval hquiet hlow hhigh

/-- Before its first peak a series has always been quiet. -/
theorem first_peak_of_runs {run : Nat × Binary64}
    (hruns : ∀ other ∈ quiet ++ run :: rest, 0 < other.1) (hinterval : 0 < interval)
    (hquiet : ∀ other ∈ quiet, reading.exceededBy other.2 = false)
    (hrun : reading.exceededBy run.2 = true) :
    reading.Peak ⟨labels, stamp interval (blocks (quiet ++ run :: rest))⟩ 0
      (runsLength quiet * interval) (runsLength (quiet ++ [run]) * interval) run.2 := by
  have h := @peak_of_runs _ reading labels [] quiet rest run hruns hinterval hquiet hrun
  rwa [runsLength_nil, Int.natCast_zero, Int.zero_mul] at h

end Runs

end Reading

end AlertConformance
