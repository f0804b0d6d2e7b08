/-
AlertConformance.Proofs.TestCase.Translation — a test does not know what
time it is.

A test that starts later expects the same, that much later: the views at a
later time, the notifications, and the end of the test. What it is refused
for stays the same. With a matcher, which does not know the time either,
the verdict on an engine depends on nothing but how its times lie to each
other.

* `Alert.shifted`, `RuleSnapshot.shifted`, `QuerySample.shifted`, … — the
  pages, a time later.
* `expectedAlerts_shifted`, `expectedGroups_shifted`,
  `expectedSamples_shifted` — the views.
* `Schedule.step_shifted`, `expectedNotifications_shifted` — the
  notifications, burst by burst.
* `translation_invariant` — tests and matchers together.
-/
import AlertConformance.Proofs.Checked
import AlertConformance.Proofs.Matcher.Translation
import AlertConformance.Proofs.Schedule.Bursts

namespace AlertConformance

variable {offset : Int}

/-! ## Pages -/

/-- An alert, an offset later. -/
def Alert.shifted (offset : Int) (alert : Alert) : Alert :=
  { alert with activeAt := alert.activeAt.map (· + offset) }

def RuleSnapshot.shifted (offset : Int) (rule : RuleSnapshot) : RuleSnapshot :=
  { rule with alerts := rule.alerts.map (Alert.shifted offset) }

def GroupSnapshot.shifted (offset : Int) (group : GroupSnapshot) : GroupSnapshot :=
  { group with rules := group.rules.map (RuleSnapshot.shifted offset) }

/-- A sample, an offset later. -/
def QuerySample.shifted (offset : Int) (sample : QuerySample) : QuerySample :=
  { sample with timestamp := sample.timestamp + offset }

/-! ## Views -/

theorem ActiveAlert.alert_shifted (active : ActiveAlert) (zeroTime : Int) :
    active.alert (zeroTime + offset) = (active.alert zeroTime).shifted offset := by
  have htime : zeroTime + offset + active.activeAt = zeroTime + active.activeAt + offset :=
    Int.add_right_comm ..
  rw [ActiveAlert.alert, htime]
  rfl

theorem alerts_shifted (active : List ActiveAlert) (zeroTime : Int) :
    active.map (fun a => a.alert (zeroTime + offset)) =
      (active.map fun a => a.alert zeroTime).map (Alert.shifted offset) := by
  rw [List.map_map]
  exact List.map_congr_left fun a _ => a.alert_shifted zeroTime

theorem ruleState_shifted (alerts : List Alert) :
    ruleState (alerts.map (Alert.shifted offset)) = ruleState alerts := by
  unfold ruleState
  rw [List.any_map, List.any_map]
  rfl

theorem Rule.snapshot_shifted (rule : Rule) (state : String) (alerts : List Alert) :
    rule.snapshot state (alerts.map (Alert.shifted offset)) =
      (rule.snapshot state alerts).map (RuleSnapshot.shifted offset) := by
  unfold Rule.snapshot
  cases rule.holdSeconds <;> rfl

theorem groupSnapshot_shifted (group : RuleGroup) (rules : List RuleSnapshot) :
    groupSnapshot group (rules.map (RuleSnapshot.shifted offset)) =
      (groupSnapshot group rules).map (GroupSnapshot.shifted offset) := by
  unfold groupSnapshot
  rw [List.length_map]
  split
  · rfl
  · cases group.intervalSeconds <;> rfl

namespace TestCase

variable (test : TestCase) (zeroTime time : Int)

/-- The outcomes that are possible depend on the elapsed time only. -/
theorem outcomesAt_shifted :
    test.outcomesAt (time + offset - (zeroTime + offset)) = test.outcomesAt (time - zeroTime) :=
  congrArg test.outcomesAt (Int.add_sub_add_right ..)

theorem expectedAlerts_shifted :
    test.expectedAlerts (zeroTime + offset) (time + offset) =
      (test.expectedAlerts zeroTime time).map (List.map (Alert.shifted offset)) := by
  rw [expectedAlerts, expectedAlerts, outcomesAt_shifted, List.map_map]
  exact List.map_congr_left fun outcome _ => alerts_shifted outcome.active zeroTime

theorem groupOf_shifted (outcome : Outcome) :
    test.groupOf (zeroTime + offset) outcome =
      (test.groupOf zeroTime outcome).map (GroupSnapshot.shifted offset) := by
  refine bind_eq_map (mapM_eq_map (fun (rule, active) => ?_) _)
    (groupSnapshot_shifted test.group)
  simp only [alerts_shifted, ruleState_shifted, Rule.snapshot_shifted]

theorem expectedGroups_shifted :
    test.expectedGroups (zeroTime + offset) (time + offset) =
      (test.expectedGroups zeroTime time).map (List.map (GroupSnapshot.shifted offset)) := by
  rw [expectedGroups, expectedGroups, outcomesAt_shifted]
  exact mapM_eq_map (test.groupOf_shifted zeroTime) _

theorem expectedSamples_shifted :
    test.expectedSamples (zeroTime + offset) (time + offset) =
      (test.expectedSamples zeroTime time).map
        (Option.map (List.map (QuerySample.shifted offset))) := by
  rw [expectedSamples, expectedSamples, outcomesAt_shifted, List.map_map]
  refine List.map_congr_left fun outcome _ => ?_
  rw [Function.comp_apply, samplesOf, samplesOf]
  split
  · rfl
  · rw [Option.map_some, List.map_map]
    rfl

end TestCase

/-! ## Notifications -/

namespace Schedule

/-- A schedule, an offset later. -/
def shifted (offset : Int) (schedule : Schedule) : Schedule :=
  { schedule with
    zeroTime := schedule.zeroTime + offset
    events := schedule.events.map (ScheduledNotification.shifted offset) }

variable (schedule : Schedule) (burst : Burst)

theorem new_shifted (zeroTime interval : Int) (settings : Settings) :
    Schedule.new (zeroTime + offset) interval settings =
      (Schedule.new zeroTime interval settings).map (shifted offset) := by
  unfold Schedule.new
  split
  · split <;> rfl
  · rfl

/-- A notification has all its times relative to the start. -/
theorem event_shifted (orderingId time : Int) :
    (schedule.shifted offset).event burst orderingId time =
      (schedule.event burst orderingId time).shifted offset := by
  have hlater : ∀ time, schedule.zeroTime + offset + time = schedule.zeroTime + time + offset :=
    fun time => Int.add_right_comm ..
  cases burst with
  | firing =>
    simp only [event, shifted, hlater]
    rfl
  | resolved _ _ _ _ nextState =>
    cases nextState with
    | none =>
      simp only [event, shifted, hlater]
      rfl
    | some next =>
      simp only [event, shifted, hlater]
      rfl

theorem sends_shifted : (schedule.shifted offset).sends burst =
    (schedule.sends burst).map (ScheduledNotification.shifted offset) := by
  rw [sends_eq, sends_eq, List.map_map]
  refine List.map_congr_left fun k _ => ?_
  have hlength : (schedule.shifted offset).events.length = schedule.events.length :=
    List.length_map ..
  rw [Function.comp_apply, send, hlength, event_shifted]
  rfl

theorem extend_shifted : (schedule.shifted offset).extend burst =
    (schedule.extend burst).shifted offset := by
  rw [extend, extend, sends_shifted]
  simp only [shifted, List.map_append]

theorem refuse_shifted : (schedule.shifted offset).refuse burst =
    (schedule.refuse burst).shifted offset := by
  cases burst <;> rfl

/-- **One burst** is taken or refused whenever the test starts. -/
theorem step_shifted : (schedule.shifted offset).step burst =
    ((schedule.step burst).1.shifted offset, (schedule.step burst).2) := by
  unfold step
  cases burst.fault? with
  | none => exact congrArg (·, none) (schedule.extend_shifted burst)
  | some fault => exact congrArg (·, some fault) (schedule.refuse_shifted burst)

theorem add_shifted : (schedule.shifted offset).add burst =
    (schedule.add burst).map (shifted offset) := by
  rw [add, add, step_shifted]
  obtain ⟨next, fault?⟩ := schedule.step burst
  cases fault? <;> rfl

/-- **Any bursts**: the schedule moves with the start of the test. -/
theorem foldlM_add_shifted (bursts : List Burst) :
    bursts.foldlM Schedule.add (schedule.shifted offset) =
      (bursts.foldlM Schedule.add schedule).map (shifted offset) := by
  induction bursts generalizing schedule with
  | nil => rfl
  | cons burst rest ih =>
    rw [List.foldlM_cons, List.foldlM_cons]
    exact bind_eq_map (schedule.add_shifted burst) ih

end Schedule

namespace TestCase

theorem scheduleFrom_shifted (test : TestCase) (zeroTime : Int) :
    test.scheduleFrom (zeroTime + offset) =
      (test.scheduleFrom zeroTime).map (Schedule.shifted offset) :=
  bind_eq_map (Schedule.new_shifted zeroTime test.setup.groupInterval test.setup.settings)
    fun empty => empty.foldlM_add_shifted test.bursts

theorem expectedNotifications_shifted (test : TestCase) (zeroTime : Int) :
    test.expectedNotifications ⟨some (zeroTime + offset)⟩ =
      (test.expectedNotifications ⟨some zeroTime⟩).map
        (List.map (ScheduledNotification.shifted offset)) := by
  have hstart : (Origin.mk (some (zeroTime + offset))).zeroTime =
      (Origin.mk (some zeroTime)).zeroTime.map (· + offset) := rfl
  unfold expectedNotifications
  split
  · rfl
  · exact bind_eq_map hstart fun start =>
      bind_eq_map (test.scheduleFrom_shifted start) fun _ => rfl

/-- A test that starts an offset later expects the same, an offset later;
`finish` is the end of the test. -/
structure Translates (offset : Int) (test : TestCase) (zeroTime time : Int) : Prop where
  alerts : test.expectedAlerts (zeroTime + offset) (time + offset) =
    (test.expectedAlerts zeroTime time).map (List.map (Alert.shifted offset))
  groups : test.expectedGroups (zeroTime + offset) (time + offset) =
    (test.expectedGroups zeroTime time).map (List.map (GroupSnapshot.shifted offset))
  samples : test.expectedSamples (zeroTime + offset) (time + offset) =
    (test.expectedSamples zeroTime time).map (Option.map (List.map (QuerySample.shifted offset)))
  finish : (Origin.mk (some (zeroTime + offset))).after test.duration =
    ((Origin.mk (some zeroTime)).after test.duration).map (· + offset)
  notifications : test.expectedNotifications ⟨some (zeroTime + offset)⟩ =
    (test.expectedNotifications ⟨some zeroTime⟩).map
      (List.map (ScheduledNotification.shifted offset))

theorem translates (offset : Int) (test : TestCase) (zeroTime time : Int) :
    Translates offset test zeroTime time where
  alerts := test.expectedAlerts_shifted zeroTime time
  groups := test.expectedGroups_shifted zeroTime time
  samples := test.expectedSamples_shifted zeroTime time
  finish := congrArg Except.ok (Int.add_right_comm ..)
  notifications := test.expectedNotifications_shifted zeroTime

end TestCase

/-- **No absolute times**: every test that starts later expects the same,
that much later, or is refused for the same. A matcher for a schedule that
is moved is accepted or refused as before, and in any of its states any
calls that are moved as well are answered with the same verdicts and the
same numbers, and with times that are moved. -/
theorem translation_invariant (offset : Int) :
    (∀ (test : TestCase) (zeroTime time : Int), test.Translates offset zeroTime time) ∧
    ∀ expected : List ScheduledNotification,
      Matcher.new (expected.map (ScheduledNotification.shifted offset)) =
        (Matcher.new expected).map (Matcher.shifted offset) ∧
      ∀ (matcher : Matcher) (calls : List Matcher.Call), matcher.Translates offset calls :=
  ⟨TestCase.translates offset, fun expected =>
    ⟨Matcher.new_shifted offset expected, Matcher.translates offset⟩⟩

end AlertConformance
