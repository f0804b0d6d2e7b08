/-
AlertConformance.Proofs.TestCase.SelfCheck — what makes a test case pass
its own self-check.

The self-check confronts a test case with itself: with the first of its
candidates at every instant, and with its notifications delivered without
delay. A case passes when some outcome is possible at every time of the
test, when the views of its outcomes agree, and when its bursts come one
after another. How long the steps between instants are does not matter,
nor when the test starts.

* `TestCase.Covered` — at every time some outcome is possible.
* `TestCase.Sound` — what a case needs, and `TestCase.Passes` — what the
  self-check then finds.
* `repeats_ok` — the views are the same when they are asked for again.
* `Viewable.accepts_own` — an outcome is accepted when it is shown.
* `Sound.checkInstant_ok`, `Sound.checkInstants_ok` — one instant, and all.
* `Sound.replays` — the notifications without delay.
* `Sound.passes` — the whole self-check.
-/
import AlertConformance.Proofs.Matcher.Progress
import AlertConformance.Proofs.Schedule.Replay
import AlertConformance.Proofs.Schedule.Sequence
import AlertConformance.Proofs.TestCase.Conformance
import AlertConformance.Proofs.TestCase.Views
import Mathlib.Algebra.Order.Floor.Ring
import Mathlib.Data.Rat.Floor

namespace AlertConformance

/-! ## Counting steps -/

/-- The number of steps is the quotient, rounded up. -/
theorem sendCount_eq_ceil (start : Int) {duration step : Int} (hduration : 0 ≤ duration)
    (hstep : 0 < step) :
    (sendCount start (start + duration) step : Int) = ⌈(duration : ℚ) / step⌉ := by
  have hpos : (0 : ℚ) < step := by exact_mod_cast hstep
  have hcount : (sendCount start (start + duration) step : Int) = (duration + step - 1) / step := by
    have hnonneg : 0 ≤ (duration + step - 1) / step :=
      Int.ediv_nonneg (by omega) (Int.le_of_lt hstep)
    rw [sendCount, Int.toNat_of_nonneg (by rwa [show start + duration - start + step - 1 =
      duration + step - 1 by omega])]
    congr 1
    omega
  rw [hcount, eq_comm, Int.ceil_eq_iff, lt_div_iff₀ hpos, div_le_iff₀ hpos]
  generalize hquotient : (duration + step - 1) / step = quotient
  have hlow : quotient * step ≤ duration + step - 1 :=
    hquotient ▸ Int.ediv_mul_le _ (Int.ne_of_gt hstep)
  have hhigh : duration + step - 1 < (quotient + 1) * step :=
    hquotient ▸ Int.lt_ediv_add_one_mul_self _ hstep
  constructor
  · have hlt : (quotient - 1) * step < duration := by
      rw [Int.sub_mul, Int.one_mul]
      omega
    exact_mod_cast hlt
  · have hle : duration ≤ quotient * step := by
      rw [Int.add_mul, Int.one_mul] at hhigh
      omega
    exact_mod_cast hle

/-- The instants of a test lie within it. -/
theorem mem_sendTimes {start stop delay time : Int} (hdelay : 0 < delay) :
    time ∈ sendTimes start stop delay ↔
      ∃ k : Nat, start + k * delay < stop ∧ time = start + k * delay := by
  have hsends : sendTimes start stop delay =
      (List.range (sendCount start stop delay)).map fun k : Nat => start + k * delay := rfl
  simp only [hsends, List.mem_map, List.mem_range, lt_sendCount_iff hdelay, eq_comm]

theorem length_sendTimes (start stop delay : Int) :
    (sendTimes start stop delay).length = sendCount start stop delay := by
  simp [sendTimes, sendCount]

/-- Steps that all succeed succeed together. -/
theorem forM_eq_ok {α : Type} {f : α → Result Unit} {xs : List α}
    (h : ∀ x ∈ xs, f x = .ok ()) : xs.forM f = .ok () := by
  induction xs with
  | nil => rfl
  | cons x xs ih =>
    exact bind_eq_ok_iff.mpr ⟨(), h x List.mem_cons_self,
      ih fun other hmem => h other (List.mem_cons_of_mem _ hmem)⟩

/-! ## Outcomes that are shown -/

/-- The alerts of an outcome, with their times counted from the start. -/
def Outcome.shown (outcome : Outcome) : List (List Alert) :=
  outcome.rules.map fun active => active.map fun a => a.alert 0

theorem ActiveAlert.since_alert (active : ActiveAlert) (zeroTime : Int) :
    (active.alert 0).since zeroTime = active.alert zeroTime := by
  simp [ActiveAlert.alert, Template.alert, Alert.since]

theorem ActiveAlert.agrees_alert (active : ActiveAlert) {tolerance : Int}
    (htolerance : 0 ≤ tolerance) : active.Agrees tolerance (active.alert 0) := by
  refine ⟨Labels.same_refl _, Labels.same_refl _, rfl, rfl, _, rfl, ?_⟩
  rw [withinTolerance, decide_eq_true_eq]
  omega

theorem forall₂_map_self {α β : Type} {related : α → β → Prop} {f : α → β} {xs : List α}
    (h : ∀ x ∈ xs, related x (f x)) : List.Forall₂ related xs (xs.map f) := by
  induction xs with
  | nil => exact .nil
  | cons x xs ih =>
    exact .cons (h x List.mem_cons_self) (ih fun other hmem => h other (List.mem_cons_of_mem _ hmem))

/-- An outcome fits its own alerts. -/
theorem Outcome.fits_shown (outcome : Outcome) {tolerance : Int} (htolerance : 0 ≤ tolerance) :
    outcome.Fits tolerance outcome.shown :=
  forall₂_map_self fun _ _ => forall₂_map_self fun a _ => a.agrees_alert htolerance

/-- A list is matched with itself by what every element agrees with. -/
theorem matches_self {α : Type} {agrees : α → α → Prop} {xs : List α}
    (hself : ∀ x ∈ xs, agrees x x) : Matches agrees xs xs :=
  ⟨xs, List.Perm.refl xs, List.forall₂_same.mpr hself⟩

/-! ## Views that are asked for again

The self-check compares the views with themselves. Numbers are compared by
their values, so a duration has to be a number to be what it was before. -/

theorem sameLists_self {α : Type} {same : α → α → Bool} {xs : List α}
    (h : ∀ x ∈ xs, same x x = true) : sameLists same xs xs = true := by
  induction xs with
  | nil => rfl
  | cons x xs ih =>
    rw [sameLists, h x List.mem_cons_self, Bool.true_and]
    exact ih fun other hmem => h other (List.mem_cons_of_mem _ hmem)

theorem equal_of_inSeconds {duration : Int} {x : Binary64} (h : inSeconds duration = .ok x) :
    x.equal x = true := by
  unfold inSeconds at h
  split at h
  · rename_i number hnumber
    obtain rfl := Except.ok.inj h
    have hfinite : number.isFinite = true := by
      unfold Binary64.ofInt? at hnumber
      split at hnumber
      · obtain rfl := Option.some.inj hnumber
        rfl
      · cases hnumber
    exact Binary64.equal_self (Binary64.isNaN_div hfinite Binary64.holds_thousand (by decide))
  · cases h

theorem Alert.same_refl (alert : Alert) : alert.same alert = true := by
  simp [Alert.same, Labels.same_refl]

theorem Rule.same_snapshot {rule : Rule} {state : String} {alerts : List Alert}
    {snapshot : RuleSnapshot} (h : rule.snapshot state alerts = .ok snapshot) :
    snapshot.same snapshot = true := by
  obtain ⟨x, hx, h⟩ := bind_eq_ok_iff.mp h
  obtain rfl := Except.ok.inj h
  have halerts : sameLists Alert.same alerts alerts = true :=
    sameLists_self fun alert _ => alert.same_refl
  simp [RuleSnapshot.same, Labels.same_refl, equal_of_inSeconds hx, halerts]

/-- The group of an outcome is the same as itself. -/
theorem TestCase.same_groupOf {test : TestCase} {outcome : Outcome} {zeroTime : Int}
    {group : GroupSnapshot} (h : test.groupOf zeroTime outcome = .ok group) :
    group.same group = true := by
  obtain ⟨snapshots, hsnapshots, h⟩ := bind_eq_ok_iff.mp h
  have hsame : sameLists RuleSnapshot.same snapshots snapshots = true := by
    refine sameLists_self fun snapshot hmem => ?_
    obtain ⟨_, -, hsnapshot⟩ := exists_mem_of_forall₂ (mapM_eq_ok_iff.mp hsnapshots).flip hmem
    exact Rule.same_snapshot hsnapshot
  unfold groupSnapshot at h
  split at h
  · cases h
  · obtain ⟨x, hx, h⟩ := bind_eq_ok_iff.mp h
    obtain rfl := Except.ok.inj h
    simp [GroupSnapshot.same, equal_of_inSeconds hx, hsame]

namespace TestCase

variable {test : TestCase} {outcome : Outcome} {zeroTime elapsed step : Int}

/-- At every time of a test some outcome is possible. -/
def Covered (test : TestCase) : Prop :=
  ∀ elapsed, 0 ≤ elapsed → elapsed < test.duration → test.outcomesAt elapsed ≠ []

/-- A case that can be run against itself: its outcomes have all views,
which agree, some outcome is possible at every time, and its bursts come
one after another. -/
structure Sound (test : TestCase) : Prop where
  viewable : test.Viewable
  coherent : test.Coherent
  covered : test.Covered
  inSequence : Schedule.InSequence test.setup.settings test.bursts
  interval_pos : 0 < test.setup.groupInterval
  delay_pos : 0 < test.setup.settings.resendDelay
  duration_nonneg : 0 ≤ test.duration

/-- The self-check of a test that starts at `zeroTime` succeeds with a
report. Every time of the test has candidates in all views, and `wanted`,
the notifications of the test, complete a matcher when they are delivered
without delay. The report has no error, an instant for each step, and has
matched all notifications that it expects. -/
structure Passes (test : TestCase) (zeroTime step : Int) (wanted : List ScheduledNotification)
    (result : Report) : Prop where
  candidates : ∀ time, zeroTime ≤ time → time < zeroTime + test.duration →
    test.expectedAlerts zeroTime time ≠ [] ∧
    (∃ groups, test.expectedGroups zeroTime time = .ok groups ∧ groups ≠ []) ∧
    test.expectedSamples zeroTime time ≠ []
  notifications : test.expectedNotifications ⟨some zeroTime⟩ = .ok wanted
  replays : ∃ start last, Matcher.new wanted = .ok start ∧
    deliver start (idealStream wanted) = .ok last ∧ last.complete = true
  reported : test.selfCheck zeroTime step = .ok result
  error : result.error = none
  instants : result.instants = ⌈(test.duration : ℚ) / step⌉
  expected : result.expected = wanted.length
  matched : result.matched = wanted.length

/-! ## Instants -/

/-- **Own alerts**: the three views of a possible outcome pass the
checks. -/
theorem Viewable.accepts_own (hview : test.Viewable) (hinterval : 0 ≤ test.setup.groupInterval)
    (hmem : outcome ∈ test.outcomesAt elapsed) (zeroTime : Int) :
    test.Accepts zeroTime elapsed outcome.shown :=
  hview.accepts hinterval ⟨outcome, hmem, outcome.fits_shown hinterval⟩

/-- The views are the same when they are asked for again. -/
theorem repeats_ok {time : Int} {groups : List GroupSnapshot}
    (hgroups : test.expectedGroups zeroTime time = .ok groups) :
    test.repeats zeroTime time (test.expectedAlerts zeroTime time) groups = .ok true := by
  have halerts : sameLists (sameLists Alert.same) (test.expectedAlerts zeroTime time)
      (test.expectedAlerts zeroTime time) = true :=
    sameLists_self fun page _ => sameLists_self fun alert _ => alert.same_refl
  have hsame : sameLists GroupSnapshot.same groups groups = true := by
    refine sameLists_self fun group hmem => ?_
    obtain ⟨_, -, hgroup⟩ := exists_mem_of_forall₂ (mapM_eq_ok_iff.mp hgroups).flip hmem
    exact same_groupOf hgroup
  rw [repeats, if_pos halerts]
  refine bind_eq_ok_iff.mpr ⟨groups, hgroups, ?_⟩
  rw [hsame]
  rfl

theorem shown_flatten (outcome : Outcome) :
    outcome.shown.flatten = outcome.active.map fun a => a.alert 0 := by
  rw [Outcome.shown, Outcome.active, List.map_flatten]

theorem Accepts.own_alerts (h : test.Accepts zeroTime elapsed outcome.shown) :
    test.checkAlerts zeroTime (zeroTime + elapsed)
      (outcome.active.map fun a => a.alert zeroTime) = .ok () := by
  refine h.alerts _ ?_
  rw [shown_flatten, List.map_map]
  simp only [Function.comp_def, ActiveAlert.since_alert]
  exact matches_self fun alert _ => alert.same_refl

theorem Accepts.own_group (h : test.Accepts zeroTime elapsed outcome.shown) {group : GroupSnapshot}
    (hgroup : test.groupOf zeroTime outcome = .ok group) :
    test.checkGroup zeroTime (zeroTime + elapsed) (some group) = .ok () := by
  have hlisted : outcome.shown.map (fun alerts => alerts.map fun alert => alert.since zeroTime) =
      outcome.rules.map fun active => active.map fun a => a.alert zeroTime := by
    simp only [Outcome.shown, List.map_map, Function.comp_def, ActiveAlert.since_alert]
  obtain ⟨page, hpage, hok⟩ := h.group _ (List.forall₂_same.mpr fun _ _ =>
    matches_self fun alert _ => alert.same_refl)
  rw [hlisted, ← groupOf_eq, hgroup] at hpage
  exact Except.ok.inj hpage ▸ hok

theorem Accepts.own_samples (h : test.Accepts zeroTime elapsed outcome.shown) :
    test.checkSamples zeroTime (zeroTime + elapsed)
      ((samplesOf (zeroTime + elapsed) outcome).getD []) = .ok () := by
  refine h.samples _ ?_
  rw [shown_flatten, List.map_map, samplesOf_getD]
  refine matches_self fun sample hsample => ?_
  obtain ⟨active, -, rfl⟩ := List.mem_map.mp hsample
  have hone : (1 : Binary64).equal 1 = true := Binary64.equal_self (by decide)
  exact ⟨Labels.same_refl _, hone, rfl⟩

namespace Sound

/-- **One instant**: some outcome is possible, and the first one passes the
checks. -/
theorem checkInstant_ok (h : test.Sound) (hlow : 0 ≤ elapsed) (hhigh : elapsed < test.duration)
    (zeroTime : Int) : test.checkInstant zeroTime (zeroTime + elapsed) = .ok () := by
  obtain ⟨outcome, rest, houtcomes⟩ := List.exists_cons_of_ne_nil (h.covered elapsed hlow hhigh)
  have hmem : outcome ∈ test.outcomesAt elapsed := houtcomes ▸ List.mem_cons_self
  have haccepts := h.viewable.accepts_own (Int.le_of_lt h.interval_pos) hmem zeroTime
  obtain ⟨groups, hgroups, -⟩ := h.coherent.views_agree zeroTime (zeroTime + elapsed)
  have hviews := hgroups
  rw [expectedGroups, add_sub_cancel_left, houtcomes] at hviews
  cases mapM_eq_ok_iff.mp hviews with
  | @cons _ group _ others hgroup _ =>
    have halerts : test.expectedAlerts zeroTime (zeroTime + elapsed) =
        (outcome.active.map fun a => a.alert zeroTime) ::
          rest.map fun outcome => outcome.active.map fun a => a.alert zeroTime := by
      rw [expectedAlerts, add_sub_cancel_left, houtcomes, List.map_cons]
    have hsamples : test.expectedSamples zeroTime (zeroTime + elapsed) =
        samplesOf (zeroTime + elapsed) outcome :: rest.map (samplesOf (zeroTime + elapsed)) := by
      rw [expectedSamples, add_sub_cancel_left, houtcomes, List.map_cons]
    have hrepeats := repeats_ok hgroups
    refine bind_eq_ok_iff.mpr ⟨_, hgroups, ?_⟩
    rw [halerts] at hrepeats ⊢
    rw [hsamples]
    exact bind_eq_ok_iff.mpr ⟨true, hrepeats, bind_eq_ok_iff.mpr
      ⟨(), haccepts.own_alerts, bind_eq_ok_iff.mpr
        ⟨(), haccepts.own_group hgroup, haccepts.own_samples⟩⟩⟩

/-- **All instants**: as many as there are steps. -/
theorem checkInstants_ok (h : test.Sound) (hstep : 0 < step) (zeroTime : Int) :
    test.checkInstants zeroTime step =
      .ok (sendCount zeroTime (zeroTime + test.duration) step) := by
  have hinstants : instants zeroTime (zeroTime + test.duration) step =
      .ok (sendTimes zeroTime (zeroTime + test.duration) step) := by
    rw [AlertConformance.instants, if_neg (by omega), if_neg (by omega)]
  refine bind_eq_ok_iff.mpr ⟨_, hinstants, bind_eq_ok_iff.mpr ⟨(), ?_, ?_⟩⟩
  · refine forM_eq_ok fun time htime => ?_
    obtain ⟨k, hk, rfl⟩ := (mem_sendTimes hstep).mp htime
    have hpast : 0 ≤ k * step := Int.mul_nonneg (Int.natCast_nonneg k) (Int.le_of_lt hstep)
    exact h.checkInstant_ok hpast (by omega) zeroTime
  · rw [length_sendTimes]
    rfl

/-! ## Notifications -/

/-- **Replay**: the notifications of a test are scheduled, and delivered
without delay they are all accepted. -/
theorem replays (h : test.Sound) (zeroTime : Int) :
    ∃ wanted start last, test.expectedNotifications ⟨some zeroTime⟩ = .ok wanted ∧
      Matcher.new wanted = .ok start ∧ deliver start (idealStream wanted) = .ok last ∧
      last.complete = true ∧ last.pending = [] ∧ last.consumed.length = wanted.length := by
  obtain ⟨empty, schedule, hnew, hfold, hbuilt⟩ :=
    h.inSequence.exists_built h.interval_pos h.delay_pos zeroTime
  have hwanted : test.expectedNotifications ⟨some zeroTime⟩ = .ok schedule.events := by
    unfold expectedNotifications
    split
    · rename_i hnone
      rw [List.isEmpty_iff.mp hnone] at hfold
      obtain rfl := Except.ok.inj hfold
      rw [(Schedule.new_eq hnew).1]
    · have hschedule : test.scheduleFrom zeroTime = .ok schedule :=
        bind_eq_ok_iff.mpr ⟨empty, hnew, hfold⟩
      exact bind_eq_ok_iff.mpr ⟨zeroTime, rfl, bind_eq_ok_iff.mpr ⟨schedule, hschedule, rfl⟩⟩
  obtain ⟨start, last, hstart, hdeliver, hcomplete, hpending, hcount⟩ :=
    hbuilt.regular.replays (List.forall₂_same.mpr fun notification _ => .refl notification)
  exact ⟨_, start, last, hwanted, hstart, hdeliver, hcomplete, hpending, hcount⟩

/-- A matcher with nothing left to come misses nothing. -/
theorem finishAfter_ok {matcher : Matcher} (h : matcher.pending = []) (stream : List Notification) :
    finishAfter matcher stream = .ok () := by
  unfold finishAfter
  split
  · rw [Matcher.finish_eq_ok_iff, h]
    simp
  · rfl

/-! ## The report -/

/-- **The self-check** of a sound case succeeds, whenever the test starts
and however long the steps are. -/
theorem passes (h : test.Sound) (hstep : 0 < step) (zeroTime : Int) :
    ∃ wanted result, test.Passes zeroTime step wanted result := by
  obtain ⟨wanted, start, last, hwanted, hnew, hdeliver, hcomplete, hpending, hcount⟩ :=
    h.replays zeroTime
  have hrun : (Matcher.new wanted >>= fun matcher => deliver matcher (idealStream wanted)) =
      .ok last := bind_eq_ok_iff.mpr ⟨start, hnew, hdeliver⟩
  refine ⟨wanted, ⟨test.title, sendCount zeroTime (zeroTime + test.duration) step, wanted.length,
    last.consumed.length, none⟩, ?_⟩
  constructor
  case candidates =>
    intro time hlow hhigh
    have houtcomes := h.covered (time - zeroTime) (by omega) (by omega)
    obtain ⟨groups, hgroups, hlength, -, -⟩ := h.coherent.views_agree zeroTime time
    refine ⟨?_, ⟨groups, hgroups, ?_⟩, ?_⟩
    · rwa [expectedAlerts, ne_eq, List.map_eq_nil_iff]
    · rintro rfl
      rw [expectedAlerts, List.length_map, List.length_nil] at hlength
      exact houtcomes (List.length_eq_zero_iff.mp hlength.symm)
    · rwa [expectedSamples, ne_eq, List.map_eq_nil_iff]
  case notifications => exact hwanted
  case replays => exact ⟨start, last, hnew, hdeliver, hcomplete⟩
  case reported =>
    refine bind_eq_ok_iff.mpr ⟨⟨some zeroTime⟩, rfl, ?_⟩
    simp only [report, h.checkInstants_ok hstep zeroTime, hwanted, hrun,
      finishAfter_ok hpending]
  case error => rfl
  case instants => exact sendCount_eq_ceil zeroTime h.duration_nonneg hstep
  case expected => rfl
  case matched => rw [hcount]

end Sound

end TestCase

end AlertConformance
