/-
AlertConformance.Proofs.Matcher.Alarm — when `finish` speaks too soon.

`finish` reports the notifications whose windows have closed. It takes a
resend to be due by the schedule while its burst has not started, although
the first notification of the burst may still come and make it due later.
The first one of a resolved burst may be late by two evaluations, so it
can still come when the window of a resend is over that follows it within
less than one.

* `FalseAlarm` — `finish` fails, and yet all can still be delivered.
* `falseAlarm_iff` — only resends of bursts to start are reported.
* `lost_of_overdue` — with a delay no shorter than the interval, or than
  the retention, what is reported is lost.
* `falseAlarm_of_resolved` — with a shorter one, a resolved burst makes a
  false alarm.
* `finish_false_alarms` — both together.
-/
import AlertConformance.Proofs.Matcher.Completion
import AlertConformance.Proofs.Schedule.Built

namespace AlertConformance.Matcher

open Schedule

variable {matcher start : Matcher} {expected : List ScheduledNotification} {schedule : Schedule}
  {burst : Burst} {event first : ScheduledNotification} {now : Int}

/-! ## The verdict -/

/-- `finish` fails, although further arrivals complete the matcher. -/
def FalseAlarm (matcher : Matcher) (now : Int) : Prop :=
  (∃ error, matcher.finish now = .error error) ∧ matcher.Completable now

theorem finish_eq_error_iff :
    (∃ error, matcher.finish now = .error error) ↔ matcher.overdue now ≠ [] := by
  unfold finish
  cases matcher.overdue now <;> simp

theorem mem_overdue : event ∈ matcher.overdue now ↔
    event ∈ matcher.pending ∧ matcher.due event + event.tolerance < now := by
  simp [overdue]

/-- **The state**: an alarm is false exactly when all that it reports are
resends of bursts that have not started. -/
theorem falseAlarm_iff (h : Tracks schedule.events matcher) (hr : Regular schedule) :
    matcher.FalseAlarm now ↔
      matcher.overdue now ≠ [] ∧ ∀ event ∈ matcher.overdue now, matcher.Awaits event := by
  rw [FalseAlarm, finish_eq_error_iff,
    h.completable_iff hr.numbered hr.chronological hr.led hr.tolerance]
  refine and_congr_right fun _ => ?_
  constructor
  · intro hopen event hevent
    obtain ⟨hpending, hclosed⟩ := mem_overdue.mp hevent
    by_contra hawaits
    have hwindow := hopen event hpending hawaits
    omega
  · intro hall event hevent hawaits
    by_contra hclosed
    exact hawaits (hall event (mem_overdue.mpr ⟨hevent, Int.not_le.mp hclosed⟩))

/-! ## Long delays -/

/-- The window of a resend closes no sooner than that of the first
notification of its burst, unless the delay is short. -/
theorem first_overdue (h : Tracks schedule.events matcher) (hr : Regular schedule)
    (hdelay : schedule.interval ≤ schedule.settings.resendDelay ∨
      schedule.settings.resolvedRetention ≤ schedule.settings.resendDelay)
    (hevent : event ∈ matcher.overdue now) (hresend : event.resend = true)
    (hfirst : first ∈ matcher.pending) (hleads : Leads first event) :
    first ∈ matcher.overdue now := by
  obtain ⟨hpending, hclosed⟩ := mem_overdue.mp hevent
  have hspaced := hr.spaced first ((h.mem_pending hr.numbered).mp hfirst).1 event
    ((h.mem_pending hr.numbered).mp hpending).1 hleads hresend
  have hapart := hspaced.apart
  have hwide := hspaced.first_tolerance
  have hretained := hspaced.retained
  have hpositive := schedule.resendDelay_pos
  rw [due, if_pos hresend, h.anchor_eq_zero hr.numbered hr.led hfirst hleads,
    hspaced.tolerance] at hclosed
  refine mem_overdue.mpr ⟨hfirst, ?_⟩
  rw [due, if_neg (by simp [hleads.1])]
  omega

/-- **Long delays**: what is reported is lost. -/
theorem lost_of_overdue (h : Tracks schedule.events matcher) (hr : Regular schedule)
    (hdelay : schedule.interval ≤ schedule.settings.resendDelay ∨
      schedule.settings.resolvedRetention ≤ schedule.settings.resendDelay)
    (hevent : event ∈ matcher.overdue now) : matcher.Lost now event := by
  obtain ⟨hpending, hclosed⟩ := mem_overdue.mp hevent
  by_cases hawaits : matcher.Awaits event
  · obtain ⟨hresend, first, hfirst, hleads⟩ := hawaits
    obtain ⟨-, hfirstClosed⟩ :=
      mem_overdue.mp (first_overdue h hr hdelay hevent hresend hfirst hleads)
    have hfirstOpen : ¬ matcher.Awaits first := fun hawaits =>
      Bool.false_ne_true (hleads.1.symm.trans hawaits.1)
    exact h.lost_of_leads hr.numbered hr.led hfirst hpending hleads hresend
      (h.lost_of_closed hr.numbered hfirst hfirstOpen hfirstClosed)
  · exact h.lost_of_closed hr.numbered hpending hawaits hclosed

/-! ## Short delays -/

/-- **Short delays**: nothing has arrived of a resolved burst, the window
of its first resend is over and that of its first notification is not. -/
theorem falseAlarm_of_resolved (hempty : schedule.events = []) (hresolved : burst.isResolved = true)
    (hresend : burst.start + schedule.settings.resendDelay < burst.stop schedule.settings)
    (hnew : Matcher.new (schedule.extend burst).events = .ok start)
    (hafter : schedule.zeroTime + burst.start + schedule.settings.resendDelay + schedule.interval <
      now)
    (hbefore : now ≤ schedule.zeroTime + burst.start + 2 * schedule.interval) :
    start.FalseAlarm now := by
  have hr : Regular (schedule.extend burst) :=
    (Regular.of_empty hempty).extend (by simp [Follows, hempty])
  have h := Tracks.new hnew
  have hpending : ∀ {event}, event ∈ start.pending ↔ event ∈ schedule.sends burst := by
    simp [h.mem_pending hr.numbered, taken, consumed_new hnew, extend, hempty]
  have hdue : ∀ event, start.due event = event.ts := by
    simp [due, anchor, h.anchors, consumed_new hnew, startDelays]
  have hone : schedule.send burst 1 ∈ schedule.sends burst := mem_sends.mpr ⟨1, by omega, rfl⟩
  have hzero := hpending.mpr (send_zero_mem hone)
  rw [falseAlarm_iff h hr]
  constructor
  · refine List.ne_nil_of_mem (mem_overdue.mpr ⟨hpending.mpr hone, ?_⟩)
    rw [hdue, send_ts, send_tolerance, if_neg (by simp)]
    omega
  · intro event hevent
    obtain ⟨hmem, hclosed⟩ := mem_overdue.mp hevent
    obtain ⟨k, -, rfl⟩ := mem_sends.mp (hpending.mp hmem)
    have hk : k ≠ 0 := by
      rintro rfl
      rw [hdue, send_ts, send_tolerance, if_pos ⟨hresolved, rfl⟩] at hclosed
      omega
    exact ⟨(send_resend k).mpr hk, _, hzero, by simp [← Bool.not_eq_true], by simp, by simp⟩

/-- An alert that resolves when the test starts and stays so. -/
def resolution : Burst := .resolved (Labels.ofList [("alertname", "A")]) .empty 0 0 none

/-- The schedule of that burst alone. -/
def resolutionOnly (interval : Int) (settings : Settings) (hinterval : 0 < interval)
    (hdelay : 0 < settings.resendDelay) : Schedule :=
  Schedule.extend
    { zeroTime := 0, interval, settings, interval_pos := hinterval, resendDelay_pos := hdelay }
    resolution

theorem built_resolutionOnly {interval : Int} {settings : Settings} (hinterval : 0 < interval)
    (hdelay : 0 < settings.resendDelay) :
    Built interval settings (resolutionOnly interval settings hinterval hdelay) := by
  have hnew : Schedule.new 0 interval settings =
      .ok ⟨0, interval, settings, [], 0, hinterval, hdelay⟩ := by
    simp [Schedule.new, hinterval, hdelay]
  exact @Built.step interval settings _ resolution (Built.new hnew) (by simp [Follows])

/-- With a short delay there is a schedule on which `finish` gives a false
alarm before anything has arrived. -/
theorem falseAlarm_resolutionOnly {interval : Int} {settings : Settings} (hinterval : 0 < interval)
    (hdelay : 0 < settings.resendDelay)
    (hretained : settings.resendDelay < settings.resolvedRetention)
    (hafter : settings.resendDelay + interval < now) (hbefore : now ≤ 2 * interval) :
    ∃ start, Matcher.new (resolutionOnly interval settings hinterval hdelay).events = .ok start ∧
      start.FalseAlarm now := by
  have hr := (built_resolutionOnly hinterval hdelay).regular
  obtain ⟨start, hnew⟩ := exists_new hr.numbered
  have hstart : resolution.start = 0 := rfl
  have hstop : resolution.stop settings = settings.resolvedRetention := by
    simp [resolution, Burst.stop]
  refine ⟨start, hnew, falseAlarm_of_resolved rfl rfl ?_ hnew ?_ ?_⟩
  · simp only [hstart, hstop]
    omega
  · simp only [hstart]
    omega
  · simp only [hstart]
    omega

/-- An engine that sends again every second, and a resolved alert twice. -/
def hasty : Settings := { resendDelay := second, resolvedRetention := 2 * second }

/-- Its rules are evaluated every ten seconds. -/
def hastySchedule : Schedule := resolutionOnly (10 * second) hasty (by decide) (by decide)

/-- The resend is reported missing after fifteen seconds, when both
notifications can still come. -/
theorem falseAlarm_hasty : Built (10 * second) hasty hastySchedule ∧
    hastySchedule.events.map (·.ts) = [0, second] ∧
    ∃ start, Matcher.new hastySchedule.events = .ok start ∧ start.FalseAlarm (15 * second) := by
  refine ⟨built_resolutionOnly (by decide) (by decide), by decide, ?_⟩
  exact falseAlarm_resolutionOnly (by decide) (by decide) (by decide) (by decide) (by decide)

/-! ## Both -/

/-- **False alarms**: an alarm of `finish` is false exactly when it reports
nothing but resends of bursts that have not started. On the schedules of
one interval and one choice of settings there is none exactly when the
delay is no shorter than the interval, or than the retention; then what is
reported is lost. -/
theorem finish_false_alarms {interval : Int} {settings : Settings} (hinterval : 0 < interval)
    (hdelay : 0 < settings.resendDelay) :
    (∀ schedule matcher now, Built interval settings schedule → Reaches schedule.events matcher →
      (matcher.FalseAlarm now ↔
        matcher.overdue now ≠ [] ∧ ∀ event ∈ matcher.overdue now, matcher.Awaits event)) ∧
    ((∀ schedule matcher now, Built interval settings schedule → Reaches schedule.events matcher →
        ¬ matcher.FalseAlarm now) ↔
      interval ≤ settings.resendDelay ∨ settings.resolvedRetention ≤ settings.resendDelay) ∧
    (interval ≤ settings.resendDelay ∨ settings.resolvedRetention ≤ settings.resendDelay →
      ∀ schedule matcher now, Built interval settings schedule → Reaches schedule.events matcher →
        ∀ event ∈ matcher.overdue now, matcher.Lost now event) := by
  have hlost : interval ≤ settings.resendDelay ∨ settings.resolvedRetention ≤ settings.resendDelay →
      ∀ schedule matcher now, Built interval settings schedule → Reaches schedule.events matcher →
        ∀ event ∈ matcher.overdue now, matcher.Lost now event := by
    intro hlong schedule matcher now hbuilt hreaches event hevent
    obtain ⟨rfl, rfl⟩ := hbuilt.configured
    exact lost_of_overdue hreaches.tracks hbuilt.regular hlong hevent
  refine ⟨?_, ⟨?_, ?_⟩, hlost⟩
  · intro schedule matcher now hbuilt hreaches
    exact falseAlarm_iff hreaches.tracks hbuilt.regular
  · intro hnone
    by_contra hshort
    obtain ⟨start, hnew, halarm⟩ := @falseAlarm_resolutionOnly
      (settings.resendDelay + interval + 1) interval settings hinterval hdelay (by omega) (by omega)
      (by omega)
    exact hnone _ start _ (built_resolutionOnly hinterval hdelay) ⟨start, [], hnew, rfl⟩ halarm
  · rintro hlong schedule matcher now hbuilt hreaches ⟨hfails, hcompletable⟩
    obtain ⟨event, hevent⟩ := List.exists_mem_of_ne_nil _ (finish_eq_error_iff.mp hfails)
    exact hreaches.tracks.not_completable_of_lost hbuilt.regular.numbered (mem_overdue.mp hevent).1
      (hlost hlong schedule matcher now hbuilt hreaches event hevent) hcompletable

/-- With the usual settings and an evaluation every minute, no alarm is
false while the fifteen notifications of a resolved alert come in. -/
theorem finish_false_alarms_usual : ∃ schedule, Built minute {} schedule ∧
    schedule.events.length = 15 ∧
    ∀ matcher now, Reaches schedule.events matcher → ¬ matcher.FalseAlarm now := by
  have hbuilt : Built minute {} (resolutionOnly minute {} (by decide) (by decide)) :=
    built_resolutionOnly (by decide) (by decide)
  obtain ⟨-, hnone, -⟩ := @finish_false_alarms minute {} (by decide) (by decide)
  exact ⟨_, hbuilt, by decide, fun matcher now => hnone.mpr (.inl (by decide)) _ matcher now hbuilt⟩

end AlertConformance.Matcher
