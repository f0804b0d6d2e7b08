/-
AlertConformance.Proofs.Schedule.Sequence — bursts that can be scheduled
one after another.

A list of bursts becomes a schedule when each of them makes sense. When,
moreover, a burst starts no earlier than those before it are over for the
same alert, it follows everything that was sent, and the schedule is a
built one.

* `Burst.episode` — an alert that fires and then resolves.
* `InSequence` — the condition on a list of bursts.
* `Follows.extend` — one more burst leaves room for the later ones.
* `InSequence.exists_built` — there is a schedule of all of them.
-/
import AlertConformance.Proofs.Checked
import AlertConformance.Proofs.Schedule.Built

namespace AlertConformance

/-- An episode of an alert: it fires and then becomes inactive, perhaps
until it becomes active again. -/
def Burst.episode (labels annotations : Labels) (fires inactive : Int) (next : Option Int) :
    List Burst := [
  .firing labels annotations fires inactive none,
  .resolved labels annotations fires inactive next]

namespace Schedule

/-- Bursts that make sense and, for one alert, come one after another. -/
structure InSequence (settings : Settings) (bursts : List Burst) : Prop where
  sound : ∀ burst ∈ bursts, burst.fault? = none
  apart : bursts.Pairwise fun earlier later =>
    earlier.labels.key = later.labels.key → earlier.stop settings ≤ later.start

variable {schedule : Schedule} {settings : Settings} {burst later : Burst} {bursts : List Burst}
  {interval : Int}

/-! ## One burst -/

theorem add_eq_ok (h : burst.fault? = none) : schedule.add burst = .ok (schedule.extend burst) := by
  simp only [add, step_eq h]

/-- A burst that starts when another one is over follows its
notifications too. -/
theorem Follows.extend (hfollows : schedule.Follows later)
    (hover : burst.labels.key = later.labels.key →
      burst.stop schedule.settings ≤ later.start) :
    (schedule.extend burst).Follows later := by
  intro event hevent hkey
  show event.ts ≤ schedule.zeroTime + later.start
  rcases List.mem_append.mp hevent with hold | hsend
  · exact hfollows event hold hkey
  · obtain ⟨k, hbefore, rfl⟩ := mem_sends.mp hsend
    rw [send_key] at hkey
    have hstop := hover hkey
    rw [send_ts]
    omega

/-! ## All bursts -/

/-- **All bursts**: a built schedule that they follow grows into one with
all of them. -/
theorem InSequence.exists_extended (h : InSequence settings bursts)
    (hbuilt : Built interval settings schedule)
    (hfollows : ∀ burst ∈ bursts, schedule.Follows burst) :
    ∃ next, bursts.foldlM Schedule.add schedule = .ok next ∧ Built interval settings next := by
  induction bursts generalizing schedule with
  | nil => exact ⟨schedule, rfl, hbuilt⟩
  | cons burst rest ih =>
    have hsound := h.sound burst List.mem_cons_self
    obtain ⟨hover, hapart⟩ := List.pairwise_cons.mp h.apart
    have hnext := hbuilt.extend hsound (hfollows burst List.mem_cons_self)
    have hrest : ∀ later ∈ rest, (schedule.extend burst).Follows later := by
      intro later hlater
      refine (hfollows later (List.mem_cons_of_mem _ hlater)).extend fun hkey => ?_
      rw [hbuilt.configured.2]
      exact hover later hlater hkey
    obtain ⟨next, hfold, hfinal⟩ :=
      ih ⟨fun other hmem => h.sound other (List.mem_cons_of_mem _ hmem), hapart⟩ hnext hrest
    refine ⟨next, ?_, hfinal⟩
    rw [List.foldlM_cons, add_eq_ok hsound]
    exact hfold

/-- Bursts in sequence are scheduled from the start. -/
theorem InSequence.exists_built (h : InSequence settings bursts) (hinterval : 0 < interval)
    (hdelay : 0 < settings.resendDelay) (zeroTime : Int) :
    ∃ empty schedule, Schedule.new zeroTime interval settings = .ok empty ∧
      bursts.foldlM Schedule.add empty = .ok schedule ∧ Built interval settings schedule := by
  obtain ⟨empty, hnew⟩ : ∃ empty, Schedule.new zeroTime interval settings = .ok empty := by
    unfold Schedule.new
    rw [dif_pos hinterval, dif_pos hdelay]
    exact ⟨_, rfl⟩
  obtain ⟨schedule, hfold, hbuilt⟩ := h.exists_extended (.new hnew) fun burst _ event hevent => by
    simp [(new_eq hnew).1] at hevent
  exact ⟨empty, schedule, hnew, hfold, hbuilt⟩

/-! ## Episodes -/

/-- The bursts of an episode are in sequence. -/
theorem inSequence_episode (labels annotations : Labels) {fires inactive : Int}
    {next : Option Int} (hfires : fires < inactive) (hnext : ∀ again ∈ next, inactive < again) :
    InSequence settings (Burst.episode labels annotations fires inactive next) := by
  constructor
  case sound =>
    intro burst hmem
    simp only [Burst.episode, List.mem_cons, List.not_mem_nil, or_false] at hmem
    rcases hmem with rfl | rfl
    · exact if_neg (Int.not_le.mpr hfires)
    · cases next with
      | none => rfl
      | some again => exact if_neg (Int.not_le.mpr (hnext again rfl))
  case apart => simp [Burst.episode, Burst.stop, Burst.start]

/-- Lists in sequence can be joined when no burst of the first one goes on
after a later one of the same alert starts. -/
theorem InSequence.append {others : List Burst} (h : InSequence settings bursts)
    (hothers : InSequence settings others)
    (hover : ∀ earlier ∈ bursts, ∀ later ∈ others,
      earlier.labels.key = later.labels.key → earlier.stop settings ≤ later.start) :
    InSequence settings (bursts ++ others) where
  sound burst hmem := (List.mem_append.mp hmem).elim (h.sound burst) (hothers.sound burst)
  apart := List.pairwise_append.mpr ⟨h.apart, hothers.apart, hover⟩

theorem labels_of_mem_episode {labels annotations : Labels} {fires inactive : Int}
    {next : Option Int} (h : burst ∈ Burst.episode labels annotations fires inactive next) :
    burst.labels = labels := by
  simp only [Burst.episode, List.mem_cons, List.not_mem_nil, or_false] at h
  rcases h with rfl | rfl
  · rfl
  · rfl

/-- An episode can be put after bursts of other alerts. -/
theorem InSequence.append_episode (h : InSequence settings bursts) {labels annotations : Labels}
    {fires inactive : Int} (hfires : fires < inactive)
    (hothers : ∀ burst ∈ bursts, burst.labels.key ≠ labels.key) :
    InSequence settings (bursts ++ Burst.episode labels annotations fires inactive none) := by
  refine h.append (inSequence_episode labels annotations hfires (by simp)) ?_
  intro earlier hearlier later hlater hkey
  rw [labels_of_mem_episode hlater] at hkey
  exact absurd hkey (hothers earlier hearlier)

/-- An alert that becomes active again has its episodes in sequence. -/
theorem inSequence_episodes (labels annotations : Labels) {fires inactive again last : Int}
    (hfires : fires < inactive) (hpause : inactive < again) (hlast : again < last) :
    InSequence settings (Burst.episode labels annotations fires inactive (some again) ++
      Burst.episode labels annotations again last none) := by
  refine (inSequence_episode labels annotations hfires ?_).append
    (inSequence_episode labels annotations hlast (by simp)) ?_
  · intro time htime
    rwa [← Option.some.inj htime]
  · intro earlier hearlier later hlater _
    simp only [Burst.episode, List.mem_cons, List.not_mem_nil, or_false] at hearlier hlater
    -- the first episode is over when the alert becomes active again
    have hstop : earlier.stop settings ≤ again := by
      rcases hearlier with rfl | rfl
      · exact Int.le_of_lt hpause
      · exact Int.min_le_right _ _
    have hstart : again ≤ later.start := by
      rcases hlater with rfl | rfl
      · exact Int.le_refl _
      · exact Int.le_of_lt hlast
    exact Int.le_trans hstop hstart

end Schedule

end AlertConformance
