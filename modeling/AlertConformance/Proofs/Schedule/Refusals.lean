/-
AlertConformance.Proofs.Schedule.Refusals — a refused burst leaves no trace.

A burst that makes no sense adds no notification, but a resolved one uses
up its number, so the bursts after it are numbered differently than if it
had never been there. This is all: the schedule with the refused bursts is
the schedule without them under other numbers, which grow in the same
order, and a matcher tells nobody the numbers of bursts.

* `Renumbers` — one schedule is another one under other numbers.
* `Renumbers.extend`, `Renumbers.refuse` — one burst, taken or refused.
* `Renumbers.after` — any sequence of bursts, with and without the refused.
* `Corresponds` — the same call on matchers for two schedules.
* `refusals_unobservable` — what is built, and what a matcher for it tells.
-/
import AlertConformance.Proofs.Matcher.Renumbering
import AlertConformance.Proofs.Schedule.Rows

namespace AlertConformance

namespace Schedule

variable {clean full : Schedule} {number : Int → Int} {interval : Int} {settings : Settings}

/-! ## Schedules under other numbers -/

/-- A schedule is another one under other numbers: `number` tells those of
the bursts so far, and of the later ones, which go on from there. -/
structure Renumbers (number : Int → Int) (clean full : Schedule) : Prop where
  zeroTime : full.zeroTime = clean.zeroTime
  interval : full.interval = clean.interval
  settings : full.settings = clean.settings
  events : full.events = clean.events.map (ScheduledNotification.renumbered number)
  increasing : ∀ a b : Int, a < b → number a < number b
  later : ∀ n : Int, clean.bursts < n → number n = n + (full.bursts - clean.bursts)
  counted : ∀ event ∈ clean.events, event.burst ≤ clean.bursts

theorem Renumbers.refl (h : clean.events = []) : Renumbers id clean clean where
  zeroTime := rfl
  interval := rfl
  settings := rfl
  events := by rw [h, List.map_nil]
  increasing _ _ hlt := hlt
  later n _ := by rw [Int.sub_self, Int.add_zero, id]
  counted := by simp [h]

/-- Numbers that increase tell bursts apart. -/
theorem Renumbers.injective (h : Renumbers number clean full) : number.Injective := by
  intro a b hab
  rcases Int.lt_trichotomy a b with hlt | heq | hgt
  · have hnumber := h.increasing a b hlt
    omega
  · exact heq
  · have hnumber := h.increasing b a hgt
    omega

/-! ## One burst -/

theorem Renumbers.send (h : Renumbers number clean full) (burst : Burst) (k : Nat) :
    full.send burst k = (clean.send burst k).renumbered number := by
  have hburst : number (clean.bursts + 1) = full.bursts + 1 := by
    rw [h.later _ (Int.lt_succ _)]
    omega
  have hlength : full.events.length = clean.events.length := by rw [h.events, List.length_map]
  have hdelta : full.endsAtDelta = clean.endsAtDelta := by
    rw [endsAtDelta, endsAtDelta, h.settings, h.interval]
  cases burst with
  | firing =>
    simp only [Schedule.send, event, ScheduledNotification.renumbered, h.zeroTime, h.interval,
      h.settings, hdelta, hlength, hburst]
  | resolved =>
    simp only [Schedule.send, event, ScheduledNotification.renumbered, h.zeroTime, h.interval,
      h.settings, hdelta, hlength, hburst]

/-- **A burst that is taken** has the next number on both sides. -/
theorem Renumbers.extend (h : Renumbers number clean full) (burst : Burst) :
    Renumbers number (clean.extend burst) (full.extend burst) where
  zeroTime := h.zeroTime
  interval := h.interval
  settings := h.settings
  events := by
    have hsends : full.sends burst =
        (clean.sends burst).map (ScheduledNotification.renumbered number) := by
      rw [sends_eq, sends_eq, h.settings, List.map_map]
      exact List.map_congr_left fun k _ => h.send burst k
    simp only [Schedule.extend, h.events, hsends, List.map_append]
  increasing := h.increasing
  later n hn := by
    simp only [Schedule.extend, Int.natCast_add] at hn ⊢
    rw [h.later n (by omega)]
    omega
  counted := by
    intro event hevent
    simp only [Schedule.extend, Int.natCast_add]
    rcases List.mem_append.mp hevent with hold | hsend
    · have hcount := h.counted event hold
      omega
    · obtain ⟨k, -, rfl⟩ := mem_sends.mp hsend
      rw [send_burst]
      omega

/-- Numbers that skip some after a point. -/
def skipping (number : Int → Int) (point : Int) (skipped : Nat) (n : Int) : Int :=
  if n ≤ point then number n else number n + skipped

theorem skipping_lt (h : ∀ a b : Int, a < b → number a < number b) (point : Int)
    (skipped : Nat) {a b : Int} (hab : a < b) :
    skipping number point skipped a < skipping number point skipped b := by
  have hlt := h a b hab
  simp only [skipping]
  split <;> split <;> omega

/-- **A burst that is refused** moves the later numbers on one side at
most; the notifications so far keep theirs. -/
theorem Renumbers.refuse (h : Renumbers number clean full) (burst : Burst) :
    ∃ number, Renumbers number clean (full.refuse burst) := by
  obtain ⟨bursts, hle, hrefuse⟩ := full.refuse_eq burst
  rw [hrefuse]
  refine ⟨skipping number clean.bursts (bursts - full.bursts), h.zeroTime, h.interval, h.settings,
    ?_, fun _ _ => skipping_lt h.increasing _ _, fun n hn => ?_, h.counted⟩
  · rw [h.events]
    refine List.map_congr_left fun event hevent => ?_
    rw [ScheduledNotification.renumbered, ScheduledNotification.renumbered, skipping,
      if_pos (h.counted event hevent)]
  · rw [skipping, if_neg (Int.not_le.mpr hn), h.later n hn]
    simp only [Int.natCast_sub hle]
    omega

/-! ## Any sequence of bursts -/

/-- **All bursts**: with those that are refused the schedule is the one
without them, under other numbers. -/
theorem Renumbers.after (h : Renumbers number clean full) (bursts : List Burst) :
    ∃ number, Renumbers number
      (clean.after (bursts.filter fun burst => burst.MakesSense)) (full.after bursts) := by
  induction bursts generalizing clean full number with
  | nil => exact ⟨number, h⟩
  | cons burst rest ih =>
    rcases full.step_cases burst with ⟨hsense, hstep⟩ | ⟨hsense, fault, hstep⟩
    · have hclean : clean.step burst = (clean.extend burst, none) :=
        step_eq (Burst.fault?_eq_none_iff.mpr hsense)
      rw [List.filter_cons_of_pos (by simpa using hsense), Schedule.after, Schedule.after, hstep,
        hclean]
      exact ih (h.extend burst)
    · obtain ⟨number, hrefused⟩ := h.refuse burst
      rw [List.filter_cons_of_neg (by simpa using hsense), Schedule.after, hstep]
      exact ih hrefused

end Schedule

/-! ## What a matcher tells -/

namespace Matcher

variable {number : Int → Int} {expected expected' : List ScheduledNotification}
  {call call' : Call} {calls calls' : List Call}

/-- The same call on matchers for two schedules. A notification of the one
stands for the notification in its place of the other. -/
inductive Call.Corresponds (expected expected' : List ScheduledNotification) :
    Call → Call → Prop where
  | observe (arrival : Notification) :
    Corresponds expected expected' (.observe arrival) (.observe arrival)
  | finish (now : Int) : Corresponds expected expected' (.finish now) (.finish now)
  | pending : Corresponds expected expected' .pending .pending
  | due {event event' : ScheduledNotification} : (event, event') ∈ expected.zip expected' →
    Corresponds expected expected' (.due event) (.due event')

/-- Matchers can be had for two schedules and cannot be told apart: in
every sequence of calls each one fails on both or tells the same on both,
and both are complete or neither is. -/
def Indistinguishable (expected expected' : List ScheduledNotification) : Prop :=
  ∃ start start', Matcher.new expected = .ok start ∧ Matcher.new expected' = .ok start' ∧
    ∀ calls calls', List.Forall₂ (Call.Corresponds expected expected') calls calls' →
      List.Forall₂ (fun entry entry' => Agree entry.2 entry'.2) (start.log calls)
        (start'.log calls') ∧
      (start.after calls).complete = (start'.after calls').complete

theorem Call.Corresponds.eq_renumbered
    (h : Corresponds expected (expected.map (ScheduledNotification.renumbered number)) call call') :
    call' = call.renumbered number := by
  cases h with
  | due hmem =>
    have hzip : expected.zip (expected.map (ScheduledNotification.renumbered number)) =
        expected.map fun event => (event, event.renumbered number) := by
      simpa using List.zip_map' (f := id) (g := ScheduledNotification.renumbered number)
        (l := expected)
    rw [hzip] at hmem
    obtain ⟨event, -, heq⟩ := List.mem_map.mp hmem
    obtain ⟨rfl, rfl⟩ := Prod.mk.inj heq
    rfl
  | _ => rfl

theorem eq_renumbered_of_corresponds
    (h : List.Forall₂
      (Call.Corresponds expected (expected.map (ScheduledNotification.renumbered number)))
      calls calls') : calls' = calls.map (Call.renumbered number) := by
  induction h with
  | nil => rfl
  | cons hcall _ ih => rw [List.map_cons, hcall.eq_renumbered, ih]

/-- A schedule cannot be told from itself under other numbers. -/
theorem indistinguishable_renumbered (hn : Numbered expected) (hnumber : number.Injective) :
    Indistinguishable expected (expected.map (ScheduledNotification.renumbered number)) := by
  obtain ⟨start, hnew⟩ := exists_new hn
  obtain ⟨start', hnew'⟩ := exists_new (hn.renumbered number)
  refine ⟨start, start', hnew, hnew', fun calls calls' hcalls => ?_⟩
  rw [eq_renumbered_of_corresponds hcalls]
  obtain ⟨hlog, hlast⟩ := (Twins.new hnew hnew').run hnumber hn calls
  exact ⟨hlog, hlast.complete.symm⟩

end Matcher

namespace Schedule

variable {empty : Schedule} {zeroTime interval : Int} {settings : Settings}

/-- **Refusals** cannot be observed: with the refused bursts of a sequence
or without them, the same is built but for the numbers of bursts, and
matchers for the two schedules cannot be told apart. -/
theorem refusals_unobservable (hnew : Schedule.new zeroTime interval settings = .ok empty)
    (bursts : List Burst) :
    List.Forall₂ ScheduledNotification.EqualButBurst (empty.after (empty.accepted bursts)).events
      (empty.after bursts).events ∧
    Matcher.Indistinguishable (empty.after (empty.accepted bursts)).events
      (empty.after bursts).events := by
  have hempty : empty.events = [] := (new_eq hnew).1
  have hcounted : empty.Counted := by simp [Counted, hempty]
  obtain ⟨number, h⟩ := (Renumbers.refl hempty).after bursts
  rw [accepted_eq, h.events]
  exact ⟨equalButBurst_map_renumbered number _,
    Matcher.indistinguishable_renumbered (hcounted.after _).numbered h.injective⟩

/-- An alert that fires after a burst was refused. -/
def refusedFirst : List Burst := [
  .resolved .empty .empty 0 0 (some 0),
  .firing .empty .empty 0 (2 * minute) none]

/-- The numbers of its two notifications show that a burst was refused.
Matchers do not: when they have observed the same arrival, they agree on
when each notification is due. -/
theorem refusals_unobservable_refusedFirst : ∃ empty, Schedule.new 0 (10 * second) {} = .ok empty ∧
    (empty.after refusedFirst).events.map (·.burst) = [2, 2] ∧
    (empty.after (empty.accepted refusedFirst)).events.map (·.burst) = [1, 1] ∧
    ∃ start start',
      Matcher.new (empty.after (empty.accepted refusedFirst)).events = .ok start ∧
      Matcher.new (empty.after refusedFirst).events = .ok start' ∧
      ∀ arrival, ∀ pair ∈ (empty.after (empty.accepted refusedFirst)).events.zip
          (empty.after refusedFirst).events,
        List.Forall₂ (fun entry entry' => Matcher.Agree entry.2 entry'.2)
          (start.log [.observe arrival, .due pair.1])
          (start'.log [.observe arrival, .due pair.2]) := by
  have hnew : Schedule.new 0 (10 * second) {} =
      .ok ⟨0, 10 * second, {}, [], 0, by decide, by decide⟩ := rfl
  obtain ⟨-, start, start', hstart, hstart', hsame⟩ := refusals_unobservable hnew refusedFirst
  refine ⟨_, hnew, by decide, by decide, start, start', hstart, hstart', ?_⟩
  intro arrival pair hpair
  exact (hsame _ _ (.cons (.observe arrival) (.cons (.due hpair) .nil))).1

end Schedule

end AlertConformance
