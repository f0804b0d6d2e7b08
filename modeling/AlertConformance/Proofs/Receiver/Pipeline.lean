/-
AlertConformance.Proofs.Receiver.Pipeline — from a schedule through the
receiver to the matcher.

An engine without any delay sends what a schedule has, in order of
sending, and writes no status. A receiver that gets these alerts when they
are due, in payloads of any size and form, hands out what the schedule
has, and a matcher for the schedule is complete after it. The end of a
notification has to tell whether its alert resolved, and it does: a firing
one expires after it was sent, and a resolved one ended before or then.

* `Payload.Carries` — the two forms of a payload.
* `Receiver.Records` — calls that record a stream, payload after payload.
* `Receiver.Records.arrivals` — they bring what the stream says.
* `Schedule.send_evident` — what the end of a scheduled notification tells.
* `Schedule.Built.stream_recorded` — the whole way.
-/
import AlertConformance.Proofs.Receiver.Run
import AlertConformance.Proofs.Receiver.Written

namespace AlertConformance

/-! ## Payloads -/

/-- A payload is a list of alerts, or an envelope with one. -/
inductive Payload.Carries : Json → List Json → Prop where
  | bare (alerts : List Json) : Carries (.array alerts) alerts
  | envelope {members : List (Text × Json)} {alerts : List Json} :
    Json.member "alerts" members = .array alerts → Carries (.object members) alerts

theorem Payload.carries_iff {payload : Json} {alerts : List Json} :
    Carries payload alerts ↔ alertList? payload = some alerts := by
  constructor
  · rintro (_ | hmember)
    · rfl
    · simp only [alertList?, hmember]
  · intro h
    cases payload with
    | array entries =>
      obtain rfl := Option.some.inj h
      exact .bare entries
    | object members =>
      simp only [alertList?] at h
      split at h
      case h_1 entries hmember =>
        obtain rfl := Option.some.inj h
        exact .envelope hmember
      case h_2 => cases h
    | _ => cases h

/-- Written notifications that arrive together are read as what they
say. -/
theorem Payload.Carries.exists_notifications [NestingLimits] {payload : Json} {receivedAt : Int}
    {batch : List Notification} {objects : List (List (Text × Json))}
    (h : Carries payload (objects.map .object))
    (hwritten : List.Forall₂ Notification.WrittenAs batch objects)
    (hreadable : ∀ notification ∈ batch, notification.receivedAt = receivedAt ∧
      notification.labels.isEmpty = false ∧ notification.Evident) :
    ∃ arrived, notifications receivedAt payload = .ok arrived ∧
      List.Forall₂ Notification.Same batch arrived := by
  simp only [notifications, carries_iff.mp h]
  clear h
  induction hwritten with
  | nil => exact ⟨[], rfl, .nil⟩
  | @cons notification members batch objects hfirst _ ih =>
    obtain ⟨⟨htime, hlabels, hevident⟩, hrest⟩ := List.forall_mem_cons.mp hreadable
    obtain ⟨read, hread, hsame⟩ := hfirst.read hlabels hevident
    obtain ⟨arrived, harrived, hall⟩ := ih hrest
    rw [htime] at hread
    refine ⟨read :: arrived, mapM_eq_ok_iff.mpr (.cons hread ?_), .cons hsame hall⟩
    exact mapM_eq_ok_iff.mp harrived

/-! ## Recording a stream -/

namespace Receiver

variable [NestingLimits]

/-- Calls that record a stream in order: each payload has notifications
that arrive together, and `consume` may be called at any time. -/
inductive Records : List Notification → List Call → Prop where
  | done : Records [] []
  | consume {stream : List Notification} {calls : List Call} :
    Records stream calls → Records stream (.consume :: calls)
  | record {receivedAt : Int} {payload : Json} {batch stream : List Notification}
      {objects : List (List (Text × Json))} {calls : List Call} :
    (∀ notification ∈ batch, notification.receivedAt = receivedAt) →
    List.Forall₂ Notification.WrittenAs batch objects →
    Payload.Carries payload (objects.map .object) →
    Records stream calls → Records (batch ++ stream) (.record receivedAt payload :: calls)

variable {stream : List Notification} {calls : List Call}

/-- **Recording**: no call fails, and together they bring what the stream
says. -/
theorem Records.arrivals (h : Records stream calls)
    (hreadable : ∀ notification ∈ stream,
      notification.labels.isEmpty = false ∧ notification.Evident) :
    (∀ receiver : Receiver, ∀ result ∈ receiver.answers calls, ∃ answer, result = .ok answer) ∧
      List.Forall₂ Notification.Same stream (calls.flatMap Call.arrivals) := by
  induction h with
  | done => exact ⟨fun receiver => by simp [answers], .nil⟩
  | consume _ ih =>
    obtain ⟨hok, hsame⟩ := ih hreadable
    refine ⟨fun receiver => ?_, hsame⟩
    exact List.forall_mem_cons.mpr ⟨⟨_, rfl⟩, hok _⟩
  | record htime hwritten hcarries _ ih =>
    obtain ⟨hbatch, hrest⟩ := List.forall_mem_append.mp hreadable
    obtain ⟨hok, hsame⟩ := ih hrest
    obtain ⟨arrived, harrived, hall⟩ := hcarries.exists_notifications hwritten
      fun notification hmem => ⟨htime notification hmem, hbatch notification hmem⟩
    constructor
    · intro receiver
      refine List.forall_mem_cons.mpr ⟨⟨.recorded arrived, ?_⟩, hok _⟩
      simp only [call, record_eq_ok harrived]
    · simp only [List.flatMap_cons, Call.arrivals, harrived, Except.toOption, Option.getD_some]
      exact List.rel_append hall hsame

end Receiver

/-! ## What the end of a notification tells -/

namespace Schedule

variable {schedule : Schedule}

theorem endsAtDelta_pos (h : 1 ≤ schedule.settings.endsAtMultiplier) :
    0 < schedule.endsAtDelta := by
  have hlongest : 0 < max schedule.settings.resendDelay schedule.interval := by
    have hinterval := schedule.interval_pos
    omega
  exact Int.mul_pos (by omega) hlongest

/-- A firing notification expires after it was sent, and a resolved one is
not sent before its alert resolved. -/
theorem send_evident (h : 1 ≤ schedule.settings.endsAtMultiplier) (burst : Burst) (k : Nat) :
    (schedule.send burst k).ideal.Evident := by
  cases burst with
  | firing labels annotations start stop startsAt =>
    have hdelta := endsAtDelta_pos h
    simp only [Notification.Evident, ScheduledNotification.ideal, send, event, Bool.false_eq_true,
      if_false, Payload.isResolved, Option.map_some, Option.getD_some, decide_eq_false_iff_not]
    omega
  | resolved labels annotations startsAt start nextState =>
    have hpast : 0 ≤ k * schedule.settings.resendDelay :=
      Int.mul_nonneg (Int.natCast_nonneg k) (Int.le_of_lt schedule.resendDelay_pos)
    simp only [Notification.Evident, ScheduledNotification.ideal, send, event, if_true,
      Payload.isResolved, Option.map_some, Option.getD_some, decide_eq_true_eq, Burst.start]
    omega

variable {interval : Int} {settings : Settings}

theorem Built.ideal_evident (hbuilt : Built interval settings schedule)
    (h : 1 ≤ settings.endsAtMultiplier) {event : ScheduledNotification}
    (hevent : event ∈ schedule.events) : event.ideal.Evident := by
  obtain ⟨earlier, burst, k, hearlier, rfl⟩ := hbuilt.exists_send hevent
  refine send_evident ?_ burst k
  rwa [hearlier.configured.2]

/-- **The whole way**: what a schedule has is recorded without fail, comes
out of the receiver as it is, and completes a matcher for the schedule. -/
theorem Built.stream_recorded [NestingLimits] {calls : List Receiver.Call}
    (hbuilt : Built interval settings schedule) (hmultiplier : 1 ≤ settings.endsAtMultiplier)
    (hlabels : ∀ event ∈ schedule.events, event.labels.isEmpty = false)
    (hrecords : Receiver.Records (idealStream schedule.events) calls) :
    (∀ result ∈ ({} : Receiver).answers calls, ∃ answer, result = .ok answer) ∧
      List.Forall₂ Notification.Same (idealStream schedule.events) (Receiver.handedOut calls) ∧
      ∃ start last, Matcher.new schedule.events = .ok start ∧
        TestCase.deliver start (Receiver.handedOut calls) = .ok last ∧
        last.complete = true ∧ last.pending = [] := by
  have hreadable : ∀ notification ∈ idealStream schedule.events,
      notification.labels.isEmpty = false ∧ notification.Evident := by
    intro notification hmem
    obtain ⟨event, hsorted, rfl⟩ := List.mem_map.mp hmem
    have hevent := (List.mergeSort_perm _ _).mem_iff.mp hsorted
    exact ⟨hlabels event hevent, hbuilt.ideal_evident hmultiplier hevent⟩
  obtain ⟨hok, hsame⟩ := hrecords.arrivals hreadable
  rw [← Receiver.handedOut_eq] at hsame
  obtain ⟨start, last, hnew, hdeliver, hcomplete, hpending, -⟩ := hbuilt.regular.replays hsame
  exact ⟨hok _, hsame, start, last, hnew, hdeliver, hcomplete, hpending⟩

/-! ## Two alerts -/

/-- An engine that sends a resolved notification once. -/
def brief : Settings := { resolvedRetention := 1 * minute }

def twinLabels (name : String) : Labels := .ofList [("alertname", name)]

def twinAnnotations : Labels := .ofList [("summary", "two alerts")]

/-- Two alerts that fire together. When the second one is sent again, the
first one has resolved. -/
def twinBursts : List Burst := [
  .firing (twinLabels "A") twinAnnotations 0 minute none,
  .firing (twinLabels "B") twinAnnotations 0 (2 * minute) none,
  .resolved (twinLabels "A") twinAnnotations 0 minute none]

def twinSchedule : Schedule :=
  twinBursts.foldl extend
    { zeroTime := 0, interval := minute, settings := brief, interval_pos := by decide,
      resendDelay_pos := by decide }

theorem built_twinSchedule : Built minute brief twinSchedule := by
  have hnew : Schedule.new 0 minute brief =
      .ok ⟨0, minute, brief, [], 0, by decide, by decide⟩ := by
    simp [Schedule.new, minute, second, brief]
  refine Built.extend (Built.extend (Built.extend (.new hnew) rfl ?_) rfl ?_) rfl ?_
  -- every burst starts when all notifications before it have been sent
  · simp [Follows]
  · exact follows_of_sent (by decide)
  · exact follows_of_sent (by decide)

/-- A notification of one of the two. -/
def twin (name : String) (endsAt : Int) (resolved : Bool) (receivedAt : Int) : Notification where
  labels := twinLabels name
  annotations := twinAnnotations
  startsAt := 0
  endsAt := some endsAt
  resolved := resolved
  receivedAt := receivedAt

def twinStream : List Notification := [
  twin "A" 240000 false 0, twin "B" 240000 false 0, twin "B" 300000 false 60000,
  twin "A" 60000 true 60000]

theorem idealStream_twinSchedule : idealStream twinSchedule.events = twinStream := by
  rw [idealStream, List.mergeSort_of_pairwise (by decide)]
  rfl

/-- The alert of one of the two, with the end of its notification. -/
def twinAlert (name : String) (endsAt : String) : List (Text × Json) := [
  ("labels", (twinLabels name).toJson),
  ("annotations", twinAnnotations.toJson),
  ("startsAt", .text "1970-01-01T00:00:00Z"),
  ("endsAt", .text endsAt)]

theorem twin_writtenAs {name written : String} {endsAt receivedAt : Int} {resolved : Bool}
    (h : Timestamp.ofText? written = some endsAt)
    (hset : ¬ ((written : Text) = "" ∨ (written : Text) = Timestamp.unset)) :
    (twin name endsAt resolved receivedAt).WrittenAs (twinAlert name written) := by
  have hstart : Payload.timestamp (.text "1970-01-01T00:00:00Z") = .ok (some 0) :=
    Payload.timestamp_text (by decide +kernel) (by decide +kernel)
  exact Notification.writtenAs_toMembers hstart (Payload.timestamp_text h hset)

/-- The alerts in three payloads, the first two of them together. -/
def twinCalls : List Receiver.Call := [
  .record 0 (.array [.object (twinAlert "A" "1970-01-01T00:04:00Z"),
    .object (twinAlert "B" "1970-01-01T02:04:00.000+02:00")]),
  .consume,
  .record 60000 (.object [("alerts", .array [.object (twinAlert "B" "1970-01-01T00:05:00Z")])]),
  .record 60000 (.array [.object (twinAlert "A" "1970-01-01T00:01:00Z")])]

theorem records_twinCalls : Receiver.Records twinStream twinCalls := by
  have hfirst : (twin "A" 240000 false 0).WrittenAs (twinAlert "A" "1970-01-01T00:04:00Z") :=
    twin_writtenAs (by decide +kernel) (by decide +kernel)
  have hsecond : (twin "B" 240000 false 0).WrittenAs
      (twinAlert "B" "1970-01-01T02:04:00.000+02:00") :=
    twin_writtenAs (by decide +kernel) (by decide +kernel)
  have hresend : (twin "B" 300000 false 60000).WrittenAs (twinAlert "B" "1970-01-01T00:05:00Z") :=
    twin_writtenAs (by decide +kernel) (by decide +kernel)
  have hresolved : (twin "A" 60000 true 60000).WrittenAs (twinAlert "A" "1970-01-01T00:01:00Z") :=
    twin_writtenAs (by decide +kernel) (by decide +kernel)
  show Receiver.Records
    ([twin "A" 240000 false 0, twin "B" 240000 false 0] ++
      ([twin "B" 300000 false 60000] ++ ([twin "A" 60000 true 60000] ++ []))) twinCalls
  refine .record (by simp [twin]) (.cons hfirst (.cons hsecond .nil)) (.bare _) ?_
  refine .consume (.record (by simp [twin]) (.cons hresend .nil) (.envelope ?_) ?_)
  · simp
  · exact .record (by simp [twin]) (.cons hresolved .nil) (.bare _) .done

/-- The two alerts are recorded while they are consumed, and their four
notifications complete the matcher. -/
theorem stream_recorded_twins :
    Built minute brief twinSchedule ∧ Receiver.Records (idealStream twinSchedule.events) twinCalls ∧
    List.Forall₂ Notification.Same twinStream (Receiver.handedOut twinCalls) ∧
    ∃ start last, Matcher.new twinSchedule.events = .ok start ∧
      TestCase.deliver start (Receiver.handedOut twinCalls) = .ok last ∧
      last.complete = true ∧ last.pending = [] := by
  have hrecords : Receiver.Records (idealStream twinSchedule.events) twinCalls := by
    rw [idealStream_twinSchedule]
    exact records_twinCalls
  obtain ⟨-, hsame, hcompleted⟩ :=
    built_twinSchedule.stream_recorded (by decide) (by decide) hrecords
  rw [idealStream_twinSchedule] at hsame
  exact ⟨built_twinSchedule, hrecords, hsame, hcompleted⟩

end Schedule

end AlertConformance
