/-
AlertConformance.Proofs.Receiver.Intake — all of a payload or nothing.

A payload is understood when it is a list of alerts, bare or in an
envelope, and each of them has labels, a start and otherwise nothing that
is unreadable. An understood payload brings one notification for each of
its alerts, in order and with the time of its arrival. Any other one
brings none, wherever in the list its fault is; when it is recorded, the
fault is all that the caller hears of it. A payload that has no text may
have a fault that cannot be worded, and is turned away without one.

* `Payload.IsAlert`, `Payload.Understood` — what a payload has to be.
* `Payload.Arrives`, `Payload.Brings` — what it leads to.
* `Payload.Excuse`, `Excused` — why a value is turned away.
* `notifications_cases` — a payload is read as a whole or turned away.
* `TakenUp`, `TurnedAway` — what becomes of a payload.
* `record_cases`, `post_cases` — one of the two, and the answer tells which.
* `handedOut_exactly` — what a sequence of calls hands out.
-/
import AlertConformance.Proofs.Payload.Escapes
import AlertConformance.Proofs.Receiver.Pipeline

namespace AlertConformance

namespace Payload

variable [NestingLimits] {payload entry value : Json}

/-! ## Excuses -/

/-- Why a value is turned away: for a fault of the payload, or, when the
value has no text, for the reason of that. -/
inductive Excuse (value : Json) : Error → Prop where
  | fault (fault : ResponseFault) : Excuse value (.response fault)
  | noText (fault : TextFault) : ¬ value.HasText → Excuse value (.ofTextFault fault)

/-- A step that reads a part of a value either succeeds or has an
excuse. -/
def Excused {α : Type} (value : Json) (step : Result α) : Prop :=
  ∀ error, step = .error error → Excuse value error

section Excused

variable {α β : Type}

theorem excused_ok (value : Json) (a : α) : Excused value (.ok a) := by
  intro error h
  cases h

theorem excused_response (value : Json) (fault : ResponseFault) :
    Excused value (.error (.response fault) : Result α) := by
  intro error h
  obtain rfl := Except.error.inj h
  exact .fault fault

/-- A step is excused when it is a reading of some part that has a text
whenever the whole has. -/
theorem Excused.of_part {part : Json} {step : Result α} (h : Excused part step)
    (htext : value.HasText → part.HasText) : Excused value step := by
  intro error hstep
  cases h error hstep with
  | fault fault => exact .fault fault
  | noText fault hnone => exact .noText fault fun hvalue => hnone (htext hvalue)

theorem Excused.bind {step : Result α} {next : α → Result β} (h : Excused value step)
    (hnext : ∀ a, step = .ok a → Excused value (next a)) : Excused value (step >>= next) := by
  cases step with
  | error error => exact fun other hother => h other (Except.error.inj hother ▸ rfl)
  | ok a => exact hnext a rfl

theorem Excused.mapM {read : β → Result α} {xs : List β} (h : ∀ x ∈ xs, Excused value (read x)) :
    Excused value (xs.mapM read) := by
  induction xs with
  | nil => exact excused_ok value []
  | cons x xs ih =>
    obtain ⟨hx, hxs⟩ := List.forall_mem_cons.mp h
    rw [List.mapM_cons]
    exact hx.bind fun a _ => (ih hxs).bind fun _ _ => excused_ok value _

end Excused

/-- A text is missing only when the value has none. -/
theorem excused_mapError {step : Except TextFault String}
    (h : (∃ words, step = .ok words) ↔ value.HasText) :
    Excused value (step.mapError Error.ofTextFault) := by
  intro error herror
  cases step with
  | ok words => cases herror
  | error fault =>
    obtain rfl := Except.error.inj herror
    refine .noText fault fun htext => ?_
    obtain ⟨words, hwords⟩ := h.mpr htext
    cases hwords

theorem excused_text (value : Json) : Excused value (text value) :=
  excused_mapError Json.exists_asText_iff

theorem excused_refuse {α : Type} (fault : String → ResponseFault) (value : Json) :
    Excused value (refuse fault value : Result α) :=
  (excused_mapError Json.exists_shown_iff).bind fun _ _ => excused_response value _

/-! ## Fields -/

section Fields

variable {members : List (Text × Json)}

theorem excused_textOr (name : String) (members : List (Text × Json)) :
    Excused (.object members) (textOr name members) := by
  unfold textOr
  cases hfound : Keyed.find? (name : Text) members with
  | none => exact excused_ok _ _
  | some found =>
    exact (excused_text found).of_part fun h => h.of_mem_object (Keyed.mem_of_find? hfound)

theorem excused_labelsOf (members : List (Text × Json)) :
    Excused (.object members) (labelsOf members) := by
  refine Excused.bind (Excused.mapM fun member hmem => ?_) fun _ _ => excused_ok _ _
  refine Excused.bind ((excused_text member.2).of_part fun h => h.of_mem_object hmem) ?_
  exact fun _ _ => excused_ok _ _

theorem excused_timestamp (value : Json) : Excused value (timestamp value) := by
  cases value with
  | null => exact excused_ok _ _
  | text text =>
    simp only [timestamp]
    split
    · exact excused_ok _ _
    · split
      · exact excused_ok _ _
      · exact excused_refuse _ _
  | _ => exact excused_refuse _ _

theorem excused_labelMembers (entry labels : Json) :
    Excused entry (labelMembers entry labels) := by
  unfold labelMembers
  split
  · exact excused_ok _ _
  · exact excused_refuse _ _

theorem excused_noteMembers (entry annotations : Json) :
    Excused entry (noteMembers entry annotations) := by
  unfold noteMembers
  split
  · exact excused_ok _ _
  · split
    · exact excused_ok _ _
    · exact excused_refuse _ _

theorem excused_startTime {startsAt : Json} (h : entry.HasText → startsAt.HasText) :
    Excused entry (startTime entry startsAt) := by
  refine Excused.bind ((excused_timestamp startsAt).of_part h) fun time _ => ?_
  cases time with
  | some time => exact excused_ok _ _
  | none => exact excused_refuse _ _

end Fields

/-! ## Alerts -/

/-- The members of an alert: it has labels and a start; annotations and an
end may be left out, but not be something else. What is taken as a text has
one. -/
structure AlertMembers (members : List (Text × Json)) : Prop where
  labels : ∃ first rest, Json.member "labels" members = .object (first :: rest) ∧
    ∀ label ∈ first :: rest, label.2.HasText
  startsAt : ∃ time, timestamp (Json.member "startsAt" members) = .ok (some time)
  annotations : (Json.member "annotations" members).isVacant = true ∨
    ∃ notes, Json.member "annotations" members = .object notes ∧ ∀ note ∈ notes, note.2.HasText
  endsAt : ∃ time, timestamp (Json.member "endsAt" members) = .ok time
  generatorUrl : (Json.member "generatorURL" members).HasText

/-- An entry of a payload that is an alert. -/
def IsAlert (entry : Json) : Prop := ∃ members, entry = .object members ∧ AlertMembers members

/-- A payload is understood: it is a list of alerts. -/
def Understood (payload : Json) : Prop :=
  ∃ entries, Carries payload entries ∧ ∀ entry ∈ entries, IsAlert entry

/-- An entry is read as a notification, with the time of its arrival. -/
def Arrives (receivedAt : Int) (entry : Json) (arrival : Notification) : Prop :=
  notification receivedAt entry = .ok arrival ∧ arrival.receivedAt = receivedAt

/-- A payload brings one notification for each entry of its list, in
order, with the time of its arrival. -/
def Brings (receivedAt : Int) (payload : Json) (arrived : List Notification) : Prop :=
  ∃ entries, Carries payload entries ∧ List.Forall₂ (Arrives receivedAt) entries arrived

/-- An alert is read. -/
theorem IsAlert.exists_arrives (h : IsAlert entry) (receivedAt : Int) :
    ∃ arrival, Arrives receivedAt entry arrival := by
  obtain ⟨members, rfl, h⟩ := h
  obtain ⟨first, rest, hpairs, htexts⟩ := h.labels
  obtain ⟨start, hstart⟩ := h.startsAt
  obtain ⟨stop, hstop⟩ := h.endsAt
  obtain ⟨notes, hnotes, htexts'⟩ : ∃ notes,
      noteMembers (.object members) (Json.member "annotations" members) = .ok notes ∧
        ∀ note ∈ notes, note.2.HasText := by
    simp only [noteMembers_eq_ok_iff]
    rcases h.annotations with hvacant | ⟨notes, hnotes, htexts⟩
    · exact ⟨[], .inl ⟨hvacant, rfl⟩, List.forall_mem_nil _⟩
    · exact ⟨notes, .inr hnotes, htexts⟩
  obtain ⟨labels, hlabels⟩ := exists_labelsOf_iff.mpr htexts
  obtain ⟨annotations, hannotations⟩ := exists_labelsOf_iff.mpr htexts'
  obtain ⟨url, hurl⟩ := exists_textOr_iff.mpr h.generatorUrl
  simp only [Arrives, notification, object, labelMembers_eq_ok_iff.mpr ⟨first, rest, hpairs, rfl⟩,
    startTime_eq_ok_iff.mpr hstart, hnotes, hstop, hlabels, hannotations, hurl, bind, Except.bind,
    pure, Except.pure]
  exact ⟨_, rfl, rfl⟩

/-- What is read is an alert. -/
theorem isAlert_of_notification_eq_ok {receivedAt : Int} {arrival : Notification}
    (h : notification receivedAt entry = .ok arrival) : IsAlert entry := by
  obtain ⟨members, hmembers, h⟩ := bind_eq_ok_iff.mp h
  obtain rfl := object_eq_ok_iff.mp hmembers
  obtain ⟨pairs, hpairs, h⟩ := bind_eq_ok_iff.mp h
  obtain ⟨start, hstart, h⟩ := bind_eq_ok_iff.mp h
  obtain ⟨notes, hnotes, h⟩ := bind_eq_ok_iff.mp h
  obtain ⟨stop, hstop, h⟩ := bind_eq_ok_iff.mp h
  obtain ⟨labels, hlabels, h⟩ := bind_eq_ok_iff.mp h
  obtain ⟨annotations, hannotations, h⟩ := bind_eq_ok_iff.mp h
  obtain ⟨url, hurl, -⟩ := bind_eq_ok_iff.mp h
  obtain ⟨first, rest, hobject, rfl⟩ := labelMembers_eq_ok_iff.mp hpairs
  refine ⟨members, rfl, ⟨first, rest, hobject, exists_labelsOf_iff.mp ⟨labels, hlabels⟩⟩,
    ⟨start, startTime_eq_ok_iff.mp hstart⟩, ?_, ⟨stop, hstop⟩, exists_textOr_iff.mp ⟨url, hurl⟩⟩
  rcases noteMembers_eq_ok_iff.mp hnotes with ⟨hvacant, -⟩ | hobject
  · exact .inl hvacant
  · exact .inr ⟨notes, hobject, exists_labelsOf_iff.mp ⟨annotations, hannotations⟩⟩

/-- Reading an entry is excused: its members have texts when it has. -/
theorem excused_notification (receivedAt : Int) (entry : Json) :
    Excused entry (notification receivedAt entry) := by
  cases entry with
  | object members =>
    have hmember (name : String) :
        (Json.object members).HasText → (Json.member name members).HasText :=
      fun h => h.member name
    refine Excused.bind (excused_ok _ members) fun members' hmembers' => ?_
    obtain rfl := Except.ok.inj hmembers'
    refine Excused.bind (excused_labelMembers _ _) fun pairs hpairs => ?_
    refine Excused.bind (excused_startTime (hmember "startsAt")) fun start _ => ?_
    refine Excused.bind (excused_noteMembers _ _) fun notes hnotes => ?_
    refine Excused.bind ((excused_timestamp _).of_part (hmember "endsAt")) fun stop _ => ?_
    refine Excused.bind ?_ fun labels _ => Excused.bind ?_ fun annotations _ =>
      Excused.bind (excused_textOr _ _) fun url _ => excused_ok _ _
    · obtain ⟨first, rest, hobject, rfl⟩ := labelMembers_eq_ok_iff.mp hpairs
      exact (excused_labelsOf _).of_part (hobject ▸ hmember "labels")
    · rcases noteMembers_eq_ok_iff.mp hnotes with ⟨-, rfl⟩ | hobject
      · exact excused_ok _ _
      · exact (excused_labelsOf _).of_part (hobject ▸ hmember "annotations")
  | _ => exact excused_response _ _

/-! ## Payloads -/

/-- The alerts of a payload have texts when the payload has one. -/
theorem Carries.hasText_of_mem {entries : List Json} (h : Carries payload entries)
    (hmem : entry ∈ entries) (htext : payload.HasText) : entry.HasText := by
  cases h with
  | bare => exact htext.of_mem_array hmem
  | envelope hmember =>
    have halerts := htext.member "alerts"
    rw [hmember] at halerts
    exact halerts.of_mem_array hmem

/-- A list of alerts is read, alert by alert. -/
theorem exists_arrivals {entries : List Json} (receivedAt : Int)
    (h : ∀ entry ∈ entries, IsAlert entry) :
    ∃ arrived, List.Forall₂ (Arrives receivedAt) entries arrived := by
  induction entries with
  | nil => exact ⟨[], .nil⟩
  | cons entry entries ih =>
    obtain ⟨hentry, hrest⟩ := List.forall_mem_cons.mp h
    obtain ⟨arrival, hfirst⟩ := hentry.exists_arrives receivedAt
    obtain ⟨arrived, harrived⟩ := ih hrest
    exact ⟨arrival :: arrived, .cons hfirst harrived⟩

theorem Understood.exists_brings (h : Understood payload) (receivedAt : Int) :
    ∃ arrived, notifications receivedAt payload = .ok arrived ∧
      Brings receivedAt payload arrived := by
  obtain ⟨entries, hcarries, halerts⟩ := h
  obtain ⟨arrived, harrived⟩ := exists_arrivals receivedAt halerts
  refine ⟨arrived, ?_, entries, hcarries, harrived⟩
  simp only [notifications, carries_iff.mp hcarries]
  exact mapM_eq_ok_iff.mpr (harrived.imp fun _ _ h => h.1)

theorem understood_of_notifications_eq_ok {receivedAt : Int} {arrived : List Notification}
    (h : notifications receivedAt payload = .ok arrived) : Understood payload := by
  unfold notifications at h
  split at h
  · rename_i entries hlist
    refine ⟨entries, carries_iff.mpr hlist, fun entry hmem => ?_⟩
    obtain ⟨arrival, harrival⟩ := exists_eq_ok_of_mapM h hmem
    exact isAlert_of_notification_eq_ok harrival
  · cases h

theorem excused_notifications (receivedAt : Int) (payload : Json) :
    Excused payload (notifications receivedAt payload) := by
  unfold notifications
  split
  · rename_i entries hlist
    exact Excused.mapM fun entry hmem => (excused_notification receivedAt entry).of_part
      ((carries_iff.mpr hlist).hasText_of_mem hmem)
  · exact excused_response _ _

/-- **One payload**: it is read as a whole, or it is not understood and
turned away with an excuse. -/
theorem notifications_cases (receivedAt : Int) (payload : Json) :
    (Understood payload ∧ ∃ arrived, notifications receivedAt payload = .ok arrived ∧
      Brings receivedAt payload arrived) ∨
    (¬ Understood payload ∧
      ∃ error, notifications receivedAt payload = .error error ∧ Excuse payload error) := by
  by_cases hunderstood : Understood payload
  · exact .inl ⟨hunderstood, hunderstood.exists_brings receivedAt⟩
  · refine .inr ⟨hunderstood, ?_⟩
    cases hread : notifications receivedAt payload with
    | ok arrived => exact absurd (understood_of_notifications_eq_ok hread) hunderstood
    | error error => exact ⟨error, rfl, excused_notifications receivedAt payload error hread⟩

/-- A payload that may be unreadable, like a request's. -/
theorem offered_cases (receivedAt : Int) (offered : Result Json) :
    (∃ payload arrived, offered = .ok payload ∧ Understood payload ∧
      offered >>= notifications receivedAt = .ok arrived ∧ Brings receivedAt payload arrived) ∨
    ((∀ payload, offered = .ok payload → ¬ Understood payload) ∧
      ∃ error, offered >>= notifications receivedAt = .error error) := by
  cases offered with
  | error error => exact .inr ⟨nofun, error, rfl⟩
  | ok payload =>
    rcases notifications_cases receivedAt payload with
      ⟨hunderstood, arrived, hread, hbrings⟩ | ⟨hnot, error, hread, -⟩
    · exact .inl ⟨payload, arrived, rfl, hunderstood, hread, hbrings⟩
    · refine .inr ⟨fun other hother => ?_, _, hread⟩
      rwa [← Except.ok.inj hother]

end Payload

namespace Receiver

section Calls

variable [NestingLimits]

/-! ## Calls -/

/-- A call takes up a payload: it brings what the payload does, and that is
kept after all that was there. -/
structure TakenUp (receiver : Receiver) (call : Call) (receivedAt : Int) (payload : Json) :
    Prop where
  understood : Payload.Understood payload
  brings : Payload.Brings receivedAt payload call.arrivals
  kept : (receiver.call call).2.notifications = receiver.notifications ++ call.arrivals

/-- A call turns its payload away: it brings nothing and leaves nothing
behind. -/
structure TurnedAway (receiver : Receiver) (call : Call) : Prop where
  nothing : call.arrivals = []
  unchanged : (receiver.call call).2 = receiver

/-- **Recording** a payload takes it up and returns what it brings, or
turns it away with an excuse. -/
theorem record_cases (receiver : Receiver) (receivedAt : Int) (payload : Json) :
    (TakenUp receiver (.record receivedAt payload) receivedAt payload ∧
      (receiver.call (.record receivedAt payload)).1 =
        .ok (.recorded (Call.record receivedAt payload).arrivals)) ∨
    (¬ Payload.Understood payload ∧ TurnedAway receiver (.record receivedAt payload) ∧
      ∃ error, (receiver.call (.record receivedAt payload)).1 = .error error ∧
        Payload.Excuse payload error) := by
  rcases Payload.notifications_cases receivedAt payload with
    ⟨hunderstood, arrived, hread, hbrings⟩ | ⟨hnot, error, hread, hexcuse⟩
  · have harrivals : (Call.record receivedAt payload).arrivals = arrived := by
      rw [Call.arrivals, hread]
      rfl
    have hcall : receiver.call (.record receivedAt payload) =
        (.ok (.recorded arrived), ⟨receiver.notifications ++ arrived⟩) := by
      rw [Receiver.call, record_eq_ok hread]
    left
    rw [harrivals, hcall]
    refine ⟨⟨hunderstood, ?_, ?_⟩, rfl⟩
    · rwa [harrivals]
    · rw [harrivals, hcall]
  · have hcall : receiver.call (.record receivedAt payload) =
        (.error error, receiver) := by
      rw [Receiver.call, record, hread]
      rfl
    right
    refine ⟨hnot, ⟨?_, by rw [hcall]⟩, error, by rw [hcall], hexcuse⟩
    rw [Call.arrivals, hread]
    rfl

/-- A request is accepted only when its payload is read. -/
theorem exists_arrived_of_accepted {receiver next : Receiver} {receivedAt : Int}
    {contentLength : Option String} {body : ByteArray} {source : BodySource}
    (h : receiver.post receivedAt contentLength body source = .ok (.accepted, next)) :
    ∃ arrived, posted contentLength body source >>= Payload.notifications receivedAt = .ok arrived := by
  obtain ⟨length, hlength, h⟩ := bind_eq_ok_iff.mp h
  obtain ⟨covered, hcovered, h⟩ := bind_eq_ok_iff.mp h
  have hposted : posted contentLength body source = Payload.decodeBytes covered := by
    simp only [posted, hlength, hcovered, bind, Except.bind]
  rw [hposted]
  rw [bind_record] at h
  cases hread : Payload.decodeBytes covered >>= Payload.notifications receivedAt with
  | ok arrived => exact ⟨arrived, rfl⟩
  | error error =>
    simp only [hread, Except.map] at h
    split at h <;> cases h

/-- A request whose payload is not read leaves the receiver as it is and is
not accepted. -/
theorem call_post_of_unread (receiver : Receiver) {receivedAt : Int}
    {contentLength : Option String} {body : ByteArray} {source : BodySource} {error : Error}
    (h : posted contentLength body source >>= Payload.notifications receivedAt = .error error) :
    (receiver.call (.post receivedAt contentLength body source)).2 = receiver ∧
      (receiver.call (.post receivedAt contentLength body source)).1 ≠ .ok (.answered .accepted) := by
  cases hpost : receiver.post receivedAt contentLength body source with
  | error error =>
    rw [Receiver.call, hpost]
    refine ⟨rfl, fun haccepted => ?_⟩
    cases haccepted
  | ok answer =>
    obtain ⟨status, next⟩ := answer
    rw [Receiver.call, hpost]
    refine ⟨eq_of_post_eq_ok h hpost, fun haccepted => ?_⟩
    obtain rfl := Answer.answered.inj (Except.ok.inj haccepted)
    obtain ⟨arrived, harrived⟩ := exists_arrived_of_accepted hpost
    rw [h] at harrived
    cases harrived

/-- **A request** is accepted when it has a payload that is taken up.
Otherwise it is not, and its payload is turned away. -/
theorem post_cases (receiver : Receiver) (receivedAt : Int) (contentLength : Option String)
    (body : ByteArray) (source : BodySource) :
    (∃ payload, posted contentLength body source = .ok payload ∧
      TakenUp receiver (.post receivedAt contentLength body source) receivedAt payload ∧
      (receiver.call (.post receivedAt contentLength body source)).1 = .ok (.answered .accepted)) ∨
    ((∀ payload, posted contentLength body source = .ok payload → ¬ Payload.Understood payload) ∧
      TurnedAway receiver (.post receivedAt contentLength body source) ∧
      (receiver.call (.post receivedAt contentLength body source)).1 ≠ .ok (.answered .accepted)) := by
  rcases Payload.offered_cases receivedAt (posted contentLength body source) with
    ⟨payload, arrived, hposted, hunderstood, hread, hbrings⟩ | ⟨hnot, error, hread⟩
  · have harrivals : (Call.post receivedAt contentLength body source).arrivals = arrived := by
      rw [Call.arrivals, hread]
      rfl
    have hcall : receiver.call (.post receivedAt contentLength body source) =
        (.ok (.answered .accepted), ⟨receiver.notifications ++ arrived⟩) := by
      rw [Receiver.call, post_eq_ok hread]
    refine .inl ⟨payload, hposted, ⟨hunderstood, ?_, ?_⟩, by rw [hcall]⟩
    · rwa [harrivals]
    · rw [harrivals, hcall]
  · obtain ⟨hunchanged, hrefused⟩ := call_post_of_unread receiver hread
    refine .inr ⟨hnot, ⟨?_, hunchanged⟩, hrefused⟩
    rw [Call.arrivals, hread]
    rfl

/-- **Any sequence of calls** hands out what its calls bring, in order.
Each call that offers a payload takes it up, with one notification for each
alert and the time of the call, or turns it away; the caller of `record` is
told which, and is given the excuse for a payload that is turned away. -/
theorem handedOut_exactly (calls : List Call) :
    handedOut calls = calls.flatMap Call.arrivals ∧
    (∀ (receiver : Receiver) (receivedAt : Int) (payload : Json),
      (TakenUp receiver (.record receivedAt payload) receivedAt payload ∧
        (receiver.call (.record receivedAt payload)).1 =
          .ok (.recorded (Call.record receivedAt payload).arrivals)) ∨
      (¬ Payload.Understood payload ∧ TurnedAway receiver (.record receivedAt payload) ∧
        ∃ error, (receiver.call (.record receivedAt payload)).1 = .error error ∧
          Payload.Excuse payload error)) ∧
    ∀ (receiver : Receiver) (receivedAt : Int) (contentLength : Option String) (body : ByteArray)
      (source : BodySource),
      (∃ payload, posted contentLength body source = .ok payload ∧
        TakenUp receiver (.post receivedAt contentLength body source) receivedAt payload ∧
        (receiver.call (.post receivedAt contentLength body source)).1 = .ok (.answered .accepted)) ∨
      ((∀ payload, posted contentLength body source = .ok payload → ¬ Payload.Understood payload) ∧
        TurnedAway receiver (.post receivedAt contentLength body source) ∧
        (receiver.call (.post receivedAt contentLength body source)).1 ≠ .ok (.answered .accepted)) :=
  ⟨handedOut_eq calls, record_cases, post_cases⟩

end Calls

/-- Not every payload that is turned away has a fault to tell: an integer
in it may be too long for a message. -/
theorem record_unworded : ¬ ∀ payload : Json,
    (∃ answer, ({} : Receiver).record 0 payload = .ok answer) ∨
      ∃ fault, ({} : Receiver).record 0 payload = .error (.response fault) := by
  intro h
  have hescapes : Escapes (({} : Receiver).record 0
      (.array [.object [("x", .int (Nat.pow 10 maxIntegerDigits))]])) := by
    decide +kernel
  exact not_escapes_iff.mpr (h _) hescapes

/-- An alert that could be read is lost with one after it that cannot. -/
example : (Call.record 0 (.array [.object (Schedule.twinAlert "A" "1970-01-01T00:04:00Z"),
    .text "alert"])).arrivals.length = 0 := by
  decide +kernel

end Receiver

end AlertConformance
