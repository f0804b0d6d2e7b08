/-
AlertConformance.Proofs.Receiver.Run — sequences of calls on a receiver.

Payloads arrive by `record` and by `post`, and `consume` takes what has
arrived. Whatever the sequence, each notification of an accepted payload
is either consumed or still there, and the order is the order of arrival.

* `call`, `answers`, `after` — a call, what a sequence of calls answers, and
  the state it ends in.
* `Call.arrivals` — the notifications that a call brings, which do not
  depend on the state.
* `call_conserves`, `calls_conserve` — nothing is lost or reordered, by one
  call and by any number of them.
* `handedOut_eq` — what calls on a new receiver hand out in the end.
-/
import AlertConformance.Proofs.Checked
import AlertConformance.Receiver

namespace AlertConformance.Receiver

variable [NestingLimits]

/-! ## Calls -/

/-- A call on a receiver; payloads come with the time of their arrival. -/
inductive Call where
  | record (receivedAt : Int) (payload : Json)
  | post (receivedAt : Int) (contentLength : Option String) (body : ByteArray)
    (source : BodySource := .memory)
  | consume

/-- The answer of a call that does not fail. -/
inductive Answer where
  | recorded (arrived : List Notification)
  | answered (status : Status)
  | consumed (taken : List Notification)

/-- A call: its answer, and the state after it. -/
def call (receiver : Receiver) : Call → Result Answer × Receiver
  | .record receivedAt payload =>
    match receiver.record receivedAt payload with
    | .ok (arrived, next) => (.ok (.recorded arrived), next)
    | .error error => (.error error, receiver)
  | .post receivedAt contentLength body source =>
    match receiver.post receivedAt contentLength body source with
    | .ok (status, next) => (.ok (.answered status), next)
    | .error error => (.error error, receiver)
  | .consume => (.ok (.consumed receiver.consume.1), receiver.consume.2)

/-- What a sequence of calls answers. -/
def answers (receiver : Receiver) : List Call → List (Result Answer)
  | [] => []
  | call :: rest => (receiver.call call).1 :: (receiver.call call).2.answers rest

/-- The state after a sequence of calls. -/
def after (receiver : Receiver) : List Call → Receiver
  | [] => receiver
  | call :: rest => (receiver.call call).2.after rest

/-- The notifications that an answer hands out. -/
def Answer.taken : Result Answer → List Notification
  | .ok (.consumed taken) => taken
  | _ => []

/-- The notifications that a sequence of calls consumes, in order. -/
def taken (receiver : Receiver) (calls : List Call) : List Notification :=
  (receiver.answers calls).flatMap Answer.taken

/-- What calls on a new receiver hand out, with a last `consume` for the
rest. -/
def handedOut (calls : List Call) : List Notification :=
  ({} : Receiver).taken (calls ++ [.consume])

/-! ## What a call brings -/

/-- The payload of a request. -/
def posted (contentLength : Option String) (body : ByteArray)
    (source : BodySource := .memory) : Result Json := do
  Payload.decodeBytes (← coveredBody source (← statedLength contentLength) body)

/-- The notifications that a call brings, none when its payload is
refused. -/
def Call.arrivals : Call → List Notification
  | .record receivedAt payload => ((Payload.notifications receivedAt payload).toOption).getD []
  | .post receivedAt contentLength body source =>
    ((posted contentLength body source >>= Payload.notifications receivedAt).toOption).getD []
  | .consume => []

variable {receiver next : Receiver} {receivedAt : Int}

/-- A payload that is understood is recorded, whatever was there before. -/
theorem record_eq_ok {payload : Json} {arrived : List Notification}
    (h : Payload.notifications receivedAt payload = .ok arrived) :
    receiver.record receivedAt payload = .ok (arrived, ⟨receiver.notifications ++ arrived⟩) := by
  rw [record, h]
  rfl

/-- A payload that may be unreadable is recorded like the notifications it
holds. -/
theorem bind_record (payload : Result Json) :
    (payload >>= receiver.record receivedAt) =
      (payload >>= Payload.notifications receivedAt).map fun arrived =>
        (arrived, ⟨receiver.notifications ++ arrived⟩) := by
  cases payload <;> rfl

/-- A request whose payload is understood is accepted. -/
theorem post_eq_ok {contentLength : Option String} {body : ByteArray} {source : BodySource}
    {arrived : List Notification}
    (h : posted contentLength body source >>= Payload.notifications receivedAt = .ok arrived) :
    receiver.post receivedAt contentLength body source =
      .ok (.accepted, ⟨receiver.notifications ++ arrived⟩) := by
  obtain ⟨payload, hposted, harrived⟩ := bind_eq_ok_iff.mp h
  obtain ⟨length, hlength, hposted⟩ := bind_eq_ok_iff.mp hposted
  obtain ⟨covered, hcovered, hdecode⟩ := bind_eq_ok_iff.mp hposted
  simp only [post, hlength, hcovered, hdecode, bind, Except.bind, record_eq_ok harrived, pure,
    Except.pure]

/-- A request whose payload is not understood leaves nothing behind. -/
theorem eq_of_post_eq_ok {contentLength : Option String} {body : ByteArray} {source : BodySource}
    {status : Status} {error : Error}
    (h : posted contentLength body source >>= Payload.notifications receivedAt = .error error)
    (hpost : receiver.post receivedAt contentLength body source = .ok (status, next)) :
    next = receiver := by
  obtain ⟨length, hlength, hpost⟩ := bind_eq_ok_iff.mp hpost
  obtain ⟨covered, hcovered, hpost⟩ := bind_eq_ok_iff.mp hpost
  have hposted : posted contentLength body source = Payload.decodeBytes covered := by
    simp only [posted, hlength, hcovered, bind, Except.bind]
  rw [hposted] at h
  rw [bind_record, h] at hpost
  simp only [Except.map] at hpost
  split at hpost
  · exact (Prod.mk.inj (Except.ok.inj hpost)).2.symm
  · cases hpost

/-! ## Nothing is lost -/

/-- **One call**: what it hands out, followed by what is there after it, is
what was there before with what the call brings. -/
theorem call_conserves (receiver : Receiver) (call : Call) :
    Answer.taken (receiver.call call).1 ++ (receiver.call call).2.notifications =
      receiver.notifications ++ call.arrivals := by
  cases call with
  | record receivedAt payload =>
    cases harrived : Payload.notifications receivedAt payload with
    | ok arrived =>
      simp only [Receiver.call, record_eq_ok harrived, Answer.taken, Call.arrivals, harrived,
        Except.toOption, Option.getD_some, List.nil_append]
    | error error =>
      simp only [Receiver.call, record, Except.map, Answer.taken, Call.arrivals, harrived,
        Except.toOption, Option.getD_none, List.nil_append, List.append_nil]
  | post receivedAt contentLength body source =>
    cases harrived : posted contentLength body source >>= Payload.notifications receivedAt with
    | ok arrived =>
      simp only [Receiver.call, post_eq_ok harrived, Answer.taken, Call.arrivals, harrived,
        Except.toOption, Option.getD_some, List.nil_append]
    | error error =>
      simp only [Call.arrivals, harrived, Except.toOption, Option.getD_none, List.append_nil]
      cases hpost : receiver.post receivedAt contentLength body source with
      | ok answer =>
        rw [Receiver.call, hpost]
        exact congrArg notifications (eq_of_post_eq_ok harrived hpost)
      | error error =>
        rw [Receiver.call, hpost]
        rfl
  | consume => rfl

/-- **Any number of calls**: what they consume, followed by what is there in
the end, is what was there at first with what the calls bring, in order. -/
theorem calls_conserve (receiver : Receiver) (calls : List Call) :
    receiver.taken calls ++ (receiver.after calls).notifications =
      receiver.notifications ++ calls.flatMap Call.arrivals := by
  induction calls generalizing receiver with
  | nil => simp [taken, answers, after]
  | cons call rest ih =>
    have hrest := ih (receiver.call call).2
    have hcall := receiver.call_conserves call
    simp only [taken, answers, after, List.flatMap_cons, List.append_assoc] at hrest ⊢
    rw [hrest, ← List.append_assoc, hcall, List.append_assoc]

/-- Calls that end with `consume` leave nothing to be taken. -/
theorem after_consume (receiver : Receiver) (calls : List Call) :
    (receiver.after (calls ++ [.consume])).notifications = [] := by
  induction calls generalizing receiver with
  | nil => rfl
  | cons call rest ih => exact ih (receiver.call call).2

/-- All that calls bring is handed out. -/
theorem handedOut_eq (calls : List Call) : handedOut calls = calls.flatMap Call.arrivals := by
  have hconserved := ({} : Receiver).calls_conserve (calls ++ [.consume])
  simpa [handedOut, after_consume, Call.arrivals] using hconserved

end AlertConformance.Receiver
