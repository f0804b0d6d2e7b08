/-
AlertConformance.Proofs.Receiver.Requests — what becomes of any body.

A request states the length of its body, and the body is any string of
bytes. Its covered part is accepted when it is JSON text of a payload that
is understood. It is refused when it is text that is not JSON, or JSON of a
payload that is not understood. What is left are the bodies that the
receiver fails on without an answer: those that are no text at all, and
those that the JSON reader gives up on. In no case but the first does the
receiver keep anything.

* `Reads`, `Unread` — what the covered part of a body is.
* `read_cases` — every body is a payload, text that is not JSON, or unread.
* `Accepts`, `Refuses` — the requests that are answered.
* `post_eq` — the answer, told from the payload of the request.
* `answer_cases` — the three kinds of requests and what becomes of each.
* `post_answers` — the kind of a request, told from its answer.
-/
import AlertConformance.Proofs.Numeric.Decimal
import AlertConformance.Proofs.Receiver.Intake

namespace AlertConformance.Receiver

variable {receivedAt : Int} {length : Nat} {body : ByteArray}

/-! ## Stated lengths -/

/-- The length of a body that is not too large is read back. -/
theorem statedLength_toString (h : length ≤ maxBodySize) :
    statedLength (some (toString length)) = .ok length := by
  have hlimit : maxBodySize < Nat.pow 10 maxIntegerDigits := by decide +kernel
  have hwritable : isWritable length = true :=
    decide_eq_true (Nat.lt_of_le_of_lt h hlimit)
  rw [statedLength, readInt?_toString, if_pos hwritable]

section Requests

variable [NestingLimits] {source : BodySource}

/-! ## Bodies -/

/-- A request that states the length of its body in decimal. -/
def request (receivedAt : Int) (length : Nat) (body : ByteArray)
    (source : BodySource := .memory) : Call :=
  .post receivedAt (some (toString length)) body source

/-- The covered part of a body is text, and this is how JSON text it
reads. -/
def Reads (length : Nat) (body : ByteArray) (reading : Except Json.ReadFault Json) : Prop :=
  length ≤ maxBodySize ∧ ∃ text, String.fromUTF8? (body.extract 0 length) = some text ∧
    Json.parse text = reading

/-- The covered part of a body is not read: it is too large, it is no text,
or the JSON reader gives it up. -/
inductive Unread (length : Nat) (body : ByteArray) : Prop where
  | tooLarge (large : maxBodySize < length)
  | noText (text : String.fromUTF8? (body.extract 0 length) = none)
  | integerTooLong (reads : Reads length body (.error .integerTooLong))
  | nestedTooDeep (reads : Reads length body (.error .nestedTooDeep))

/-- A request has a payload that is understood, and this is what it
brings. -/
def Accepts (receivedAt : Int) (length : Nat) (body : ByteArray)
    (arrived : List Notification) : Prop :=
  ∃ payload, Reads length body (.ok payload) ∧
    Payload.notifications receivedAt payload = .ok arrived

/-- A request has text that is not JSON, or a payload that is not
understood. -/
inductive Refuses (receivedAt : Int) (length : Nat) (body : ByteArray) : Prop where
  | notJson (reads : Reads length body (.error .malformed))
  | notUnderstood {payload : Json} {fault : ResponseFault} (reads : Reads length body (.ok payload))
    (refused : Payload.notifications receivedAt payload = .error (.response fault))

/-- Every body is read as a payload, is text that is not JSON, or is not
read. -/
theorem read_cases (length : Nat) (body : ByteArray) :
    (∃ payload, Reads length body (.ok payload)) ∨ Reads length body (.error .malformed) ∨
      Unread length body := by
  by_cases hsmall : length ≤ maxBodySize
  · cases htext : String.fromUTF8? (body.extract 0 length) with
    | none => exact .inr (.inr (.noText htext))
    | some text =>
      cases hjson : Json.parse text with
      | ok payload => exact .inl ⟨payload, hsmall, text, htext, hjson⟩
      | error fault =>
        cases fault with
        | malformed => exact .inr (.inl ⟨hsmall, text, htext, hjson⟩)
        | integerTooLong => exact .inr (.inr (.integerTooLong ⟨hsmall, text, htext, hjson⟩))
        | nestedTooDeep => exact .inr (.inr (.nestedTooDeep ⟨hsmall, text, htext, hjson⟩))
  · exact .inr (.inr (.tooLarge (Nat.not_le.mp hsmall)))

/-! ## Reading -/

theorem posted_eq (hlength : length ≤ body.size) (hsmall : length ≤ maxBodySize) :
    posted (some (toString length)) body source =
      Payload.decodeBytes (body.extract 0 length) := by
  have hcovered : coveredBody source length body = .ok (body.extract 0 length) := by
    rw [coveredBody, if_neg (by simp; omega), if_neg (by simp), if_neg (by omega),
      Int.toNat_natCast, Nat.min_eq_left hlength]
  simp only [posted, statedLength_toString hsmall, bind, Except.bind, hcovered]

/-- What is read is the payload of the request, or its fault. -/
theorem posted_of_reads (hlength : length ≤ body.size) {reading : Except Json.ReadFault Json}
    (h : Reads length body reading) : ∃ text, Json.parse text = reading ∧
      posted (some (toString length)) body source = Payload.decode text := by
  obtain ⟨hsmall, text, htext, hjson⟩ := h
  refine ⟨text, hjson, ?_⟩
  rw [posted_eq hlength hsmall, Payload.decodeBytes, htext]

theorem posted_of_large (h : maxBodySize < length) :
    ∃ error, posted (some (toString length)) body source = .error error ∧
      isRefusal error = false := by
  by_cases hwritable : isWritable length = true
  · refine ⟨.numberTooLarge, ?_, rfl⟩
    have hlarge : coveredBody source length body = .error .numberTooLarge := by
      rw [coveredBody, if_pos (by simp; omega)]
    simp only [posted, statedLength, readInt?_toString, if_pos hwritable, bind, Except.bind, hlarge]
  · refine ⟨.invalidNumber, ?_, rfl⟩
    simp only [posted, statedLength, readInt?_toString, if_neg hwritable, bind, Except.bind]

theorem posted_of_unread (hlength : length ≤ body.size) (h : Unread length body) :
    ∃ error, posted (some (toString length)) body source = .error error ∧
      isRefusal error = false := by
  by_cases hsmall : length ≤ maxBodySize
  case neg => exact posted_of_large (Nat.not_le.mp hsmall)
  cases h with
  | tooLarge hlarge => omega
  | noText htext =>
    refine ⟨.invalidUtf8, ?_, rfl⟩
    rw [posted_eq hlength hsmall, Payload.decodeBytes, htext]
  | integerTooLong hreads =>
    obtain ⟨text, hjson, hposted⟩ := posted_of_reads hlength hreads
    exact ⟨.invalidNumber, by rw [hposted, Payload.decode, hjson], rfl⟩
  | nestedTooDeep hreads =>
    obtain ⟨text, hjson, hposted⟩ := posted_of_reads hlength hreads
    exact ⟨.nestedTooDeep, by rw [hposted, Payload.decode, hjson], rfl⟩

/-! ## Answers -/

/-- A request is answered by what becomes of its payload. -/
theorem post_eq (receiver : Receiver) (receivedAt : Int) (contentLength : Option String)
    (body : ByteArray) (source : BodySource) :
    receiver.post receivedAt contentLength body source =
      match posted contentLength body source >>= receiver.record receivedAt with
      | .ok (_, next) => .ok (.accepted, next)
      | .error error => if isRefusal error then .ok (.refused, receiver) else .error error := by
  unfold post posted
  cases hstated : statedLength contentLength with
  | error fault =>
    have hfault : fault = .invalidNumber := by
      unfold statedLength at hstated
      split at hstated
      · cases hstated
      · split at hstated <;> cases hstated
        rfl
    rw [hfault]
    rfl
  | ok length =>
    cases hcovered : coveredBody source length body with
    | error fault =>
      have hfault : isRefusal fault = false := by
        unfold coveredBody at hcovered
        split at hcovered
        · exact Except.error.inj hcovered ▸ rfl
        · split at hcovered
          · exact Except.error.inj hcovered ▸ rfl
          · split at hcovered <;> cases hcovered
      simp only [bind, Except.bind, hcovered, hfault]
      rfl
    | ok covered =>
      simp only [bind, Except.bind, hcovered]
      rfl

theorem call_of_accepts (receiver : Receiver) {arrived : List Notification}
    (hlength : length ≤ body.size) (h : Accepts receivedAt length body arrived) :
    receiver.call (request receivedAt length body source) =
      (.ok (.answered .accepted), ⟨receiver.notifications ++ arrived⟩) := by
  obtain ⟨payload, hreads, harrived⟩ := h
  obtain ⟨text, hjson, hposted⟩ := posted_of_reads hlength hreads
  rw [Payload.decode, hjson] at hposted
  rw [request, Receiver.call, post_eq_ok (bind_eq_ok_iff.mpr ⟨payload, hposted, harrived⟩)]

theorem call_of_refuses (receiver : Receiver) (hlength : length ≤ body.size)
    (h : Refuses receivedAt length body) :
    receiver.call (request receivedAt length body source) = (.ok (.answered .refused), receiver) := by
  cases h with
  | notJson hreads =>
    obtain ⟨text, hjson, hposted⟩ := posted_of_reads hlength hreads
    rw [Payload.decode, hjson] at hposted
    rw [request, Receiver.call, post_eq, hposted]
    rfl
  | notUnderstood hreads hfault =>
    obtain ⟨text, hjson, hposted⟩ := posted_of_reads hlength hreads
    rw [Payload.decode, hjson] at hposted
    rw [request, Receiver.call, post_eq, bind_record, hposted]
    simp only [bind, Except.bind, hfault]
    rfl

theorem call_of_unread (receiver : Receiver) (receivedAt : Int) (source : BodySource)
    (hlength : length ≤ body.size) (h : Unread length body) :
    ∃ error, receiver.call (request receivedAt length body source) = (.error error, receiver) := by
  obtain ⟨error, hposted, herror⟩ := posted_of_unread hlength h
  refine ⟨error, ?_⟩
  rw [request, Receiver.call, post_eq, hposted]
  simp only [bind, Except.bind, herror]
  rfl

/-- Every request is one that is accepted, one that is refused, or one that
is not read. -/
theorem request_cases (receivedAt : Int) (length : Nat) (body : ByteArray) :
    (∃ arrived, Accepts receivedAt length body arrived) ∨ Refuses receivedAt length body ∨
      Unread length body := by
  rcases read_cases length body with ⟨payload, hreads⟩ | hmalformed | hunread
  · have ⟨_, _, _, hjson⟩ := hreads
    rcases Payload.notifications_cases receivedAt payload with
      ⟨-, arrived, harrived, -⟩ | ⟨-, error, hread, hexcuse⟩
    · exact .inl ⟨arrived, payload, hreads, harrived⟩
    · -- what has been read has a text, so that its fault is told
      cases hexcuse with
      | fault fault => exact .inr (.inl (.notUnderstood hreads hread))
      | noText fault hnone => exact absurd (Json.hasText_of_parse hjson) hnone
  · exact .inr (.inl (.notJson hmalformed))
  · exact .inr (.inr hunread)

/-- **One request**: each kind has its own answer. -/
theorem answer_cases (receiver : Receiver) (receivedAt : Int) (source : BodySource)
    (hlength : length ≤ body.size) :
    (∃ arrived, Accepts receivedAt length body arrived ∧
      receiver.call (request receivedAt length body source) =
        (.ok (.answered .accepted), ⟨receiver.notifications ++ arrived⟩)) ∨
    (Refuses receivedAt length body ∧
      receiver.call (request receivedAt length body source) = (.ok (.answered .refused), receiver)) ∨
    (Unread length body ∧
      ∃ error, receiver.call (request receivedAt length body source) = (.error error, receiver)) := by
  rcases request_cases receivedAt length body with ⟨arrived, haccepts⟩ | hrefuses | hunread
  · exact .inl ⟨arrived, haccepts, call_of_accepts receiver hlength haccepts⟩
  · exact .inr (.inl ⟨hrefuses, call_of_refuses receiver hlength hrefuses⟩)
  · exact .inr (.inr ⟨hunread, call_of_unread receiver receivedAt source hlength hunread⟩)

/-- **Requests** are accepted, refused or fail by what their bodies are.
Those that are accepted add what their payloads bring to what is there, and
the others add nothing. -/
theorem post_answers (receiver : Receiver) (receivedAt : Int) (source : BodySource)
    (hlength : length ≤ body.size) :
    ((receiver.call (request receivedAt length body source)).1 = .ok (.answered .accepted) ↔
      ∃ arrived, Accepts receivedAt length body arrived) ∧
    ((receiver.call (request receivedAt length body source)).1 = .ok (.answered .refused) ↔
      Refuses receivedAt length body) ∧
    ((∃ error, (receiver.call (request receivedAt length body source)).1 = .error error) ↔
      Unread length body) ∧
    (∀ arrived, Accepts receivedAt length body arrived →
      (receiver.call (request receivedAt length body source)).2.notifications =
        receiver.notifications ++ arrived) ∧
    ((receiver.call (request receivedAt length body source)).1 ≠ .ok (.answered .accepted) →
      (receiver.call (request receivedAt length body source)).2 = receiver) := by
  have hcases := receiver.answer_cases receivedAt source hlength
  refine ⟨⟨?_, ?_⟩, ⟨?_, ?_⟩, ⟨?_, ?_⟩, ?_, ?_⟩
  · intro h
    rcases hcases with ⟨arrived, haccepts, -⟩ | ⟨-, hcall⟩ | ⟨-, error, hcall⟩
    · exact ⟨arrived, haccepts⟩
    all_goals simp [hcall] at h
  · rintro ⟨arrived, haccepts⟩
    rw [call_of_accepts receiver hlength haccepts]
  · intro h
    rcases hcases with ⟨arrived, -, hcall⟩ | ⟨hrefuses, -⟩ | ⟨-, error, hcall⟩
    · simp [hcall] at h
    · exact hrefuses
    · simp [hcall] at h
  · intro hrefuses
    rw [call_of_refuses receiver hlength hrefuses]
  · rintro ⟨error, h⟩
    rcases hcases with ⟨arrived, -, hcall⟩ | ⟨-, hcall⟩ | ⟨hunread, -⟩
    · simp [hcall] at h
    · simp [hcall] at h
    · exact hunread
  · intro hunread
    obtain ⟨error, hcall⟩ := call_of_unread receiver receivedAt source hlength hunread
    exact ⟨error, by rw [hcall]⟩
  · intro arrived haccepts
    rw [call_of_accepts receiver hlength haccepts]
  · intro h
    rcases hcases with ⟨arrived, -, hcall⟩ | ⟨-, hcall⟩ | ⟨-, error, hcall⟩
    · simp [hcall] at h
    all_goals rw [hcall]

end Requests

/-- Two brackets and a byte that is no text. -/
def brackets : ByteArray := ⟨#[0x5b, 0x5d, 0xff]⟩

/-- The brackets alone are accepted, and with the third byte the receiver
fails. -/
theorem post_answers_brackets : 2 ≤ brackets.size ∧ 3 ≤ brackets.size ∧
    (({} : Receiver).call (request 0 2 brackets)).1 = .ok (.answered .accepted) ∧
    ∃ error, (({} : Receiver).call (request 0 3 brackets)).1 = .error error := by
  have hread : Reads 2 brackets (.ok (.array [])) :=
    ⟨by decide, "[]", by decide +kernel, rfl⟩
  have hunread : Unread 3 brackets := .noText (by decide +kernel)
  exact ⟨by decide, by decide, (post_answers {} 0 .memory (by decide)).1.mpr ⟨[], _, hread, rfl⟩,
    (post_answers {} 0 .memory (by decide)).2.2.1.mpr hunread⟩

/-- Not every body is answered: a single byte may be no text. -/
theorem requests_unanswered : ¬ ∀ (receivedAt : Int) (length : Nat) (body : ByteArray),
    length ≤ body.size → ∃ status,
      (({} : Receiver).call (request receivedAt length body)).1 = .ok (.answered status) := by
  intro h
  obtain ⟨status, hstatus⟩ := h 0 1 ⟨#[0xff]⟩ (by decide)
  have hunread : Unread 1 ⟨#[0xff]⟩ := .noText (by decide +kernel)
  obtain ⟨error, hcall⟩ := call_of_unread {} 0 .memory (by decide) hunread
  simp [hcall] at hstatus

end AlertConformance.Receiver
