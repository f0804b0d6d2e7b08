/-
AlertConformance.Receiver — recording notifications as they arrive.

The engine posts its notifications. The receiver keeps them in order of
arrival until they are consumed; a body that is not understood is refused
and leaves nothing behind.

* `Receiver.record` — a payload that arrives.
* `Receiver.consume` — take what has arrived.
* `Receiver.post` — a request and the status that answers it.
-/
import AlertConformance.Payload.Notification

namespace AlertConformance

/-- The notifications that nobody has taken yet. -/
structure Receiver where
  notifications : List Notification := []

namespace Receiver

variable [NestingLimits]

/-- Record a payload: its notifications, and the next state. -/
def record (receiver : Receiver) (receivedAt : Int) (payload : Json) :
    Result (List Notification × Receiver) :=
  (Payload.notifications receivedAt payload).map fun arrived =>
    (arrived, ⟨receiver.notifications ++ arrived⟩)

/-- Take everything that has arrived. -/
def consume (receiver : Receiver) : List Notification × Receiver :=
  (receiver.notifications, ⟨[]⟩)

/-! ## Requests -/

/-- The answer to a request. -/
inductive Status where
  | accepted
  | refused
  deriving DecidableEq, Repr

def Status.code : Status → Nat
  | accepted => 200
  | refused => 400

/-- The largest size of a body. -/
def maxBodySize : Nat := Nat.pow 2 63 - 1

/-- Where a body is read from. -/
inductive BodySource where
  | memory
  | connection
  deriving DecidableEq, Repr

/-- The part of a body that its stated length covers. In memory a negative
length covers all of it; from a connection all is only read by the length
-1, and no other negative one is accepted. -/
def coveredBody (source : BodySource) (length : Int) (body : ByteArray) : Result ByteArray :=
  if maxBodySize < length.natAbs && length ≠ -(maxBodySize + 1 : Int) then .error .numberTooLarge
  else if length < -1 && source = .connection then .error .invalidNumber
  else if length < 0 then .ok body
  else .ok (body.extract 0 (min length.toNat body.size))

/-- The stated length of a body, zero when none is stated. -/
def statedLength : Option String → Result Int
  | none => .ok 0
  | some text =>
    match readInt? text with
    | some length => .ok length
    | none => .error .invalidNumber

/-- Whether a body with this error is refused; other errors are the
receiver's own. -/
def isRefusal : Error → Bool
  | .invalidJson | .response _ => true
  | _ => false

/-- A request with a stated length and a body. -/
def post (receiver : Receiver) (receivedAt : Int) (contentLength : Option String)
    (body : ByteArray) (source : BodySource := .memory) : Result (Status × Receiver) := do
  let covered ← coveredBody source (← statedLength contentLength) body
  match Payload.decodeBytes covered >>= receiver.record receivedAt with
  | .ok (_, next) => return (.accepted, next)
  | .error error => if isRefusal error then return (.refused, receiver) else throw error

end Receiver

end AlertConformance
