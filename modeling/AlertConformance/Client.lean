/-
AlertConformance.Client — reading the engine's API.

A call names a page and its parameters; the client makes the request of it
and reads the body of the answer.

* `formEncode` — parameters in an address.
* `Client.request` — the request of a call.
* `Client.alerts`, `Client.ruleGroup`, `Client.query` — the answers.
-/
import AlertConformance.Duration
import AlertConformance.Payload.Engine

namespace AlertConformance

/-! ## Parameters -/

/-- Whether a character stands for itself in a parameter. -/
def isUnreserved (c : Char) : Bool :=
  c.isAlphanum || c = '_' || c = '.' || c = '-' || c = '~'

/-- A byte by its hexadecimal digits. -/
def percentEncoded (byte : UInt8) : List Char :=
  '%' :: (hexDigits 2 byte.toNat).map Char.toUpper

/-- A character in a parameter: a blank is a plus sign, and the bytes of
other characters are encoded. -/
def formEncodeChar (c : Char) : List Char :=
  if isUnreserved c then [c]
  else if c = ' ' then ['+']
  else (String.utf8EncodeChar c).flatMap percentEncoded

def formEncode (text : String) : String := String.ofList (text.toList.flatMap formEncodeChar)

/-- Parameters after an address; without any, nothing. -/
def queryString (parameters : List (String × String)) : String :=
  if parameters.isEmpty then ""
  else "?" ++ "&".intercalate (parameters.map fun (name, value) =>
    formEncode name ++ "=" ++ formEncode value)

/-! ## Requests -/

/-- A request; `authorization` is the header of that name. -/
structure Request where
  url : String
  authorization : Option String
  method : String := "GET"
  timeout : Binary64 := 10

/-- An engine: its address and perhaps a token. -/
structure Client where
  baseUrl : String
  token : Option String := none

/-- A call of the API. -/
inductive Call where
  | alerts
  | ruleGroups
  | query (expression : String) (time : Int)

namespace Call

def path : Call → String
  | alerts => "/api/v1/alerts"
  | ruleGroups => "/api/v1/rules"
  | query .. => "/api/v1/query"

/-- The time of a query is in seconds with three decimals. -/
def parameters : Call → Result (List (String × String))
  | alerts => .ok []
  | ruleGroups => .ok [("type", "alert")]
  | query expression time => do
    return [("query", expression), ("time", (← inSeconds time).toFixed 3)]

end Call

namespace Client

/-- The address without one final slash. -/
def root (client : Client) : String :=
  let cs := client.baseUrl.toList
  if cs.getLast? = some '/' then String.ofList cs.dropLast else client.baseUrl

/-- An address without the blanks and the mark in front of it. -/
def bareAddress (url : String) : List Char :=
  let cs := trim url.toList
  if cs.take 4 = "URL:".toList then trim (cs.drop 4) else cs

/-- An address without its fragment, which the last hash starts. -/
def beforeFragment (address : List Char) : List Char :=
  if address.contains '#' then
    ((address.reverse.dropWhile fun c => c ≠ '#').drop 1).reverse
  else address

/-- Whether an address starts with a scheme. -/
def hasScheme (address : List Char) : Bool :=
  let located := beforeFragment address
  let scheme := located.takeWhile fun c => c ≠ '/' && c ≠ ':'
  !scheme.isEmpty && (located.drop scheme.length).head? == some ':'

/-- The request of a call. -/
def request (client : Client) (call : Call) : Result Request := do
  let address := bareAddress (client.root ++ call.path ++ queryString (← call.parameters))
  if hasScheme address then
    return {
      url := String.ofList address
      authorization := (client.token.filter fun token => !token.isEmpty).map ("Bearer " ++ ·) }
  else throw .unknownScheme

/-! ## Answers -/

variable [NestingLimits]

/-- The payload of an answer, which is an object. -/
def payload (call : Call) (body : ByteArray) : Result Json := do
  match ← Payload.decodeBytes body with
  | .object members => return .object members
  | _ => throw (.response (.bodyNotAnObject call.path))

def alerts (body : ByteArray) : Result (List Alert) := do
  Payload.alerts (← payload .alerts body)

def ruleGroup (name : String) (body : ByteArray) : Result (Option GroupSnapshot) := do
  return Payload.findGroup? name (← Payload.ruleGroups (← payload .ruleGroups body))

def query (expression : String) (time : Int) (body : ByteArray) : Result (List QuerySample) := do
  Payload.vector (← payload (.query expression time) body)

end Client

end AlertConformance
