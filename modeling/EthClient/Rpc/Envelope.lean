import EthClient.Error
import EthClient.Rpc.Call

/-! # Requests and responses of JSON-RPC 2.0

A request is the call behind an id. A response carries the id of its request and exactly one of a
result and an error; a null result is a result, a null error is none. `Answer.decoder` reads a
response: first its fields in document order, then the protocol version, then that exactly one
outcome is there.

The result of a response is kept as a document, since a value is built from it only later, where a
fault does not count against the other responses of a batch. -/

namespace EthClient

/-! ## Requests -/

/-- The JSON form of a request, members in the order in which they are written. -/
def Call.toRequest (c : Call) (id : Nat) : Json :=
  .object [("id", .nat id), ("jsonrpc", .string "2.0"), ("method", .string c.method),
    ("params", .array (c.params.map Param.toWire))]

/-- The JSON form of the request for a batch, whose elements have consecutive ids. -/
def BatchElem.toRequests (elems : List BatchElem) (first : Nat) : Json :=
  .array (elems.mapIdx fun i e => e.toCall.toRequest (first + i))

/-! ## Responses -/

/-- A response: the id of its request, and an error or a result that has not been read. -/
structure Answer where
  id : Nat
  outcome : Except RpcError Document

namespace Answer

/-- The fields of a response. -/
inductive Field where
  | version
  | id
  | result
  | error
  deriving DecidableEq

/-- A response while it is read. -/
structure Draft where
  version : Option String := none
  id : Option Nat := none
  result : Option Document := none
  error : Option RpcError := none

/-- The document of a result: JSON to its end, and text in all its bytes. -/
def result : Decoder Document := fun d =>
  if d.complete && d.decodable then .ok d else .error .shape

/-- How a response is read that stands `outer` arrays and objects deep. -/
def record (outer : Nat) : Record Field Draft where
  fields := [.version, .id, .result, .error]
  field?
    | "jsonrpc" => some .version
    | "id" => some .id
    | "result" => some .result
    | "error" => some .error
    | _ => none
  read
    | .version, d, r => return { r with version := some (← Decoder.verbatimText d) }
    | .id, d, r => return { r with id := some (← Decoder.nat64 d) }
    | .result, d, r => return { r with result := some (← result d) }
    | .error, d, r => return { r with error := ← Decoder.nullable (RpcError.decoder (outer + 1)) d }

/-- Reads a response that stands `outer` arrays and objects deep. -/
def decoder (outer : Nat) : Decoder Answer := fun d => do
  match ← (record outer).decode {} d with
  | ⟨some version, some id, result, error⟩ =>
    if version != "2.0" then throw (.version version)
    match result, error with
    | some doc, none => return ⟨id, .ok doc⟩
    | none, some e => return ⟨id, .error e⟩
    | _, _ => throw .resultAndError
  | _ => throw .shape

/-- The value of a result. -/
def value? (doc : Document) : Option Json := doc.toJson? Json.maxDepth

/-- The place in a batch of `count` elements with ids from `first` on that a response answers. -/
def place? (first count : Nat) (a : Answer) : Option Nat :=
  if first ≤ a.id && a.id - first < count then some (a.id - first) else none

end Answer

/-! ## Bodies -/

/-- The error of a body that is no response of the protocol. -/
def ProviderError.malformed (fault : Fault) (body : Bytes) : ProviderError :=
  .malformedResponse fault (Text.Utf8.lossy body)

/-- The outcome that the body of a response holds. The id is not looked at. -/
def decodeResponse (body : Bytes) : Except ProviderError Json :=
  match (Answer.decoder 0).runSymbols (Text.Utf8.symbols body) with
  | .error fault => .error (.malformed fault body)
  | .ok ⟨_, .error e⟩ => .error (.rpc e)
  | .ok ⟨_, .ok doc⟩ =>
    match Answer.value? doc with
    | some v => .ok v
    | none => .error (.malformed .shape body)

/-- The responses that the body for a batch holds, or the one error that a node rejects the whole
batch with. -/
def decodeAnswers (body : Bytes) : Except ProviderError (List Answer) :=
  let symbols := Text.Utf8.symbols body
  match (Decoder.list (Answer.decoder 1)).runSymbols symbols with
  | .ok answers => .ok answers
  | .error fault =>
    match (Answer.decoder 0).runSymbols symbols with
    | .ok ⟨_, .error e⟩ => .error (.rpc e)
    | _ => .error (.malformed fault body)

/-- Puts responses into the slots of the elements that they answer; the others are passed over. A
result that has no value ends it. -/
def fillSlots (first : Nat) : List Answer → List BatchElem → Except Fault (List BatchElem)
  | [], elems => .ok elems
  | a :: rest, elems =>
    match a.place? first elems.length with
    | none => fillSlots first rest elems
    | some i =>
      match a.outcome with
      | .error e => fillSlots first rest (elems.modify i fun elem => { elem with error := some e })
      | .ok doc =>
        match Answer.value? doc with
        | none => .error .shape
        | some v => fillSlots first rest (elems.modify i fun elem => { elem with result := some v })

/-- The batch with the slots that the body of its response fills; every element must be answered. -/
def decodeBatch (elems : List BatchElem) (first : Nat) (body : Bytes) :
    Except ProviderError (List BatchElem) := do
  let answers ← decodeAnswers body
  match fillSlots first answers (elems.map BatchElem.reset) with
  | .error fault => .error (.malformed fault body)
  | .ok filled =>
    match filled.find? fun e => e.result.isNone && e.error.isNone with
    | some e => .error (.transport s!"missing response for batch element `{e.method}`")
    | none => .ok filled

/-- The ids of the responses for a batch that answer none of its elements, up to a result that has
no value. -/
def strayIds (count first : Nat) (body : Bytes) : List Nat :=
  match decodeAnswers body with
  | .error _ => []
  | .ok answers =>
    let settled := answers.takeWhile fun a =>
      match a.place? first count, a.outcome with
      | some _, .ok doc => (Answer.value? doc).isSome
      | _, _ => true
    (settled.filter fun a => (a.place? first count).isNone).map (·.id)

end EthClient
