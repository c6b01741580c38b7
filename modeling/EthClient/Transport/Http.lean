import EthClient.Provider.Basic
import EthClient.Rpc.Envelope
import EthClient.Transport.Authorization
import EthClient.Url.Basic

/-! # HTTP

`Provider.http` sends every call as the body of a request and reads the outcome from the body of the
answer. Requests are numbered from one on, and the elements of a batch take consecutive numbers.

How a request gets to a server and back is up to a `Network`: it says how long an exchange takes and
which bytes come back, if any do. A caller whose context ends in the meantime does not wait for
them; a context that is over beforehand sends nothing and takes no number. -/

namespace EthClient

/-- A request to a server: a JSON body for a URL. -/
structure HttpRequest where
  url : Url
  /-- The value of the `Authorization` header. -/
  authorization : Option String
  body : String

/-- What an exchange comes to. -/
structure Exchange where
  /-- How long it takes, in milliseconds. -/
  duration : Nat
  /-- The body of the answer, unless the exchange fails. -/
  body : Option Bytes

/-- Where requests go: the outcome of an exchange, from the state of the network. -/
abbrev Network (ν : Type) := HttpRequest → ν → Exchange × ν

/-- The far end of a connection: the number of the next request, and the network. -/
structure HttpState (ν : Type) where
  nextId : Nat := 1
  network : ν

/-- A connection over HTTP. -/
structure Http where
  url : Url
  authorization : Option String := none

/-- Why a connection cannot be set up. -/
inductive HttpError where
  /-- The authorization is no header value. -/
  | invalidHeader
  deriving DecidableEq

/-- The wording of an error. -/
def HttpError.message : HttpError → String
  | .invalidHeader => "failed to parse header value"

namespace Http

/-- A connection to a URL, with an authorization if one is given. -/
def configured (url : Url) (auth : Option Authorization) : Except HttpError Http :=
  match auth with
  | none => .ok { url }
  | some a =>
    if Authorization.isHeaderValue a.toText then .ok { url, authorization := some a.toText }
    else .error .invalidHeader

variable {ν : Type}

/-- Takes `count` numbers and exchanges the request that the first of them makes. -/
def exchange (h : Http) (network : Network ν) (count : Nat) (body : Nat → Json) :
    Action (HttpState ν) (Nat × Exchange) := fun env =>
  let first := env.node.nextId
  let (found, after) := network ⟨h.url, h.authorization, (body first).render⟩ env.node.network
  ((first, found), { env with node := ⟨first + count, after⟩ })

/-- Sends a request and waits for the body of its answer. -/
def send (h : Http) (network : Network ν) (ctx : Option Context) (count : Nat)
    (body : Nat → Json) : Attempt (HttpState ν) (Nat × Bytes) := do
  let (first, found) ← h.exchange network count body
  waitIn ctx found.duration
  match found.body with
  | some bytes => return (first, bytes)
  | none => throw .http

/-- Makes one call. -/
def call (h : Http) (network : Network ν) (ctx : Option Context) (c : Call) :
    Attempt (HttpState ν) Json := do
  waitIn ctx 0
  let (_, body) ← h.send network ctx 1 c.toRequest
  .ofExcept (decodeResponse body)

/-- Makes a batch of calls, which must have elements. -/
def batch (h : Http) (network : Network ν) (ctx : Option Context) (elems : List BatchElem) :
    Attempt (HttpState ν) (List BatchElem) := do
  waitIn ctx 0
  if elems.isEmpty then throw .emptyBatch
  let (first, body) ← h.send network ctx elems.length (BatchElem.toRequests elems)
  for id in strayIds elems.length first body do
    (report (.unmatchedResponse id) : Action (HttpState ν) Unit)
  .ofExcept (decodeBatch elems first body)

end Http

/-- The provider that makes its calls over HTTP. There are no subscriptions over HTTP. -/
def Provider.http {ν : Type} (h : Http) (network : Network ν) : Provider (HttpState ν) where
  handle
    | .call, c => h.call network none c
    | .callContext, (ctx, c) => h.call network (some ctx) c
    | .batch, elems => h.batch network none elems
    | .batchContext, (ctx, elems) => h.batch network (some ctx) elems
  subscribe _ _ _ := throw (.unsupported "subscriptions over HTTP")
  close := pure ()

end EthClient
