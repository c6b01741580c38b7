import EthClient.Duration
import EthClient.Provider.Observing
import EthClient.Provider.Retry
import EthClient.Provider.Signing
import EthClient.Provider.Timeout
import EthClient.Transport.Http

/-! # The client

A `Client` is a provider with the usual layers around a transport: calls go through retrying, then
through signing where there is a registry, then through logging, and each attempt has its own
timeout at the transport.

Pauses and timeouts are given as durations. To the timer they are as many milliseconds as they take
(`Duration.ticks`), so a timeout is told from a latency only by the millisecond at which it is up
(`Duration.Told`), and it can always be set, because a `Duration` leaves room for the deadline on
the clock. -/

namespace EthClient

/-- How a client is set up. -/
structure ClientOption where
  /-- How often a call is made at most, the first time included. -/
  retryCount : Nat := 1
  /-- The pause between attempts; a number stands for milliseconds. -/
  retryInterval : Duration := 1000
  /-- How long an attempt may take; a number stands for milliseconds. -/
  requestTimeout : Duration := 30000
  /-- Whether calls are reported. -/
  logging : Bool := true
  /-- The signers of outgoing transactions; without them transactions are sent unsigned. -/
  registry : Option Registry := none
  authorization : Option Authorization := none

/-- Why a client cannot be had. -/
inductive ClientError where
  | url (e : UrlError)
  | http (e : HttpError)
  /-- The client has no registry. -/
  | registryNotFound

/-- The wording of an error. -/
def ClientError.message : ClientError → String
  | .url e => e.message
  | .http e => e.message
  | .registryNotFound => "signer registry not found"

/-- A provider with the usual layers. -/
structure Client (σ : Type) where
  pipeline : Pipeline σ
  registry : Option Registry

namespace Client

variable {σ : Type}

/-- The client around a transport. -/
def ofTransport (transport : Provider σ) (o : ClientOption) : Client σ :=
  let timed := transport.withTimeout o.requestTimeout.ticks
  let retry := Retry.ofAttempts o.retryCount o.retryInterval.ticks ProviderError.isRetryable
  let pipeline := (Pipeline.ofProvider timed).layer retry.layer
  let pipeline := match o.registry with
    | some registry => pipeline.layer (SigningLayer.mk timed registry).layer
    | none => pipeline
  let pipeline := if o.logging then pipeline.layer logging else pipeline
  ⟨pipeline, o.registry⟩

/-- The signers of the client. -/
def signers (c : Client σ) : Except ClientError Registry :=
  match c.registry with
  | some registry => .ok registry
  | none => .error .registryNotFound

/-- The client as a provider. -/
def toProvider (c : Client σ) : Provider σ := c.pipeline.toProvider

/-- The connection that a client for a URL is made around. -/
def connection (url : String) (o : ClientOption) : Except ClientError Http :=
  match Url.ofText url with
  | .error e => .error (.url e)
  | .ok parsed =>
    match Http.configured parsed o.authorization with
    | .error e => .error (.http e)
    | .ok h => .ok h

/-- The client for a node at a URL. -/
def connect {ν : Type} (network : Network ν) (url : String) (o : ClientOption) :
    Action (HttpState ν) (Except ClientError (Client (HttpState ν))) :=
  match connection url o with
  | .error e => return .error e
  | .ok h => do
    report (.connecting h.url.toText)
    return .ok (ofTransport (Provider.http h network) o)

end Client

end EthClient
