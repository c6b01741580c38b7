import EthClient.Error
import EthClient.Transaction.Type

/-! # The journal

What the client reports while it works. An `Event` is one report; it is made inside the spans that
are open at the time, and a span is open around every call that a logging layer sees. Besides events
the journal holds the passages that tracing layers note. -/

namespace EthClient

/-- How important an event is. -/
inductive Severity where
  | trace
  | debug
  deriving DecidableEq

/-- A report. -/
inductive Event where
  /-- The envelope of a transaction has been chosen, for a latest block with or without a base
  fee. -/
  | resolvedType (type : TxType) (baseFee : Option Amount)
  /-- The pending nonce could not be read. -/
  | pendingNonceUnavailable (error : ProviderError)
  | signingTransaction (sender : Address) (chainId : Number64)
  /-- The registry has no signer for the sender. -/
  | noSigner (sender : Address)
  | sendingCall
  | sendingBatch (size : Nat)
  | succeeded
  | failed (error : ProviderError)
  /-- The caller gave up, so no further attempt is made. -/
  | callerCancelled (attempts : Nat) (error : ProviderError)
  /-- The attempts or the time of the caller are used up. -/
  | givingUp (attempts : Nat) (error : ProviderError)
  /-- Another attempt is made after `interval` milliseconds. -/
  | retrying (attempt interval : Nat) (error : ProviderError)
  /-- A response in a batch answers no element of it. -/
  | unmatchedResponse (id : Nat)
  | connecting (url : String)

/-- The name of a severity. -/
def Severity.name : Severity → String
  | .trace => "trace"
  | .debug => "debug"

/-- What goes on around an event. -/
inductive Span where
  | call (method : String)
  | batch (methods : List String)

/-- The JSON form of a span. -/
def Span.toJson : Span → Json
  | .call method => .object [("method", .string method), ("span", .string "rpc")]
  | .batch methods =>
    .object [("batch", .string (Text.quotedList methods)), ("span", .string "rpc")]

/-- A line of the journal. -/
inductive Entry where
  /-- An event inside some spans, the outermost first. -/
  | event (e : Event) (within : List Span)
  /-- A call or batch enters a tracing layer. -/
  | enters (layer subject : String)
  /-- It leaves the layer again, with or without an error. -/
  | leaves (layer : String) (error : Option ProviderError)

/-- How a time in milliseconds is shown: in seconds from one second on, without zeros at the end. -/
def shownDuration (ms : Nat) : String :=
  if ms == 0 then "0ns"
  else if ms < 1000 then toString ms ++ "ms"
  else
    let part := ms % 1000
    let digits := [part / 100, part / 10 % 10, part % 10].reverse.dropWhile (· == 0) |>.reverse
    let fraction := digits.map fun d => Char.ofNat (48 + d)
    toString (ms / 1000) ++ (if fraction.isEmpty then "" else "." ++ String.ofList fraction) ++ "s"

namespace Event

/-- How important an event is. -/
def severity : Event → Severity
  | .resolvedType .. | .sendingCall | .sendingBatch _ | .succeeded | .retrying .. => .trace
  | _ => .debug

/-- The wording of an event. -/
def message : Event → String
  | .resolvedType .. => "resolved transaction type"
  | .pendingNonceUnavailable _ => "pending nonce unavailable, falling back to latest"
  | .signingTransaction .. => "signing transaction"
  | .noSigner _ => "no signer registered for sender"
  | .sendingCall => "sending rpc call"
  | .sendingBatch _ => "sending rpc batch"
  | .succeeded => "rpc call succeeded"
  | .failed _ => "rpc call failed"
  | .callerCancelled .. => "caller cancelled, not retrying"
  | .givingUp .. => "giving up"
  | .retrying _ interval _ => "retrying after " ++ shownDuration interval
  | .unmatchedResponse _ => "ignoring unmatched batch response"
  | .connecting _ => "connecting"

/-- How an error is shown in a field of an event. -/
def shownError (e : ProviderError) : Json := .string (e.message?.getD "")

/-- The fields of an event. -/
def fields : Event → List (String × Json)
  | .resolvedType type baseFee =>
    let shown := match baseFee with
      | some fee => "Some(" ++ fee.toDecimal ++ ")"
      | none => "None"
    [("tx_type", .string type.toText), ("base_fee", .string shown)]
  | .pendingNonceUnavailable error => [("err", shownError error)]
  | .signingTransaction sender chainId =>
    [("from", .string sender.toText), ("chain_id", .string chainId.toDecimal)]
  | .noSigner sender => [("from", .string sender.toText)]
  | .sendingBatch size => [("size", .nat size)]
  | .failed error =>
    [("err", shownError error), ("retryable", .bool error.isRetryable),
      ("revert", .bool (error.response?.any RpcError.isRevert))]
  | .callerCancelled attempts error | .givingUp attempts error =>
    [("attempts", .nat attempts), ("err", shownError error)]
  | .retrying attempt _ error => [("attempt", .nat attempt), ("err", shownError error)]
  | .unmatchedResponse id => [("id", .nat id)]
  | .connecting url => [("url", .string url)]
  | .sendingCall | .succeeded => []

/-- The JSON form of an event inside some spans. -/
def toJson (e : Event) (within : List Span) : Json :=
  Json.ofMembers <|
    [("level", .string e.severity.name), ("message", .string e.message)] ++ e.fields ++
    if within.isEmpty then [] else [("in", .array (within.map Span.toJson))]

end Event

end EthClient
