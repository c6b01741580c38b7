import EthClient.Provider.Basic

/-! # Scripted nodes

A `ScriptedNode` answers calls from queues of prepared responses, one queue per method, and keeps a
record of what it was asked.

Every subscription has a channel, and for every topic the node keeps the places of the channels that
it sends notifications to. A subscriber who takes no more stays among them until the next
notification of the topic finds this out, and the end of the connection forgets all of them. What a
channel holds by then can still be received. -/

namespace EthClient

/-- A prepared response. -/
inductive Response where
  | value (v : Json)
  | error (e : RpcError)
  /-- The node cannot be reached. -/
  | failure (reason : String)

/-- The channel of one subscription. -/
structure Channel where
  topic : String
  /-- The notifications that were sent and have not been received. -/
  waiting : List Json := []
  /-- Whether the subscriber takes further notifications. -/
  taking : Bool := true

/-- Sends a notification, unless the subscriber takes no more. -/
def Channel.send (c : Channel) (value : Json) : Channel :=
  if c.taking then { c with waiting := c.waiting ++ [value] } else c

/-- A node that answers from queues. -/
structure ScriptedNode where
  /-- The prepared responses for each method. -/
  queue : String → List Response := fun _ => []
  /-- What the node was asked, the earliest first. -/
  requests : List Call := []
  /-- The channels of all subscriptions, the earliest first. -/
  channels : List Channel := []
  /-- The places of the channels that the notifications of each topic are sent to. -/
  senders : String → List Nat := fun _ => []

/-- What a subscriber receives. -/
inductive Received where
  | item (value : Json)
  /-- Nothing yet. -/
  | pending
  /-- Nothing any more. -/
  | ended

namespace ScriptedNode

/-! ## Responses -/

/-- Puts a response behind the others for a method. -/
def push (n : ScriptedNode) (method : String) (r : Response) : ScriptedNode :=
  { n with queue := fun m => if m == method then n.queue m ++ [r] else n.queue m }

/-- The outcome of a call that is given a response, or none. -/
def outcome (method : String) : Option Response → Except ProviderError Json
  | some (.value v) => .ok v
  | some (.error e) => .error (.rpc e)
  | some (.failure reason) => .error (.transport reason)
  | none => .error (.transport s!"no mock response queued for `{method}`")

/-- Takes a call: the first response for its method is its outcome. -/
def respond (n : ScriptedNode) (c : Call) : Except ProviderError Json × ScriptedNode :=
  (outcome c.method (n.queue c.method).head?,
    { n with
      queue := fun m => if m == c.method then (n.queue m).tail else n.queue m
      requests := n.requests ++ [c] })

/-- Takes the elements of a batch one after the other. An error answer goes into the slot of its
element; any other failure ends the batch. -/
def respondEach (n : ScriptedNode) :
    List BatchElem → Except ProviderError (List BatchElem) × ScriptedNode
  | [] => (.ok [], n)
  | e :: rest =>
    let (outcome, n) := n.respond e.toCall
    let filled : Except ProviderError BatchElem :=
      match outcome with
      | .ok v => .ok { e.reset with result := some v }
      | .error (.rpc err) => .ok { e.reset with error := some err }
      | .error err => .error err
    match filled with
    | .error err => (.error err, n)
    | .ok elem =>
      match n.respondEach rest with
      | (.ok elems, n) => (.ok (elem :: elems), n)
      | (.error err, n) => (.error err, n)

/-- Takes a batch, which must have elements. -/
def respondBatch (n : ScriptedNode) (elems : List BatchElem) :
    Except ProviderError (List BatchElem) × ScriptedNode :=
  if elems.isEmpty then (.error .emptyBatch, n) else n.respondEach elems

/-! ## Subscriptions -/

/-- Opens a channel for the notifications of a topic. -/
def subscribe (n : ScriptedNode) (topic : String) (params : List Param) :
    Subscription × ScriptedNode :=
  let place := n.channels.length
  (⟨(Quantity.ofNat (place + 1) : Number64).toText, place⟩,
    { n with
      requests := n.requests ++ [⟨topic ++ "_subscribe", params⟩]
      channels := n.channels ++ [{ topic }]
      senders := fun t => if t == topic then n.senders t ++ [place] else n.senders t })

/-- Whether the subscriber of a channel takes further notifications. -/
def takes (n : ScriptedNode) (place : Nat) : Bool := n.channels[place]?.any (·.taking)

/-- Sends a notification to the channels of a topic, and keeps those whose subscribers took it. -/
def notify (n : ScriptedNode) (topic : String) (value : Json) : ScriptedNode :=
  { n with
    channels := (n.senders topic).foldl (fun cs place => cs.modify place (·.send value)) n.channels
    senders := fun t => if t == topic then (n.senders t).filter n.takes else n.senders t }

/-- Takes no more notifications. -/
def unsubscribe (n : ScriptedNode) (s : Subscription) : ScriptedNode :=
  { n with channels := n.channels.modify s.channel fun c => { c with taking := false } }

/-- Forgets where notifications are sent to. -/
def close (n : ScriptedNode) : ScriptedNode := { n with senders := fun _ => [] }

/-- Receives the next notification of a channel. If nothing is waiting there, something may come as
long as the subscriber takes it and the node sends to the channel. -/
def receive (n : ScriptedNode) (s : Subscription) : Received × ScriptedNode :=
  match n.channels[s.channel]? with
  | none => (.ended, n)
  | some c =>
    match c.waiting with
    | value :: rest =>
      (.item value, { n with channels := n.channels.set s.channel { c with waiting := rest } })
    | [] => (if c.taking && s.channel ∈ n.senders c.topic then .pending else .ended, n)

end ScriptedNode

/-! ## The provider -/

/-- Runs a step of the node. -/
def Env.atNode {σ α : Type} (step : σ → α × σ) : Action σ α := fun env =>
  let (a, node) := step env.node
  (a, { env with node })

/-- The provider whose node is scripted and answers after some milliseconds. A call whose context is
over by then does not reach the node. -/
def Provider.scripted (latency : Nat) : Provider ScriptedNode where
  handle
    | .call, c => do
      waitIn none latency
      ExceptT.mk (Env.atNode (·.respond c))
    | .callContext, (ctx, c) => do
      waitIn (some ctx) latency
      ExceptT.mk (Env.atNode (·.respond c))
    | .batch, elems => do
      waitIn none latency
      ExceptT.mk (Env.atNode (·.respondBatch elems))
    | .batchContext, (ctx, elems) => do
      waitIn (some ctx) latency
      ExceptT.mk (Env.atNode (·.respondBatch elems))
  subscribe _ topic params := ExceptT.lift (Env.atNode (·.subscribe topic params))
  close := ExceptT.lift (Env.atNode fun n => ((), n.close))

end EthClient
