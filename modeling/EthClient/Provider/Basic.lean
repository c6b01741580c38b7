import EthClient.Env
import EthClient.Rpc.Call

/-! # Providers

A `Provider` takes calls to a node, either itself or by handing them on to another provider. Calls
come in four **shapes**: one call or a batch, with or without the context of a caller. A `Handler`
answers one shape, so a provider has a handler per shape; a `Layer` turns a handler of any shape
into another one. -/

namespace EthClient

/-! ## Shapes -/

/-- What is asked for at once, and whether a context bounds it. -/
inductive Shape where
  | call
  | callContext
  | batch
  | batchContext
  deriving DecidableEq

namespace Shape

/-- All shapes. -/
def all : List Shape := [.call, .callContext, .batch, .batchContext]

/-- The name of a shape. -/
def name : Shape → String
  | .call => "Call"
  | .callContext => "CallContext"
  | .batch => "BatchCall"
  | .batchContext => "BatchCallContext"

/-- What a handler of the shape is given. -/
abbrev Input : Shape → Type
  | .call => Call
  | .callContext => Context × Call
  | .batch => List BatchElem
  | .batchContext => Context × List BatchElem

/-- What a handler of the shape answers. -/
abbrev Output : Shape → Type
  | .call | .callContext => Json
  | .batch | .batchContext => List BatchElem

/-- The context of the caller, if the shape has one. -/
def context? : (s : Shape) → s.Input → Option Context
  | .call, _ => none
  | .callContext, (ctx, _) => some ctx
  | .batch, _ => none
  | .batchContext, (ctx, _) => some ctx

/-- The methods that are called. -/
def methods : (s : Shape) → s.Input → List String
  | .call, c => [c.method]
  | .callContext, (_, c) => [c.method]
  | .batch, elems => elems.map (·.method)
  | .batchContext, (_, elems) => elems.map (·.method)

/-- Whether nothing at all is asked for, as in a batch without elements. -/
def isVacant : (s : Shape) → s.Input → Bool
  | .call, _ => false
  | .callContext, _ => false
  | .batch, elems => elems.isEmpty
  | .batchContext, (_, elems) => elems.isEmpty

/-- The span around what is asked for. -/
def span : (s : Shape) → s.Input → Span
  | .call, c => .call c.method
  | .callContext, (_, c) => .call c.method
  | .batch, elems => .batch (elems.map (·.method))
  | .batchContext, (_, elems) => .batch (elems.map (·.method))

end Shape

/-! ## Handlers and providers -/

/-- Answers one shape of calls. -/
abbrev Handler (σ : Type) (s : Shape) := s.Input → Attempt σ s.Output

/-- Turns handlers into other ones, for every shape. -/
abbrev Layer (σ : Type) := (s : Shape) → Handler σ s → Handler σ s

/-- A stream of notifications, by the place of its channel at the transport. -/
structure Subscription where
  id : String
  channel : Nat

/-- Takes calls to a node. -/
structure Provider (σ : Type) where
  /-- Answers calls of each shape. -/
  handle : (s : Shape) → Handler σ s
  /-- Opens a stream of notifications. -/
  subscribe : Context → String → List Param → Attempt σ Subscription
  /-- Gives the connection up. -/
  close : Attempt σ Unit

namespace Provider

variable {σ : Type}

/-- Makes one call, bounded by a context if there is one. -/
def call (p : Provider σ) (ctx : Option Context) (c : Call) : Attempt σ Json :=
  match ctx with
  | none => p.handle .call c
  | some ctx => p.handle .callContext (ctx, c)

/-- Makes a batch of calls, bounded by a context if there is one. -/
def batch (p : Provider σ) (ctx : Option Context) (elems : List BatchElem) :
    Attempt σ (List BatchElem) :=
  match ctx with
  | none => p.handle .batch elems
  | some ctx => p.handle .batchContext (ctx, elems)

end Provider

/-- A value that was decoded, or the error of a call that was not answered with such a value. -/
def ProviderError.ofDecoded {α : Type} : Except Fault α → Except ProviderError α
  | .ok a => .ok a
  | .error fault => .error (.decode fault)

namespace Provider

variable {σ : Type}

/-- Makes one call and decodes the answer. -/
def request {α : Type} (p : Provider σ) (ctx : Option Context) (c : Call) (d : Decoder α) :
    Attempt σ α := do
  let value ← p.call ctx c
  .ofExcept (ProviderError.ofDecoded (d.runJson value))

end Provider

/-- The outcome of an element of a batch as a value: the error answer of the node, or the decoded
result. An element without either has the result null. -/
def BatchElem.decode {α : Type} (e : BatchElem) (d : Decoder α) : Except ProviderError α :=
  match e.error with
  | some err => .error (.rpc err)
  | none => ProviderError.ofDecoded (d.runJson (e.result.getD .null))

end EthClient
