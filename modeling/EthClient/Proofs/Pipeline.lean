import EthClient.Client

/-! # What a pipeline does with its layers

A layer that is registered adds one hook to every shape (**`Pipeline.hooks_layer`**), and the
handler of a shape is always the fold of the hooks of this shape around the inner handler
(**`Pipeline.handler_layer`**). So the handlers of the stacks that are used can be written down:
signing alone (**`Provider.handle_signing`**), retrying alone (**`Provider.handle_retrying`**), and
the layers of a client, which retries what is beneath (**`Client.handle_ofTransport_eq_retrying`**,
**`Client.handle_ofTransport`**). -/

namespace EthClient

variable {σ : Type}

namespace Pipeline

/-- **A layer is one more hook for every shape**, behind those that are there. -/
theorem hooks_layer (p : Pipeline σ) (l : Layer σ) (s : Shape) :
    (p.layer l).hooks s = p.hooks s ++ [l s] := by
  cases s <;> simp [layer, Shape.all, register, Shape.update]

/-- **The handler after a layer was registered** is the fold of all hooks. -/
theorem handler_layer (p : Pipeline σ) (l : Layer σ) (s : Shape) :
    (p.layer l).handler s = fold (p.hooks s ++ [l s]) (p.inner.handle s) := by
  cases s <;> simp [layer, Shape.all, register, Shape.update]

/-- A pipeline answers with its handler, unless nothing is asked for. -/
theorem handle_toProvider (p : Pipeline σ) (s : Shape) (input : s.Input) :
    p.toProvider.handle s input
      = if s.isVacant input then throw .emptyBatch else p.handler s input := rfl

end Pipeline

/-- **The handler of a provider that signs**: the signing layer in front of the inner provider. -/
theorem Provider.handle_signing (p : Provider σ) (registry : Registry) (s : Shape)
    (input : s.Input) :
    (p.signing registry).handle s input
      = if s.isVacant input then throw .emptyBatch
        else (SigningLayer.mk p registry).layer s (p.handle s) input := by
  rw [signing, Pipeline.handle_toProvider, Pipeline.handler_layer]
  rfl

/-- **The handler of a provider that retries**: the layer in front of the provider. -/
theorem Provider.handle_retrying (p : Provider σ) (r : Retry) (s : Shape) (input : s.Input) :
    (p.retrying r).handle s input
      = if s.isVacant input then throw .emptyBatch else r.layer s (p.handle s) input := by
  rw [retrying, Pipeline.handle_toProvider, Pipeline.handler_layer]
  rfl

/-- How a client retries. -/
def ClientOption.retry (o : ClientOption) : Retry :=
  .ofAttempts o.retryCount o.retryInterval.ticks ProviderError.isRetryable

namespace Client

/-- A client without retrying: signing if there is a registry, in front of reports if they are
wanted, and the timeout innermost. -/
def beneath (transport : Provider σ) (o : ClientOption) : Provider σ :=
  let timed := transport.withTimeout o.requestTimeout.ticks
  { timed with
    handle := fun s =>
      let reported := if o.logging then logging s (timed.handle s) else timed.handle s
      match o.registry with
      | some registry => (SigningLayer.mk timed registry).layer s reported
      | none => reported }

/-- The layers of a client around a provider, without a timeout of their own. -/
def layered (inner : Provider σ) (o : ClientOption) : Client σ :=
  let pipeline := (Pipeline.ofProvider inner).layer o.retry.layer
  let pipeline := match o.registry with
    | some registry => pipeline.layer (SigningLayer.mk inner registry).layer
    | none => pipeline
  let pipeline := if o.logging then pipeline.layer logging else pipeline
  ⟨pipeline, o.registry⟩

/-- A client has them around its transport with the timeout. -/
theorem ofTransport_eq_layered (transport : Provider σ) (o : ClientOption) :
    ofTransport transport o = layered (transport.withTimeout o.requestTimeout.ticks) o := rfl

/-- **The handler of such layers**: retrying in front of signing, if there is a registry, and
signing in front of reports, if they are wanted. -/
theorem handle_layered (inner : Provider σ) (o : ClientOption) (s : Shape) (input : s.Input) :
    (layered inner o).toProvider.handle s input
      = if s.isVacant input then throw .emptyBatch
        else
          let reported := if o.logging then logging s (inner.handle s) else inner.handle s
          o.retry.layer s (match o.registry with
            | some registry => (SigningLayer.mk inner registry).layer s reported
            | none => reported) input := by
  rw [toProvider, Pipeline.handle_toProvider, layered]
  dsimp only
  split
  · rfl
  · cases o.registry with
    | some registry =>
      by_cases hl : o.logging = true
      · rw [if_pos hl, if_pos hl, Pipeline.handler_layer, Pipeline.hooks_layer,
          Pipeline.hooks_layer]
        rfl
      · rw [if_neg hl, if_neg hl, Pipeline.handler_layer, Pipeline.hooks_layer]
        rfl
    | none =>
      by_cases hl : o.logging = true
      · rw [if_pos hl, if_pos hl, Pipeline.handler_layer, Pipeline.hooks_layer]
        rfl
      · rw [if_neg hl, if_neg hl, Pipeline.handler_layer]
        rfl

/-- **A client retries what is beneath.** -/
theorem handle_ofTransport_eq_retrying (transport : Provider σ) (o : ClientOption) :
    (ofTransport transport o).toProvider.handle
      = ((beneath transport o).retrying o.retry).handle := by
  funext s input
  rw [ofTransport_eq_layered, handle_layered, Provider.handle_retrying]
  rfl

/-- **The handler of a client with a registry**: retrying in front of signing, signing in front of
reports if there are any, and the timeout innermost. -/
theorem handle_ofTransport (transport : Provider σ) (o : ClientOption)
    {registry : Registry} (hr : o.registry = some registry) (s : Shape) (input : s.Input) :
    (ofTransport transport o).toProvider.handle s input
      = if s.isVacant input then throw .emptyBatch
        else
          let timed := transport.withTimeout o.requestTimeout.ticks
          let retry := Retry.ofAttempts o.retryCount o.retryInterval.ticks ProviderError.isRetryable
          let signing := SigningLayer.mk timed registry
          retry.layer s (signing.layer s
            (if o.logging then logging s (timed.handle s) else timed.handle s)) input := by
  rw [handle_ofTransport_eq_retrying, Provider.handle_retrying, beneath, hr]
  rfl

end Client

end EthClient
