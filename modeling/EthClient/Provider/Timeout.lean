import EthClient.Provider.Basic

/-! # Timeouts

A provider that bounds the calls which come without a context: each of them is made in a context of
its own that is over after some time. Calls that come with a context keep it. -/

namespace EthClient

variable {σ α : Type}

/-- Does something in a new context that is over after some milliseconds, and cancels the context
afterwards. -/
def bounded (ms : Nat) (act : Context → Attempt σ α) : Attempt σ α :=
  ExceptT.mk do
    let ctx ← Context.unbounded.withTimeout ms
    let result ← (act ctx).run
    ctx.cancel
    return result

/-- A provider whose calls without a context take at most `ms` milliseconds each. -/
def Provider.withTimeout (inner : Provider σ) (ms : Nat) : Provider σ where
  handle
    | .call, c => bounded ms fun ctx => inner.handle .callContext (ctx, c)
    | .callContext, input => inner.handle .callContext input
    | .batch, elems => bounded ms fun ctx => inner.handle .batchContext (ctx, elems)
    | .batchContext, input => inner.handle .batchContext input
  subscribe := inner.subscribe
  close := inner.close

end EthClient
