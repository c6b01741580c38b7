import EthClient.Provider.Basic

/-! # Layers that observe, answer or rename

* `logging` reports what is sent and how it ends, inside a span;
* `tracing` notes in the journal when a call enters and when it leaves;
* `passing` hands every call on as it is;
* `renamingBatches` gives every element of a batch another method;
* `answering` and `failing` end a call without handing it on. -/

namespace EthClient

variable {σ : Type}

/-- The event that is reported before a call is handed on. -/
def Shape.announcement : (s : Shape) → s.Input → Event
  | .call, _ => .sendingCall
  | .callContext, _ => .sendingCall
  | .batch, elems => .sendingBatch elems.length
  | .batchContext, (_, elems) => .sendingBatch elems.length

/-- Reports every call and its outcome. -/
def logging : Layer σ := fun s next input =>
  ExceptT.mk <| inSpan (s.span input) do
    report (s.announcement input)
    let result ← (next input).run
    match result with
    | .ok _ => report .succeeded
    | .error e => report (.failed e)
    return result

/-- What a tracing layer notes of a call: its methods, and for a single call whether its context has
a deadline and whether it is cancelled. -/
def Shape.subject (env : Env σ) : (s : Shape) → s.Input → String
  | .callContext, (ctx, c) =>
    c.method ++ (if ctx.deadline.isSome then " deadline" else "") ++
      (if env.isCancelled ctx then " cancelled" else "")
  | s, input => String.intercalate "," (s.methods input)

/-- Notes every call when it enters and when it leaves. -/
def tracing (name : String) : Layer σ := fun s next input =>
  ExceptT.mk do
    note (.enters name (s.subject (← get) input))
    let result ← (next input).run
    match result with
    | .ok _ => note (.leaves name none)
    | .error e => note (.leaves name (some e))
    return result

/-- Hands every call on as it is. -/
def passing : Layer σ := fun _ next => next

/-- Gives every element of a batch that has no context another method. -/
def renamingBatches (method : String) : Layer σ
  | .batch, next => fun elems => next (elems.map fun e => { e with method })
  | _, next => next

/-- Answers a call with a value. -/
def answering (value : Json) : Handler σ .call → Handler σ .call := fun _ _ => pure value

/-- Fails a call. -/
def failing (e : ProviderError) : Handler σ .call → Handler σ .call := fun _ _ => throw e

end EthClient
