import EthClient.Provider.Pipeline

/-! # Retrying

A `Retry` makes a call again, at most `maxAttempts` times in all, with a pause of `interval`
milliseconds between attempts; a batch is made again as a whole. Which errors are worth another
attempt is up to its policy, and every attempt is given the same call.

Where a context bounds the call, no attempt is made once the context is over: if it was cancelled
the outcome is `ProviderError.cancelled`, and if its time is up the attempts count as exhausted. -/

namespace EthClient

/-- How often, after which pause and after which errors a call is made again. -/
structure Retry where
  maxAttempts : Nat
  /-- The pause between attempts, in milliseconds. -/
  interval : Nat
  /-- Whether an error is worth another attempt. -/
  policy : ProviderError → Bool
  /-- There is at least one attempt. -/
  one_le : 1 ≤ maxAttempts

namespace Retry

/-- At most `attempts` attempts, and at least one. -/
def ofAttempts (attempts interval : Nat) (policy : ProviderError → Bool) : Retry where
  maxAttempts := max attempts 1
  interval
  policy
  one_le := Nat.le_max_right attempts 1

variable {σ α : Type}

/-- Makes one attempt, and up to `left` further ones; `made` were made before. -/
def run (r : Retry) (ctx : Option Context) (attempt : Attempt σ α) :
    (left made : Nat) → Action σ (Except ProviderError α)
  | left, made => do
    match ← attempt.run with
    | .ok a => return .ok a
    | .error e =>
      if !r.policy e then return .error e
      if ctx.any (← get).isCancelled then
        report (.callerCancelled (made + 1) e)
        return .error .cancelled
      let giveUp : Action σ (Except ProviderError α) := do
        report (.givingUp (made + 1) e)
        return .error (.retriesExhausted (made + 1) e)
      match left with
      | 0 => giveUp
      | left + 1 =>
        if ctx.any (← get).isDone then giveUp
        else
          report (.retrying (made + 1) r.interval e)
          match ← wait ctx r.interval with
          | .ok () => r.run ctx attempt left (made + 1)
          | .error .cancelled => return .error .cancelled
          | .error .deadlineExceeded => return .error (.retriesExhausted (made + 1) e)

/-- The layer that retries. -/
def layer (r : Retry) : Layer σ := fun s next input =>
  ExceptT.mk (r.run (s.context? input) (next input) (r.maxAttempts - 1) 0)

end Retry

/-- A provider with one layer around it that retries. -/
def Provider.retrying {σ : Type} (inner : Provider σ) (r : Retry) : Provider σ :=
  ((Pipeline.ofProvider inner).layer r.layer).toProvider

end EthClient
