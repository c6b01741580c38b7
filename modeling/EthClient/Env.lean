import EthClient.Journal

/-! # Time, contexts and actions

An `Action σ α` runs in an environment `Env σ` and gives a result and the environment afterwards.
The environment holds the time in milliseconds, which scopes have been cancelled, the journal, and
the state `σ` of the node at the far end, which the library never looks into.

A `Context` bounds calls: by a deadline, and by the scopes it lies in. A child lies in its own scope
and in those of its parent, so cancelling the parent cancels the child and not the other way around.

A unit of time is a millisecond of the clock, because timers go off at whole milliseconds only. A
length of time that is given more finely has been rounded up to them (`Duration.ticks`). Instants
are taken as unbounded: a deadline is an instant whatever it is, as it is for every `Duration`
before half of a clock with 64 bits has run out.

Time moves only in `wait`. A wait inside a context ends early at the deadline or when the context is
cancelled; of things that happen at the same instant the deadline comes before the end of the wait,
and both come before a cancellation that was set for this instant. -/

namespace EthClient

/-- What bounds a call: the scopes it lies in, its own one first, and a deadline. -/
structure Context where
  scopes : List Nat
  deadline : Option Nat
  deriving DecidableEq

/-- The context that nothing bounds. -/
def Context.unbounded : Context := ⟨[], none⟩

/-- The environment of an action. -/
structure Env (σ : Type) where
  /-- The time in milliseconds. -/
  now : Nat := 0
  /-- The scopes that have been cancelled. -/
  cancelled : List Nat := []
  /-- The number of scopes made so far. -/
  scopeCount : Nat := 0
  /-- A scope that will be cancelled at some instant. -/
  alarm : Option (Nat × Nat) := none
  /-- What has been reported so far. -/
  journal : List Entry := []
  /-- The open spans, the outermost first. -/
  spans : List Span := []
  /-- The state of the node. -/
  node : σ

/-- A computation in an environment. -/
abbrev Action (σ α : Type) := StateM (Env σ) α

/-- A computation in an environment that may fail; what it did before it failed stays done. -/
abbrev Attempt (σ α : Type) := ExceptT ProviderError (StateM (Env σ)) α

/-- The attempt that has come to a result already. -/
def Attempt.ofExcept {σ α : Type} (result : Except ProviderError α) : Attempt σ α :=
  ExceptT.mk (pure result)

/-! ## Contexts -/

namespace Env

variable {σ : Type}

/-- Whether a context or one that it was derived from is cancelled. -/
def isCancelled (env : Env σ) (ctx : Context) : Bool := ctx.scopes.any (· ∈ env.cancelled)

/-- Whether the deadline of a context has come. -/
def isExpired (env : Env σ) (ctx : Context) : Bool := ctx.deadline.any (· ≤ env.now)

/-- Whether a context is over. -/
def isDone (env : Env σ) (ctx : Context) : Bool := env.isCancelled ctx || env.isExpired ctx

/-- Cancels a scope. -/
def cancelScope (env : Env σ) (scope : Nat) : Env σ :=
  { env with cancelled := scope :: env.cancelled }

end Env

namespace Context

variable {σ : Type}

/-- The earlier of two deadlines; none stands for never. -/
def earlier : Option Nat → Option Nat → Option Nat
  | some a, some b => some (min a b)
  | some a, none => some a
  | none, b => b

/-- A context in a new scope inside a parent, with the parent's deadline or an earlier one. -/
def derive (parent : Context) (deadline : Option Nat) : Action σ Context := fun env =>
  (⟨env.scopeCount :: parent.scopes, earlier parent.deadline deadline⟩,
    { env with scopeCount := env.scopeCount + 1 })

/-- A new context without a deadline. -/
def background : Action σ Context := derive .unbounded none

/-- A context that is over after `timeout` milliseconds of the clock, or with its parent. -/
def withTimeout (parent : Context) (timeout : Nat) : Action σ Context := do
  derive parent (some ((← get).now + timeout))

/-- Cancels a context with everything derived from it. -/
def cancel (ctx : Context) : Action σ Unit :=
  match ctx.scopes with
  | [] => pure ()
  | scope :: _ => modify (·.cancelScope scope)

end Context

/-! ## Waiting -/

/-- Why a wait ended early. -/
inductive Interruption where
  | cancelled
  | deadlineExceeded
  deriving DecidableEq

/-- The error of an interrupted call. -/
def Interruption.toProvider : Interruption → ProviderError
  | .cancelled => .cancelled
  | .deadlineExceeded => .deadlineExceeded

namespace Env

variable {σ : Type}

/-- The end of a wait that nothing cancels: its end, or the deadline if that does not come later. -/
def finish (ctx : Option Context) (stop : Nat) (env : Env σ) : Except Interruption Unit × Env σ :=
  match ctx.bind (·.deadline) with
  | some d =>
    if d ≤ stop then (.error .deadlineExceeded, { env with now := d })
    else (.ok (), { env with now := stop })
  | none => (.ok (), { env with now := stop })

/-- The instant at which a wait that nothing cancels ends. -/
def waitEnd (ctx : Option Context) (stop : Nat) : Nat :=
  match ctx.bind (·.deadline) with
  | some d => min d stop
  | none => stop

end Env

/-- Waits, inside a context if there is one. A wait of no time is over at once, but not in a context
that is over already. -/
def wait {σ : Type} (ctx : Option Context) (ms : Nat) : Action σ (Except Interruption Unit) :=
  fun env =>
    if ctx.any env.isCancelled then (.error .cancelled, env)
    else if ctx.any env.isExpired then (.error .deadlineExceeded, env)
    else if ms == 0 then (.ok (), env)
    else
      let stop := env.now + ms
      match env.alarm with
      | none => env.finish ctx stop
      | some (instant, scope) =>
        if instant < Env.waitEnd ctx stop then
          let env' := { env.cancelScope scope with alarm := none }
          if ctx.any env'.isCancelled then
            (.error .cancelled, { env' with now := max instant env.now })
          else env'.finish ctx stop
        else env.finish ctx stop

/-- Waits inside a context and fails if the wait is interrupted. -/
def waitIn {σ : Type} (ctx : Option Context) (ms : Nat) : Attempt σ Unit :=
  ExceptT.mk do
    match ← wait ctx ms with
    | .ok () => return .ok ()
    | .error i => return .error i.toProvider

/-! ## Reporting -/

/-- Reports an event inside the open spans. -/
def report {σ : Type} (e : Event) : Action σ Unit :=
  modify fun env => { env with journal := env.journal ++ [.event e env.spans] }

/-- Adds a line to the journal. -/
def note {σ : Type} (entry : Entry) : Action σ Unit :=
  modify fun env => { env with journal := env.journal ++ [entry] }

/-- Runs an action inside a span. -/
def inSpan {σ α : Type} (span : Span) (act : Action σ α) : Action σ α := do
  let outer := (← get).spans
  modify fun env => { env with spans := env.spans ++ [span] }
  let result ← act
  modify fun env => { env with spans := outer }
  return result

end EthClient
