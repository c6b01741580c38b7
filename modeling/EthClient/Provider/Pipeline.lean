import EthClient.Provider.Basic

/-! # Pipelines

A `Pipeline` puts **hooks** around the handlers of an inner provider. Each shape has its own list of
hooks, and the first one registered is the outermost: it sees a call first and its outcome last.
`Pipeline.register` keeps the handler of a shape ready and folds it anew from the list, so that a
call does not fold anything. A batch without elements is refused before any hook sees it. -/

namespace EthClient

/-- Turns a handler of one shape into another one. -/
abbrev Hook (σ : Type) (s : Shape) := Handler σ s → Handler σ s

namespace Shape

variable {F : Shape → Type}

/-- A family with another member at one shape. -/
def update (f : (s : Shape) → F s) (s : Shape) (value : F s) : (t : Shape) → F t :=
  fun t => if h : t = s then h ▸ value else f t

/-- The new member is at its shape. -/
@[simp] theorem update_self (f : (s : Shape) → F s) (s : Shape) (value : F s) :
    update f s value s = value := by
  simp [update]

/-- The other members stay. -/
theorem update_of_ne (f : (s : Shape) → F s) {s t : Shape} (value : F s) (h : t ≠ s) :
    update f s value t = f t := by
  simp [update, h]

end Shape

/-- Hooks around an inner provider. -/
structure Pipeline (σ : Type) where
  inner : Provider σ
  /-- The hooks of each shape, in the order in which they were registered. -/
  hooks : (s : Shape) → List (Hook σ s)
  /-- The handler of each shape. -/
  handler : (s : Shape) → Handler σ s

namespace Pipeline

variable {σ : Type}

/-- The pipeline without hooks. -/
def ofProvider (inner : Provider σ) : Pipeline σ where
  inner
  hooks _ := []
  handler := inner.handle

/-- Puts hooks around a handler, the first one outermost. -/
def fold {s : Shape} (hooks : List (Hook σ s)) (handler : Handler σ s) : Handler σ s :=
  hooks.foldr (fun hook next => hook next) handler

/-- Registers a hook behind the hooks of its shape. -/
def register (p : Pipeline σ) (s : Shape) (hook : Hook σ s) : Pipeline σ :=
  let hooks := p.hooks s ++ [hook]
  { p with
    hooks := Shape.update p.hooks s hooks
    handler := Shape.update p.handler s (fold hooks (p.inner.handle s)) }

/-- Registers a layer for every shape. -/
def layer (p : Pipeline σ) (l : Layer σ) : Pipeline σ :=
  Shape.all.foldl (fun p s => p.register s (l s)) p

/-- The number of hooks of a shape. -/
def count (p : Pipeline σ) (s : Shape) : Nat := (p.hooks s).length

/-- How a pipeline is shown: how many hooks each shape has. -/
def shown (p : Pipeline σ) : String :=
  "call_middleware: " ++ toString (p.count .call) ++
    ", call_context_middleware: " ++ toString (p.count .callContext) ++
    ", batch_call_middleware: " ++ toString (p.count .batch) ++
    ", batch_call_context_middleware: " ++ toString (p.count .batchContext)

/-- The pipeline as a provider. -/
def toProvider (p : Pipeline σ) : Provider σ where
  handle s input := if s.isVacant input then throw .emptyBatch else p.handler s input
  subscribe := p.inner.subscribe
  close := p.inner.close

end Pipeline

end EthClient
