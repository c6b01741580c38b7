import EthClient.Chain.Query

/-! # What a provider is handed

`Provider.recording` stands in front of a provider and keeps a record of every use of it, in a log
beside the state of the node. A `Handling` is one use: what the provider was handed and what came of
it. Without the log it is the provider itself (**`Provider.erase_recording_handle`**).

What an action adds to a log is told by **`Adds`**: whatever the environment, the log afterwards is
the one before with some entries behind it, and a postcondition holds of the result and of these
entries. One rule for each way of putting actions together (`Adds.bind`, `Adds.bindOk`) makes the
postcondition of a whole from those of its parts. -/

namespace EthClient

/-- The state of a node, and a log beside it. -/
structure Logged (X σ : Type) where
  log : List X
  state : σ

/-! ## Attempts one after the other -/

/-- An action goes on in the environment that the first part left. -/
theorem run_action_bind {σ α β : Type} (act : Action σ α) (f : α → Action σ β) (env : Env σ) :
    (act >>= f) env = f (act env).1 (act env).2 := rfl

/-- A computation that changes something begins with what it is given. -/
theorem run_get_bind {σ ρ ε β : Type} (f : ρ → ExceptT ε (StateT ρ (StateM (Env σ))) β) (c : ρ) :
    (get >>= f).run.run c = (f c).run.run c := rfl

section Attempts

variable {σ ε α β : Type} {act : ExceptT ε (StateM (Env σ)) α} {env env' : Env σ}

/-- An attempt goes on with the value that the first part came to. -/
theorem run_bind_of_ok {a : α} (h : act.run env = (.ok a, env'))
    (f : α → ExceptT ε (StateM (Env σ)) β) : (act >>= f).run env = (f a).run env' := by
  have hbind : (act >>= f).run env = (match (act.run env).1 with
      | .ok a => (f a).run
      | .error e => pure (.error e)) (act.run env).2 := rfl
  rw [hbind, h]

/-- An error ends it. -/
theorem run_bind_of_error {e : ε} (h : act.run env = (.error e, env'))
    (f : α → ExceptT ε (StateM (Env σ)) β) : (act >>= f).run env = (.error e, env') := by
  have hbind : (act >>= f).run env = (match (act.run env).1 with
      | .ok a => (f a).run
      | .error e => pure (.error e)) (act.run env).2 := rfl
  rw [hbind, h]
  rfl

/-- An attempt that is seen to succeed comes to a value. -/
theorem exists_run_eq_ok (h : (act.run env).1.isOk = true) :
    ∃ a env', act.run env = (.ok a, env') := by
  rcases hrun : act.run env with ⟨r, env'⟩
  rw [hrun] at h
  cases r with
  | ok a => exact ⟨a, env', rfl⟩
  | error e => cases h

end Attempts

/-! ## Lines of the journal -/

section Noting

variable {σ : Type}

/-- The environment with further lines in the journal. -/
def Env.noting (env : Env σ) (lines : List Entry) : Env σ :=
  { env with journal := env.journal ++ lines }

/-- No lines leave the environment as it is. -/
theorem Env.noting_nil (env : Env σ) : env.noting [] = env := by
  rw [noting, List.append_nil]

/-- Lines are noted one after the other. -/
theorem Env.noting_noting (env : Env σ) (first second : List Entry) :
    (env.noting first).noting second = env.noting (first ++ second) := by
  simp [noting]

end Noting

/-! ## Actions that add to a log -/

section Adds

variable {X σ ε α β : Type}

/-- The log of an environment. -/
def Env.log (env : Env (Logged X σ)) : List X := env.node.log

/-- Whatever the environment, the action puts some entries behind the log, such that the
postcondition holds of its result and of these entries. -/
def Adds (act : Action (Logged X σ) α) (post : α → List X → Prop) : Prop :=
  ∀ env, ∃ new, (act env).2.log = env.log ++ new ∧ post (act env).1 new

/-- A weaker postcondition holds as well. -/
theorem Adds.mono {act : Action (Logged X σ) α} {post post' : α → List X → Prop}
    (h : Adds act post) (hp : ∀ a new, post a new → post' a new) : Adds act post' := by
  intro env
  obtain ⟨new, hlog, hpost⟩ := h env
  exact ⟨new, hlog, hp _ _ hpost⟩

/-- The result and the entries come from a run of the action. -/
theorem Adds.reached {act : Action (Logged X σ) α} {post : α → List X → Prop} (h : Adds act post) :
    Adds act fun a new => post a new ∧
      ∃ env, (act env).1 = a ∧ (act env).2.log = env.log ++ new := by
  intro env
  obtain ⟨new, hlog, hpost⟩ := h env
  exact ⟨new, hlog, hpost, env, rfl, hlog⟩

/-- A value adds nothing. -/
theorem Adds.pure {a : α} {post : α → List X → Prop} (h : post a []) :
    Adds (pure a : Action (Logged X σ) α) post :=
  fun env => ⟨[], (List.append_nil env.log).symm, h⟩

/-- **What is done later is put behind what was done before.** -/
theorem Adds.bind {act : Action (Logged X σ) α} {f : α → Action (Logged X σ) β}
    {mid : α → List X → Prop} {post : β → List X → Prop} (h : Adds act mid)
    (hf : ∀ a new, mid a new → Adds (f a) fun b more => post b (new ++ more)) :
    Adds (act >>= f) post := by
  intro env
  obtain ⟨new, hlog, hmid⟩ := h env
  obtain ⟨more, hlog', hpost⟩ := hf _ new hmid (act env).2
  refine ⟨new ++ more, ?_, hpost⟩
  rw [← List.append_assoc, ← hlog]
  exact hlog'

/-- The same for attempts: an error ends them. -/
theorem Adds.bindOk {act : ExceptT ε (StateM (Env (Logged X σ))) α}
    {f : α → ExceptT ε (StateM (Env (Logged X σ))) β} {mid : Except ε α → List X → Prop}
    {post : Except ε β → List X → Prop} (h : Adds act.run mid)
    (hok : ∀ a new, mid (.ok a) new → Adds (f a).run fun r more => post r (new ++ more))
    (herr : ∀ e new, mid (.error e) new → post (.error e) new) :
    Adds (act >>= f).run post := by
  rw [ExceptT.run_bind]
  refine Adds.bind h fun r new hmid => ?_
  cases r with
  | ok a => exact hok a new hmid
  | error e => exact Adds.pure (by rw [List.append_nil]; exact herr e new hmid)

/-- What is made of a result adds nothing. -/
theorem Adds.map {act : Action (Logged X σ) α} {g : α → β} {mid : α → List X → Prop}
    {post : β → List X → Prop} (h : Adds act mid) (hg : ∀ a new, mid a new → post (g a) new) :
    Adds (act >>= fun a => Pure.pure (g a)) post := by
  refine h.bind fun a new hmid => Adds.pure ?_
  rw [List.append_nil]
  exact hg a new hmid

/-- An action among attempts does not fail. -/
theorem Adds.lift {act : Action (Logged X σ) α} {post : α → List X → Prop} (h : Adds act post) :
    Adds (liftM act : ExceptT ε (StateM (Env (Logged X σ))) α).run
      fun r new => ∃ a, r = .ok a ∧ post a new :=
  fun env =>
    let ⟨new, hlog, hpost⟩ := h env
    ⟨new, hlog, _, rfl, hpost⟩

/-- An action that leaves the node alone adds nothing. -/
theorem Adds.of_node_eq {act : Action (Logged X σ) α} (h : ∀ env, (act env).2.node = env.node) :
    Adds act fun _ new => new = [] :=
  fun env => ⟨[], by rw [Env.log, h, List.append_nil]; rfl, rfl⟩

/-- Looking at the environment adds nothing. -/
theorem adds_get : Adds (get : Action (Logged X σ) _) fun _ new => new = [] :=
  Adds.of_node_eq fun _ => rfl

/-- A report adds nothing. -/
theorem adds_report (e : Event) :
    Adds (report e : Action (Logged X σ) Unit) fun _ new => new = [] :=
  Adds.of_node_eq fun _ => rfl

/-- Something that is done before and adds nothing can be passed over. -/
theorem Adds.after {act : Action (Logged X σ) α} {f : α → Action (Logged X σ) β}
    {post : β → List X → Prop} (h : Adds act fun _ new => new = [])
    (hf : ∀ a, Adds (f a) post) : Adds (act >>= f) post :=
  h.bind fun a new hnew => by subst hnew; exact hf a

end Adds

/-! ## Handlings -/

/-- One use of a provider: what it was handed, and what came of it. -/
structure Handling where
  shape : Shape
  input : shape.Input
  outcome : Except ProviderError shape.Output

namespace Handling

/-- The methods that were called. -/
def methods (x : Handling) : List String := x.shape.methods x.input

/-- A single call, inside a context if there is one. -/
def single (ctx : Option Context) (c : Call) (outcome : Except ProviderError Json) : Handling :=
  match ctx with
  | none => ⟨.call, c, outcome⟩
  | some ctx => ⟨.callContext, (ctx, c), outcome⟩

/-- A single call calls its method alone. -/
@[simp] theorem methods_single (ctx : Option Context) (c : Call)
    (outcome : Except ProviderError Json) : (single ctx c outcome).methods = [c.method] := by
  cases ctx <;> rfl

/-- A single call and its outcome can be told from the handling. -/
theorem single_inj {ctx : Option Context} {c c' : Call} {o o' : Except ProviderError Json}
    (h : single ctx c o = single ctx c' o') : c = c' ∧ o = o' := by
  cases ctx with
  | none =>
    obtain ⟨-, hinput, houtcome⟩ := Handling.mk.inj h
    exact ⟨eq_of_heq hinput, eq_of_heq houtcome⟩
  | some ctx =>
    obtain ⟨-, hinput, houtcome⟩ := Handling.mk.inj h
    exact ⟨(Prod.mk.inj (eq_of_heq hinput)).2, eq_of_heq houtcome⟩

/-- The handling is the call that asks a question, inside a context if there is one, and the outcome
means this answer. -/
def Asks (ctx : Option Context) (q : Query) (answer : Except ProviderError q.Answer)
    (x : Handling) : Prop :=
  ∃ outcome, x = single ctx q.toCall outcome ∧
    answer = outcome.bind fun v => ProviderError.ofDecoded (q.decoder.runJson v)

/-- The same in whatever context. -/
def AsksSomehow (q : Query) (answer : Except ProviderError q.Answer) (x : Handling) : Prop :=
  ∃ ctx, x.Asks ctx q answer

end Handling

/-! ## Recording -/

section Recording

variable {X σ α : Type}

/-- An attempt beside a log, and the entries that it puts behind it. -/
def Attempt.logging (entries : Except ProviderError α → List X) (act : Attempt σ α) :
    Attempt (Logged X σ) α :=
  ExceptT.mk fun env =>
    let (outcome, env') := act.run { env with node := env.node.state }
    (outcome, { env' with node := ⟨env.log ++ entries outcome, env'.node⟩ })

/-- The provider with a record of every use of it. -/
def Provider.recording (p : Provider σ) : Provider (Logged Handling σ) where
  handle s input := Attempt.logging (fun outcome => [⟨s, input, outcome⟩]) (p.handle s input)
  subscribe ctx topic params := Attempt.logging (fun _ => []) (p.subscribe ctx topic params)
  close := Attempt.logging (fun _ => []) p.close

/-- The environment without the log. -/
def Env.erase (env : Env (Logged X σ)) : Env σ := { env with node := env.node.state }

/-- **A record changes nothing else**: outcome and environment are those of the provider. -/
theorem Provider.erase_recording_handle (p : Provider σ) (s : Shape) (input : s.Input)
    (env : Env (Logged Handling σ)) :
    ((p.recording.handle s input).run env).1 = ((p.handle s input).run env.erase).1 ∧
      ((p.recording.handle s input).run env).2.erase = ((p.handle s input).run env.erase).2 :=
  ⟨rfl, rfl⟩

/-- **Every use is recorded**, together with its outcome. -/
theorem Provider.adds_recording_handle (p : Provider σ) (s : Shape) (input : s.Input) :
    Adds (p.recording.handle s input).run fun outcome new => new = [⟨s, input, outcome⟩] :=
  fun _ => ⟨_, rfl, rfl⟩

/-- A single call is recorded as one. -/
theorem Provider.adds_recording_call (p : Provider σ) (ctx : Option Context) (c : Call) :
    Adds (p.recording.call ctx c).run fun outcome new => new = [Handling.single ctx c outcome] := by
  cases ctx <;> exact p.adds_recording_handle _ _

end Recording

/-! ## Nodes that are given by their answers -/

/-- A node whose answer to a call depends on how many calls it has answered before; it takes any
batch and leaves the elements as they are. -/
def Provider.ofAnswers (answer : Nat → Call → Except ProviderError Json) : Provider Nat where
  handle
    | .call, c => serve c
    | .callContext, (_, c) => serve c
    | .batch, elems => pure elems
    | .batchContext, (_, elems) => pure elems
  subscribe _ _ _ := throw (.unsupported "subscriptions")
  close := pure ()
where
  /-- Answers a call and counts it. -/
  serve (c : Call) : Attempt Nat Json :=
    ExceptT.mk fun env => (answer env.node c, { env with node := env.node + 1 })

end EthClient
