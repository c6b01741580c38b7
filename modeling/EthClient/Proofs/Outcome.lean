import EthClient.Proofs.Population

/-! # How population ends

A step of population ends with a result, with arguments, and in an environment.
**`Populating.Ends`** says something about all three. There is one rule for each way of putting
steps together, and a question is the only step whose result depends on the environment.

The fees come first. What the steps behind them make of the arguments is a **`Completion`**: value,
nonce, gas and chain id are set unless they were set before, everything else stays, and the errors
are those of a question, of a chain that is not ready and of a creation without code
(**`Populating.ends_setAll`**). -/

namespace EthClient

variable {σ α β : Type}

namespace Populating

/-! ## Rules -/

/-- The step, begun with these arguments in this environment, ends as the postcondition says. -/
def Ends (m : Populating σ α) (a : TransactionArgs) (env : Env σ)
    (post : Except PopulateError α → TransactionArgs → Env σ → Prop) : Prop :=
  post (m.run.run a env).1.1 (m.run.run a env).1.2 (m.run.run a env).2

variable {m : Populating σ α} {a : TransactionArgs} {env : Env σ}
variable {post : Except PopulateError α → TransactionArgs → Env σ → Prop}

/-- A step also ends as a weaker postcondition says. -/
theorem Ends.mono {weaker : Except PopulateError α → TransactionArgs → Env σ → Prop}
    (h : Ends m a env post) (hsub : ∀ r b env', post r b env' → weaker r b env') :
    Ends m a env weaker :=
  hsub _ _ _ h

/-- **One step after another**: an error of the first one ends both. -/
theorem Ends.bind {f : α → Populating σ β}
    {post' : Except PopulateError β → TransactionArgs → Env σ → Prop} (h : Ends m a env post)
    (hok : ∀ x b env', post (.ok x) b env' → Ends (f x) b env' post')
    (herr : ∀ e b env', post (.error e) b env' → post' (.error e) b env') :
    Ends (m >>= f) a env post' := by
  rw [Ends, ExceptT.run_bind, StateT.run_bind, run_action_bind]
  rcases hrun : m.run.run a env with ⟨⟨r, b⟩, env'⟩
  rw [Ends, hrun] at h
  cases r with
  | ok x => exact hok x b env' h
  | error e => exact herr e b env' h

/-- Looking at the arguments. -/
theorem Ends.get {f : TransactionArgs → Populating σ α} (h : Ends (f a) a env post) :
    Ends (MonadState.get >>= f) a env post :=
  h

/-- Setting something in the arguments. -/
theorem ends_modify {g : TransactionArgs → TransactionArgs} {f : Unit → Populating σ α}
    (h : Ends (f ()) (g a) env post) : Ends (modify g >>= f) a env post :=
  h

/-- An action before a step leaves the arguments alone. -/
theorem ends_lift {act : Action σ β} {f : β → Populating σ α}
    (h : Ends (f (act env).1) a (act env).2 post) :
    Ends ((liftM act : Populating σ β) >>= f) a env post :=
  h

/-- **A question** leaves the arguments as they were, and an error is named after the purpose. -/
theorem ends_answer {reader : Reader σ} (purpose : String) {q : Query}
    {answer : Except ProviderError q.Answer} {env' : Env σ}
    (hrun : (reader.ask q).run env = (answer, env')) :
    Ends (ask reader purpose q) a env fun r b env₁ =>
      r = answer.mapError (fun e => .reader purpose (.provider e)) ∧ b = a ∧ env₁ = env' := by
  have hends : (ask reader purpose q).run.run a env
      = ((answer.mapError fun e => .reader purpose (.provider e), a), env') := by
    rw [run_ask, run_action_bind, hrun]
    rfl
  rw [Ends, hends]
  exact ⟨rfl, rfl, rfl⟩

/-- **A question before a step**: the step begins with the arguments as they were. -/
theorem ends_ask {reader : Reader σ} {purpose : String} {q : Query}
    {f : q.Answer → Populating σ α} {answer : Except ProviderError q.Answer} {env' : Env σ}
    (hrun : (reader.ask q).run env = (answer, env'))
    (hok : ∀ v, answer = .ok v → Ends (f v) a env' post)
    (herr : ∀ e, answer = .error e → post (.error (.reader purpose (.provider e))) a env') :
    Ends (ask reader purpose q >>= f) a env post := by
  have hask := ends_answer (a := a) purpose hrun
  cases answer with
  | ok v =>
    refine hask.bind ?_ ?_
    · rintro x b env₁ ⟨hx, rfl, rfl⟩
      cases hx
      exact hok v rfl
    · rintro e b env₁ ⟨he, -⟩
      cases he
  | error e =>
    refine hask.bind ?_ ?_
    · rintro x b env₁ ⟨hx, -⟩
      cases hx
    · rintro e' b env₁ ⟨he, rfl, rfl⟩
      cases he
      exact herr e rfl

/-! ## Behind the fees -/

end Populating

/-- The value is set: to what it was before, if it was set then. -/
def Fills (before after : Option α) : Prop := ∃ v, after = some (before.getD v)

/-- The errors of the steps behind the fees. -/
def PopulateError.IsLate : PopulateError → Prop
  | .reader .. | .contractCreationWithoutData | .chainNotReady => True
  | _ => False

/-- Behind the fees nothing is missing any more. -/
structure TransactionArgs.Filled (a b : TransactionArgs) : Prop where
  value : Fills a.value b.value
  nonce : Fills a.nonce b.nonce
  gas : Fills a.gas b.gas
  chainId : Fills a.chainId b.chainId
  /-- There is a recipient or code that creates a contract. -/
  target : a.recipient.isSome ∨ a.dataIsEmpty = false

/-- What the steps behind the fees make of some arguments, and how they end. -/
structure Completion (a : TransactionArgs) (r : Except PopulateError Unit) (b : TransactionArgs) :
    Prop where
  /-- Everything else stays. -/
  kept : b = { a with value := b.value, nonce := b.nonce, gas := b.gas, chainId := b.chainId }
  late : ∀ e, r = .error e → e.IsLate
  filled : r = .ok () → a.Filled b

namespace Populating

variable {a : TransactionArgs} {env : Env σ} {reader : Reader σ}

/-- The step leaves the arguments alone and fails with late errors only. -/
def Consults (m : Populating σ α) (a : TransactionArgs) : Prop :=
  ∀ env, Ends m a env fun r b _ => b = a ∧ ∀ e, r = .error e → e.IsLate

/-- A question is such a step. -/
theorem consults_ask (reader : Reader σ) (purpose : String) (q : Query) :
    Consults (ask reader purpose q) a := by
  intro env
  rcases hrun : (reader.ask q).run env with ⟨answer, env'⟩
  refine (ends_answer purpose hrun).mono ?_
  rintro r b _ ⟨rfl, rfl, -⟩
  refine ⟨rfl, fun e he => ?_⟩
  cases answer with
  | ok v => cases he
  | error failure =>
    cases he
    trivial

/-- So are the questions for the next nonce. -/
theorem consults_nextNonce (reader : Reader σ) (sender : Address) :
    Consults (nextNonce reader sender) a := by
  intro env
  unfold nextNonce
  refine ends_lift ?_
  cases ((reader.ask (.transactionCount sender .pending)).run env).1 with
  | ok n => exact ⟨rfl, fun e he => by cases he⟩
  | error e => exact ends_lift (consults_ask reader _ _ _)

/-- Of a field, which the arguments are put together with, no more is known than that it is set
unless it was set before. -/
def Sets (before : Option α) (put : Option α → TransactionArgs) (r : Except PopulateError Unit)
    (b : TransactionArgs) : Prop :=
  ∃ after, b = put after ∧ (r = .ok () → Fills before after) ∧ ∀ e, r = .error e → e.IsLate

/-- A field that is missing takes any value. -/
theorem sets_some (put : Option α → TransactionArgs) (v : α) :
    Sets none put (.ok ()) (put (some v)) :=
  ⟨some v, rfl, fun _ => ⟨v, rfl⟩, fun e he => by cases he⟩

/-- After a late error it is as before. -/
theorem sets_of_isLate (before : Option α) (put : Option α → TransactionArgs) {e : PopulateError}
    (h : e.IsLate) : Sets before put (.error e) (put before) := by
  refine ⟨before, rfl, fun hok => ?_, fun e' he => ?_⟩
  · cases hok
  · cases he
    exact h

/-- **A field is asked for if it is missing**, and stays if it is set. -/
theorem Consults.ends_sets {m : Populating σ β} {f : β → Populating σ Unit} {before : Option α}
    (put : Option α → TransactionArgs) (h : Consults m (put before))
    (hf : before = none → ∀ v env, Ends (f v) (put none) env fun r b _ => Sets none put r b)
    (env : Env σ) :
    Ends (if before.isNone then m >>= f else pure ()) (put before) env fun r b _ =>
      Sets before put r b := by
  cases before with
  | some v => exact ⟨some v, rfl, fun _ => ⟨v, rfl⟩, fun e he => by cases he⟩
  | none =>
    refine (h env).bind ?_ ?_
    · rintro v b env' ⟨rfl, -⟩
      exact hf rfl v env'
    · rintro e b env' ⟨rfl, hlate⟩
      exact sets_of_isLate none put (hlate e rfl)

/-- Setting the nonce sets the nonce. -/
theorem ends_setNonce (reader : Reader σ) (sender : Address) (a : TransactionArgs) (env : Env σ) :
    Ends (setNonce reader sender) a env fun r b _ =>
      Sets a.nonce (fun nonce => { a with nonce }) r b := by
  refine .get ((consults_nextNonce reader sender).ends_sets (fun nonce => { a with nonce }) ?_ env)
  intro _ n _
  exact sets_some (fun nonce => { a with nonce }) n

/-- Setting the gas sets the gas. -/
theorem ends_setGas (reader : Reader σ) (a : TransactionArgs) (env : Env σ) :
    Ends (setGas reader) a env fun r b _ => Sets a.gas (fun gas => { a with gas }) r b := by
  refine .get ((consults_ask reader _ _).ends_sets (fun gas => { a with gas }) ?_ env)
  intro _ gas _
  exact sets_some (fun gas => { a with gas }) gas

/-- Setting the chain id sets the chain id. -/
theorem ends_setChainId (reader : Reader σ) (a : TransactionArgs) (env : Env σ) :
    Ends (setChainId reader) a env fun r b _ =>
      Sets a.chainId (fun chainId => { a with chainId }) r b := by
  refine .get ((consults_ask reader _ _).ends_sets (fun chainId => { a with chainId }) ?_ env)
  intro _ told _
  cases told with
  | none =>
    have hlate : PopulateError.chainNotReady.IsLate := trivial
    exact sets_of_isLate none (fun chainId => { a with chainId }) hlate
  | some id => exact sets_some (fun chainId => { a with chainId }) id

/-- **Behind the fees the arguments are completed.** -/
theorem ends_setAll {s : Address} (hs : a.sender = some s)
    {fees : Except PopulateError Unit → TransactionArgs → Env σ → Prop}
    {post : Except PopulateError Unit → TransactionArgs → Prop}
    (h : Ends (setFees reader) a env fees)
    (hok : ∀ b env' r c, fees (.ok ()) b env' → Completion b r c → post r c)
    (herr : ∀ e b env', fees (.error e) b env' → post (.error e) b) :
    Ends (setAll reader) a env fun r b _ => post r b := by
  unfold setAll
  refine .get ?_
  rw [hs]
  refine h.bind (fun _ b env₁ hb => ?_) herr
  refine Ends.mono ?_ fun r c _ hc => hok b env₁ r c hb hc
  refine ends_modify ?_
  refine (ends_setNonce reader s _ _).bind ?_ ?_
  · rintro _ c env₂ ⟨nonce, rfl, hnonce, -⟩
    refine .get ?_
    dsimp only
    split
    · exact ⟨rfl, fun e he => by cases he; trivial, nofun⟩
    · rename_i htarget
      rw [Bool.and_eq_true, Classical.not_and_iff_not_or_not, Option.isNone_iff_eq_none] at htarget
      refine (ends_setGas reader _ _).bind ?_ ?_
      · rintro _ c env₃ ⟨gas, rfl, hgas, -⟩
        refine (ends_setChainId reader _ _).mono ?_
        rintro r c _ ⟨chainId, rfl, hid, hlate⟩
        refine ⟨rfl, hlate, fun hr => ⟨⟨0, rfl⟩, hnonce rfl, hgas rfl, hid hr, ?_⟩⟩
        exact htarget.imp Option.isSome_iff_ne_none.mpr Bool.eq_false_iff.mpr
      · rintro e c _ ⟨gas, rfl, -, hlate⟩
        exact ⟨rfl, hlate, nofun⟩
  · rintro e c _ ⟨nonce, rfl, -, hlate⟩
    exact ⟨rfl, hlate, nofun⟩

end Populating

end EthClient
