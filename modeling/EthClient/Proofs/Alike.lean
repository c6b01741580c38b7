import EthClient.Proofs.Attempts
import EthClient.Proofs.Interchange
import EthClient.Proofs.Pipeline

/-! # Two runs side by side

Two actions are **`Alike`** under a relation of environments if, whenever they begin in related
environments, they come to results that belong together and leave related environments. One rule for
each way of putting actions together makes two long actions alike from their parts.

It is enough to know how the provider beneath answers, and that what is reported keeps the
environments related:

* population and signing are alike with two readers that answer alike
  (**`TransactionArgs.alike_populateToTransaction`**, **`SigningLayer.alike_call`**);
* retrying is alike if the attempts and the pauses are, and if of two outcomes that belong together
  both are repeated or neither (**`Retry.alike_run`**);
* what a client retries is alike if the transport with its timeout is
  (**`Client.alike_beneath`**). -/

namespace EthClient

variable {σ τ ε α α' β β' : Type}

/-- From related environments the actions come to results that belong together, and leave related
environments. -/
def Alike (R : Env σ → Env τ → Prop) (post : α → α' → Prop) (act : Action σ α)
    (act' : Action τ α') : Prop :=
  ∀ env env', R env env' → post (act env).1 (act' env').1 ∧ R (act env).2 (act' env').2

section Rules

variable {R : Env σ → Env τ → Prop} {post : β → β' → Prop} {mid : α → α' → Prop}

/-- Values that belong together. -/
theorem Alike.pure {a : α} {a' : α'} (h : mid a a') :
    Alike R mid (pure a : Action σ α) (pure a' : Action τ α') := fun _ _ hR => ⟨h, hR⟩

/-- **Actions one after the other.** -/
theorem Alike.bind {act : Action σ α} {act' : Action τ α'} {f : α → Action σ β}
    {f' : α' → Action τ β'} (h : Alike R mid act act')
    (hf : ∀ a a', mid a a' → Alike R post (f a) (f' a')) :
    Alike R post (act >>= f) (act' >>= f') := by
  intro env env' hR
  obtain ⟨hmid, hR'⟩ := h env env' hR
  exact hf _ _ hmid _ _ hR'

/-- The same if the first two have the same result. -/
theorem Alike.bind_eq {act : Action σ α} {act' : Action τ α} {f : α → Action σ β}
    {f' : α → Action τ β'} (h : Alike R Eq act act') (hf : ∀ a, Alike R post (f a) (f' a)) :
    Alike R post (act >>= f) (act' >>= f') :=
  h.bind fun a _ heq => heq ▸ hf a

/-- The same for attempts: an error ends both of them. -/
theorem Alike.bindOk {act : ExceptT ε (StateM (Env σ)) α} {act' : ExceptT ε (StateM (Env τ)) α}
    {f : α → ExceptT ε (StateM (Env σ)) β} {f' : α → ExceptT ε (StateM (Env τ)) β'}
    {post : Except ε β → Except ε β' → Prop} (h : Alike R Eq act.run act'.run)
    (hf : ∀ a, Alike R post (f a).run (f' a).run) (herr : ∀ e, post (.error e) (.error e)) :
    Alike R post (act >>= f).run (act' >>= f').run := by
  rw [ExceptT.run_bind, ExceptT.run_bind]
  refine h.bind_eq fun r => ?_
  cases r with
  | ok a => exact hf a
  | error e => exact .pure (herr e)

/-- So attempts whose parts have the same outcome have the same outcome. -/
theorem Alike.bindOk_eq {act : ExceptT ε (StateM (Env σ)) α}
    {act' : ExceptT ε (StateM (Env τ)) α} {f : α → ExceptT ε (StateM (Env σ)) β}
    {f' : α → ExceptT ε (StateM (Env τ)) β} (h : Alike R Eq act.run act'.run)
    (hf : ∀ a, Alike R Eq (f a).run (f' a).run) : Alike R Eq (act >>= f).run (act' >>= f').run :=
  h.bindOk hf fun _ => rfl

/-- An action among attempts. -/
theorem Alike.lift {act : Action σ α} {act' : Action τ α} (h : Alike R Eq act act') :
    Alike R Eq (liftM act : ExceptT ε (StateM (Env σ)) α).run
      (liftM act' : ExceptT ε (StateM (Env τ)) α).run :=
  fun env env' hR => ⟨congrArg Except.ok (h env env' hR).1, (h env env' hR).2⟩

/-! ## Reports -/

/-- The relation does not look at what has been reported, nor inside which spans. -/
def Blind (R : Env σ → Env τ → Prop) : Prop :=
  ∀ env env' journal journal' spans spans', R env env' →
    R { env with journal, spans } { env' with journal := journal', spans := spans' }

/-- Reports are alike, whatever they say. -/
theorem Blind.alike_report (hR : Blind R) (e e' : Event) :
    Alike R Eq (report e : Action σ Unit) (report e' : Action τ Unit) :=
  fun env env' h => ⟨rfl, hR env env' _ _ env.spans env'.spans h⟩

/-- Spans do not matter. -/
theorem Blind.alike_inSpan (hR : Blind R) {act : Action σ α} {act' : Action τ α'}
    (span span' : Span) (h : Alike R mid act act') :
    Alike R mid (inSpan span act) (inSpan span' act') := by
  intro env env' henv
  obtain ⟨hmid, hafter⟩ := h _ _ (hR env env' env.journal env'.journal (env.spans ++ [span])
    (env'.spans ++ [span']) henv)
  exact ⟨hmid, hR _ _ _ _ env.spans env'.spans hafter⟩

/-- **A layer of reports** is alike with what it hands on. -/
theorem Blind.alike_logging (hR : Blind R) {s s' : Shape} {next : Handler σ s}
    {next' : Handler τ s'} {input : s.Input} {input' : s'.Input}
    {T : Except ProviderError s.Output → Except ProviderError s'.Output → Prop}
    (h : Alike R T (next input).run (next' input').run) :
    Alike R T (logging s next input).run (logging s' next' input').run := by
  refine hR.alike_inSpan _ _ ((hR.alike_report _ _).bind_eq fun _ => h.bind fun r r' hT => ?_)
  -- the two may end differently and report it: what is reported does not matter
  cases r <;> cases r' <;> exact (hR.alike_report _ _).bind_eq fun _ => .pure hT

end Rules

/-! ## Population -/

section Population

variable {R : Env σ → Env τ → Prop}

/-- Two readers answer every question alike. -/
def Reader.Agree (R : Env σ → Env τ → Prop) (reader : Reader σ) (reader' : Reader τ) : Prop :=
  ∀ q, Alike R Eq (reader.ask q).run (reader'.ask q).run

/-- Readers that ask providers agree if these answer calls alike. -/
theorem Reader.agree_ofProvider {p : Provider σ} {p' : Provider τ} {ctx ctx' : Option Context}
    (h : ∀ c, Alike R Eq (p.call ctx c).run (p'.call ctx' c).run) :
    Reader.Agree R (.ofProvider p ctx) (.ofProvider p' ctx') := fun q =>
  (h q.toCall).bindOk_eq fun _ => .pure rfl

namespace Populating

/-- Two steps do the same to all arguments. -/
def Agree (R : Env σ → Env τ → Prop) (m : Populating σ α) (m' : Populating τ α) : Prop :=
  ∀ a, Alike R Eq (m.run.run a) (m'.run.run a)

/-- A step that looks only at the arguments does the same for every node. -/
theorem agree_of_pure {m : Populating σ α} {m' : Populating τ α}
    {f : TransactionArgs → Except PopulateError α × TransactionArgs}
    (h : ∀ a, m.run.run a = pure (f a)) (h' : ∀ a, m'.run.run a = pure (f a)) : Agree R m m' := by
  intro a
  rw [h a, h' a]
  exact .pure rfl

/-- A value. -/
theorem agree_pure (x : α) : Agree R (pure x) (pure x) :=
  agree_of_pure (fun _ => rfl) fun _ => rfl

/-- An error. -/
theorem agree_throw (e : PopulateError) :
    Agree R (throw e : Populating σ α) (throw e : Populating τ α) :=
  agree_of_pure (fun _ => rfl) fun _ => rfl

/-- An error, whatever would follow it. -/
theorem agree_throw_bind (e : PopulateError) (f : α → Populating σ β) (f' : α → Populating τ β) :
    Agree R (throw e >>= f) (throw e >>= f') := fun _ => .pure rfl

/-- Setting fields. -/
theorem agree_modify (g : TransactionArgs → TransactionArgs) :
    Agree R (modify g : Populating σ Unit) (modify g : Populating τ Unit) :=
  agree_of_pure (fun _ => rfl) fun _ => rfl

/-- **Steps one after the other.** -/
theorem Agree.bind {m : Populating σ α} {m' : Populating τ α} {f : α → Populating σ β}
    {f' : α → Populating τ β} (h : Agree R m m')
    (hf : ∀ x, Agree R (f x) (f' x)) : Agree R (m >>= f) (m' >>= f') := by
  intro a
  rw [ExceptT.run_bind, StateT.run_bind, ExceptT.run_bind, StateT.run_bind]
  refine (h a).bind_eq ?_
  rintro ⟨r, b⟩
  cases r with
  | ok x => exact hf x b
  | error e => exact .pure rfl

/-- Looking at the arguments. -/
theorem Agree.get {f : TransactionArgs → Populating σ α} {f' : TransactionArgs → Populating τ α}
    (h : ∀ a, Agree R (f a) (f' a)) :
    Agree R (MonadState.get >>= f) (MonadState.get >>= f') := fun a => h a a

/-- An action leaves the arguments alone. -/
theorem Agree.lift {act : Action σ α} {act' : Action τ α} (h : Alike R Eq act act') :
    Agree R (liftM act : Populating σ α) (liftM act' : Populating τ α) := by
  intro a env env' hR
  obtain ⟨heq, hR'⟩ := h env env' hR
  exact ⟨congrArg (fun x => (Except.ok x, a)) heq, hR'⟩

variable {reader : Reader σ} {reader' : Reader τ} (hr : Reader.Agree R reader reader')

include hr

/-- A question. -/
theorem agree_ask (purpose : String) (q : Query) :
    Agree R (ask reader purpose q) (ask reader' purpose q) := by
  intro a
  rw [run_ask, run_ask]
  exact (hr q).bind_eq fun _ => .pure rfl

/-- Setting the price. -/
theorem agree_setPrice : Agree R (setPrice reader) (setPrice reader') := by
  unfold setPrice
  refine .get fun a => ?_
  dsimp only
  split
  · exact agree_throw_bind _ _ _
  · refine .get fun b => ?_
    split
    · exact .bind (agree_ask hr _ _) fun _ => agree_modify _
    · exact agree_pure _

/-- Setting the caps. -/
theorem agree_setCaps (baseFee : Option Amount) :
    Agree R (setCaps reader baseFee) (setCaps reader' baseFee) := by
  rw [setCaps_eq, setCaps_eq]
  refine .bind (agree_modify _) fun _ => .bind ?_ fun _ => agree_of_pure run_orderCaps run_orderCaps
  cases baseFee with
  | some fee => exact agree_modify _
  | none =>
    refine .get fun b => ?_
    split
    · exact .bind (agree_ask hr _ _) fun _ => agree_modify _
    · exact agree_pure _

variable (hreport : ∀ e, Alike R Eq (report e : Action σ Unit) (report e : Action τ Unit))

include hreport

/-- Setting envelope and fees. -/
theorem agree_setFees : Agree R (setFees reader) (setFees reader') := by
  unfold setFees
  refine .get fun a => ?_
  dsimp only
  split
  · exact agree_throw_bind _ _ _
  · refine .bind (agree_ask hr _ _) fun head => ?_
    cases head with
    | none => exact agree_throw _
    | some block =>
      -- both were told the same block, so they choose the same envelope
      dsimp only
      cases a.envelope block.baseFee with
      | error e => exact agree_throw _
      | ok type =>
        refine .bind (.lift (hreport _)) fun _ => .bind (agree_modify _) fun _ => ?_
        cases type with
        | dynamicFee => exact agree_setCaps hr _
        | legacy | accessList => exact agree_setPrice hr

/-- Setting the nonce. -/
theorem agree_setNonce (sender : Address) :
    Agree R (setNonce reader sender) (setNonce reader' sender) := by
  have hnext : Agree R (nextNonce reader sender) (nextNonce reader' sender) := by
    unfold nextNonce
    refine .bind (.lift (hr _)) fun answer => ?_
    -- an answer that fails is only reported, and then both ask the second question
    cases answer with
    | ok n => exact agree_pure n
    | error e => exact .bind (.lift (hreport _)) fun _ => agree_ask hr _ _
  unfold setNonce
  refine .get fun a => ?_
  split
  · exact .bind hnext fun _ => agree_modify _
  · exact agree_pure _

omit hreport in
/-- Setting the gas. -/
theorem agree_setGas : Agree R (setGas reader) (setGas reader') := by
  unfold setGas
  refine .get fun a => ?_
  split
  · exact .bind (agree_ask hr _ _) fun _ => agree_modify _
  · exact agree_pure _

omit hreport in
/-- Setting the chain id. -/
theorem agree_setChainId : Agree R (setChainId reader) (setChainId reader') := by
  unfold setChainId
  refine .get fun a => ?_
  split
  · refine .bind (agree_ask hr _ _) fun id => ?_
    cases id with
    | none => exact agree_throw _
    | some id => exact agree_modify _
  · exact agree_pure _

/-- Setting everything. -/
theorem agree_setAll : Agree R (setAll reader) (setAll reader') := by
  unfold setAll
  refine .get fun a => ?_
  cases a.sender with
  | none => exact agree_throw _
  | some s =>
    refine .bind (agree_setFees hr hreport) fun _ => .bind (agree_modify _) fun _ => ?_
    refine .bind (agree_setNonce hr hreport s) fun _ => .get fun b => ?_
    dsimp only
    split
    · exact agree_throw_bind _ _ _
    · exact .bind (agree_setGas hr) fun _ => agree_setChainId hr

end Populating

/-- **Population is alike** with readers that agree. -/
theorem TransactionArgs.alike_populateToTransaction {reader : Reader σ} {reader' : Reader τ}
    (hr : Reader.Agree R reader reader')
    (hreport : ∀ e, Alike R Eq (report e : Action σ Unit) (report e : Action τ Unit))
    (a : TransactionArgs) :
    Alike R Eq (a.populateToTransaction reader) (a.populateToTransaction reader') := by
  refine (Populating.agree_setAll hr hreport a).bind_eq ?_
  rintro ⟨r, b⟩
  cases r with
  | error e => exact .pure rfl
  | ok _ =>
    dsimp only
    cases b.toTransaction? <;> exact .pure rfl

/-! ## Signing -/

namespace SigningLayer

/-- The chain id is the same. -/
theorem alike_chainId {reader : Reader σ} {reader' : Reader τ}
    (hr : Reader.Agree R reader reader') (args : TransactionArgs) :
    Alike R Eq (chainId reader args).run (chainId reader' args).run := by
  unfold chainId
  cases args.chainId with
  | some id => exact .pure rfl
  | none =>
    refine (hr .chainId).lift.bindOk_eq fun answer => ?_
    match answer with
    | .ok (some id) => exact .pure rfl
    | .ok none => exact .pure rfl
    | .error e => exact .pure rfl

variable (registry : Registry) {p : Provider σ} {p' : Provider τ} {ctx ctx' : Option Context}
variable (hr : Reader.Agree R (.ofProvider p ctx) (.ofProvider p' ctx'))
variable (hreport : ∀ e, Alike R Eq (report e : Action σ Unit) (report e : Action τ Unit))

include hr hreport

/-- So is the payload. -/
theorem alike_signTransaction (args : TransactionArgs) :
    Alike R Eq ((SigningLayer.mk p registry).signTransaction ctx args).run
      ((SigningLayer.mk p' registry).signTransaction ctx' args).run := by
  have hresolve : Alike R Eq ((SigningLayer.mk p registry).resolve args.sender).run
      ((SigningLayer.mk p' registry).resolve args.sender).run := by
    unfold resolve
    cases args.sender with
    | some a =>
      dsimp only
      cases registry.get a with
      | ok s => exact .pure rfl
      | error e => exact (hreport _).lift.bindOk_eq fun _ => .pure rfl
    | none =>
      dsimp only
      cases registry.default? <;> exact .pure rfl
  unfold signTransaction
  refine hresolve.bindOk_eq fun signer => (alike_chainId hr args).bindOk_eq fun id => ?_
  have hpopulate := TransactionArgs.alike_populateToTransaction hr hreport
    { args with sender := some signer.address, chainId := some id }
  refine hpopulate.lift.bindOk_eq fun r => ?_
  cases r with
  | error e => exact .pure rfl
  | ok tx =>
    refine (hreport _).lift.bindOk_eq fun _ => ?_
    cases signer.signTransaction tx id <;> exact .pure rfl

/-- **A call is signed alike** with two readers that agree. -/
theorem alike_call (c : Call) : Alike R Eq ((SigningLayer.mk p registry).call ctx c).run
    ((SigningLayer.mk p' registry).call ctx' c).run := by
  have hparams : Alike R Eq ((SigningLayer.mk p registry).signParams ctx c.params).run
      ((SigningLayer.mk p' registry).signParams ctx' c.params).run := by
    unfold signParams
    cases argument c.params with
    | error e => exact .pure rfl
    | ok args => exact (alike_signTransaction registry hr hreport args).bindOk_eq fun _ => .pure rfl
  have hsign : Alike R Eq ((SigningLayer.mk p registry).signCall ctx c).run
      ((SigningLayer.mk p' registry).signCall ctx' c).run := by
    unfold signCall
    split
    · exact hparams.bindOk_eq fun _ => .pure rfl
    · exact .pure rfl
  refine hsign.bind_eq fun r => ?_
  cases r <;> exact .pure rfl

/-- **So is a batch**, element by element. -/
theorem alike_batch (elems : List BatchElem) :
    Alike R Eq ((SigningLayer.mk p registry).batch ctx elems).run
      ((SigningLayer.mk p' registry).batch ctx' elems).run := by
  rw [batch_eq_mapM, batch_eq_mapM]
  induction elems with
  | nil => exact .pure rfl
  | cons e rest ih =>
    have helement : Alike R Eq ((SigningLayer.mk p registry).element ctx e).run
        ((SigningLayer.mk p' registry).element ctx' e).run :=
      (alike_call registry hr hreport e.toCall).bindOk_eq fun _ => .pure rfl
    rw [List.mapM_cons, List.mapM_cons]
    exact helement.bindOk_eq fun _ => ih.bindOk_eq fun _ => .pure rfl

omit hr in
/-- **What is made of an input** is the same with two readers that agree. -/
theorem alike_rewrite (s : Shape) (input : s.Input)
    (hr : Reader.Agree R (.ofProvider p (s.context? input))
      (.ofProvider p' (s.context? input))) :
    Alike R Eq ((SigningLayer.mk p registry).rewrite s input).run
      ((SigningLayer.mk p' registry).rewrite s input).run := by
  cases s with
  | call => exact alike_call registry hr hreport input
  | batch => exact alike_batch registry hr hreport input
  | callContext => exact (alike_call registry hr hreport input.2).bindOk_eq fun _ => .pure rfl
  | batchContext => exact (alike_batch registry hr hreport input.2).bindOk_eq fun _ => .pure rfl

end SigningLayer

end Population

/-! ## Retrying -/

section Retrying

variable {R : Env σ → Env τ → Prop}

/-- In related environments the contexts are over together, and pauses in them are alike. -/
structure Context.Together (R : Env σ → Env τ → Prop) (ctx ctx' : Option Context) : Prop where
  cancelled : ∀ env env', R env env' → ctx.any env.isCancelled = ctx'.any env'.isCancelled
  done : ∀ env env', R env env' → ctx.any env.isDone = ctx'.any env'.isDone
  wait : ∀ ms, Alike R Eq (wait ctx ms) (wait ctx' ms)

/-- Of outcomes that belong together neither is repeated, or both are the same error; and what
becomes of an error that is not repeated any more belongs together. -/
structure Retry.Respects (r : Retry) (T : Except ProviderError α → Except ProviderError α' → Prop) :
    Prop where
  repeats : ∀ x y, T x y →
    ¬ r.Repeats x ∧ ¬ r.Repeats y ∨ ∃ e, r.policy e = true ∧ x = .error e ∧ y = .error e
  cancelled : T (.error .cancelled) (.error .cancelled)
  exhausted : ∀ made e, T (.error (.retriesExhausted made e)) (.error (.retriesExhausted made e))

/-- Outcomes that are the same. -/
theorem Retry.respects_eq (r : Retry) :
    r.Respects (Eq : Except ProviderError α → Except ProviderError α → Prop) where
  repeats x y h := by
    subst h
    by_cases hs : r.Repeats x
    · obtain ⟨e, rfl, hp⟩ := repeats_iff.mp hs
      exact .inr ⟨e, hp, rfl, rfl⟩
    · exact .inl ⟨hs, hs⟩
  cancelled := rfl
  exhausted _ _ := rfl

variable {r : Retry} {ctx ctx' : Option Context} {attempt : Attempt σ α} {attempt' : Attempt τ α'}
variable {T : Except ProviderError α → Except ProviderError α' → Prop}

/-- One round: an attempt, and after an error that is repeated the rounds that are left. -/
theorem Retry.alike_round
    (hreport : ∀ e, Alike R Eq (report e : Action σ Unit) (report e : Action τ Unit))
    (hctx : Context.Together R ctx ctx') (hT : r.Respects T)
    (h : Alike R T attempt.run attempt'.run) {left made : Nat}
    (hnext : ∀ k, left = k + 1 →
      Alike R T (r.run ctx attempt k (made + 1)) (r.run ctx' attempt' k (made + 1))) :
    Alike R T (r.run ctx attempt left made) (r.run ctx' attempt' left made) := by
  intro env env' henv
  have hattempt := h env env' henv
  rcases hx : attempt.run env with ⟨x, env₁⟩
  rcases hy : attempt'.run env' with ⟨y, env₁'⟩
  rw [hx, hy] at hattempt
  obtain ⟨hTxy, henv₁⟩ : T x y ∧ R env₁ env₁' := hattempt
  have hreported (e : Event) : R (report e env₁).2 (report e env₁').2 :=
    (hreport e env₁ env₁' henv₁).2
  rcases hT.repeats x y hTxy with ⟨hxs, hys⟩ | ⟨e, hp, rfl, rfl⟩
  · -- both attempts settle the call
    rw [run_of_not_repeats hx hxs, run_of_not_repeats hy hys]
    exact ⟨hTxy, henv₁⟩
  · -- both failed with an error that is worth another attempt, so both ask the same questions
    have hrepeated : ¬ (!r.policy e) = true := by rw [hp]; decide
    rw [run_of_error hx, run_of_error hy, if_neg hrepeated, if_neg hrepeated,
      hctx.cancelled env₁ env₁' henv₁, hctx.done env₁ env₁' henv₁]
    split
    · exact ⟨hT.cancelled, hreported _⟩
    · split
      · exact ⟨hT.exhausted _ _, hreported _⟩
      · -- neither context is over, and attempts are left
        rename_i hleft
        obtain ⟨k, rfl⟩ := Nat.exists_eq_add_one_of_ne_zero fun hz => hleft (.inl hz)
        have hpause : Alike R Eq (r.pause ctx (made + 1) e) (r.pause ctx' (made + 1) e) :=
          (hreport _).bind_eq fun _ => hctx.wait _
        have hpaused := hpause env₁ env₁' henv₁
        rcases hw : r.pause ctx (made + 1) e env₁ with ⟨waited, env₂⟩
        rcases hw' : r.pause ctx' (made + 1) e env₁' with ⟨waited', env₂'⟩
        rw [hw, hw'] at hpaused
        obtain ⟨rfl, henv₂⟩ : waited = waited' ∧ R env₂ env₂' := hpaused
        match waited with
        | .ok () => exact hnext k rfl env₂ env₂' henv₂
        | .error .cancelled => exact ⟨hT.cancelled, henv₂⟩
        | .error .deadlineExceeded => exact ⟨hT.exhausted _ _, henv₂⟩

/-- **Retrying is alike if the attempts are.** -/
theorem Retry.alike_run
    (hreport : ∀ e, Alike R Eq (report e : Action σ Unit) (report e : Action τ Unit))
    (hctx : Context.Together R ctx ctx') (hT : r.Respects T)
    (h : Alike R T attempt.run attempt'.run) (left made : Nat) :
    Alike R T (r.run ctx attempt left made) (r.run ctx' attempt' left made) := by
  -- the attempts that are left decrease, and those that were made do not matter
  induction left generalizing made with
  | zero => exact alike_round hreport hctx hT h fun k hk => by cases hk
  | succ left ih => exact alike_round hreport hctx hT h fun k hk => by cases hk; exact ih _

/-- **A provider that retries** is alike with what is beneath. -/
theorem Provider.alike_retrying {p : Provider σ} {p' : Provider τ} (r : Retry) {s s' : Shape}
    {input : s.Input} {input' : s'.Input}
    {T : Except ProviderError s.Output → Except ProviderError s'.Output → Prop}
    (hreport : ∀ e, Alike R Eq (report e : Action σ Unit) (report e : Action τ Unit))
    (hvacant : s.isVacant input = s'.isVacant input')
    (hctx : Context.Together R (s.context? input) (s'.context? input')) (hT : r.Respects T)
    (hempty : T (.error .emptyBatch) (.error .emptyBatch))
    (h : Alike R T (p.handle s input).run (p'.handle s' input').run) :
    Alike R T ((p.retrying r).handle s input).run ((p'.retrying r).handle s' input').run := by
  rw [handle_retrying, handle_retrying, hvacant]
  split
  · exact .pure hempty
  · exact Retry.alike_run hreport hctx hT h _ _

end Retrying

/-! ## Records -/

section Records

variable {X Y : Type}

/-- A wait beside a log goes as it does alone. -/
theorem erase_wait (ctx : Option Context) (ms : Nat) (env : Env (Logged X σ)) :
    (wait ctx ms env).1 = (wait ctx ms env.erase).1 ∧
      (wait ctx ms env).2.erase = (wait ctx ms env.erase).2 ∧
      (wait ctx ms env).2.log = env.log := by
  rw [wait_eq_setClock, wait_eq_setClock ctx ms env.erase]
  exact ⟨rfl, rfl, rfl⟩

/-- A report beside a log is the report without it. -/
theorem alike_report_erase (e : Event) :
    Alike (fun (env : Env (Logged X σ)) env' => env.erase = env') Eq
      (report e : Action (Logged X σ) Unit) (report e : Action σ Unit) := by
  intro env env' h
  subst h
  exact ⟨rfl, rfl⟩

/-- **A record of the questions changes nothing** about population. -/
theorem TransactionArgs.erase_populate_logged (a : TransactionArgs) (reader : Reader σ)
    (env : Env (Logged Inquiry σ)) :
    (a.populate reader.logged env).1 = (a.populate reader env.erase).1 ∧
      (a.populate reader.logged env).2.erase = (a.populate reader env.erase).2 := by
  have hask : Reader.Agree (fun (env : Env (Logged Inquiry σ)) env' => env.erase = env')
      reader.logged reader := by
    intro q env env' h
    subst h
    exact ⟨rfl, rfl⟩
  exact Populating.agree_setAll hask alike_report_erase a env env.erase rfl

/-- A record of a provider does what the provider does. -/
theorem Provider.alike_recording_erase (p : Provider σ) (s : Shape) (input : s.Input) :
    Alike (fun (env : Env (Logged Handling σ)) env' => env.erase = env') Eq
      (p.recording.handle s input).run (p.handle s input).run := by
  intro env env' h
  subst h
  exact p.erase_recording_handle s input env

/-- **A record of what is beneath changes nothing** about a provider that retries. -/
theorem Provider.erase_retrying_recording (p : Provider σ) (r : Retry) (s : Shape)
    (input : s.Input) (env : Env (Logged Handling σ)) :
    (((p.recording.retrying r).handle s input).run env).1
        = (((p.retrying r).handle s input).run env.erase).1 ∧
      (((p.recording.retrying r).handle s input).run env).2.erase
        = (((p.retrying r).handle s input).run env.erase).2 := by
  -- the environments that are related are those with and without the log
  let R : Env (Logged Handling σ) → Env σ → Prop := fun env env' => env.erase = env'
  have hctx (ctx : Option Context) : Context.Together R ctx ctx := by
    refine ⟨fun env env' h => ?_, fun env env' h => ?_, fun ms env env' h => ?_⟩
    · subst h
      rfl
    · subst h
      rfl
    · subst h
      obtain ⟨hwaited, herased, -⟩ := erase_wait ctx ms env
      exact ⟨hwaited, herased⟩
  exact Provider.alike_retrying r alike_report_erase rfl (hctx _) r.respects_eq rfl
    (p.alike_recording_erase s input) env env.erase rfl

/-- **Nor does it change anything** about what a layer that signs makes of an input. -/
theorem SigningLayer.erase_rewrite_recording (p : Provider σ) (registry : Registry) (s : Shape)
    (input : s.Input) (env : Env (Logged Handling σ)) :
    (((SigningLayer.mk p.recording registry).rewrite s input).run env).1
        = (((SigningLayer.mk p registry).rewrite s input).run env.erase).1 ∧
      (((SigningLayer.mk p.recording registry).rewrite s input).run env).2.erase
        = (((SigningLayer.mk p registry).rewrite s input).run env.erase).2 := by
  have hcall (ctx : Option Context) (c : Call) :
      Alike (fun (env : Env (Logged Handling σ)) env' => env.erase = env') Eq
        (p.recording.call ctx c).run (p.call ctx c).run := by
    cases ctx with
    | none => exact p.alike_recording_erase .call c
    | some ctx => exact p.alike_recording_erase .callContext (ctx, c)
  exact alike_rewrite registry alike_report_erase s input (Reader.agree_ofProvider (hcall _))
    env env.erase rfl

/-- The environments without their logs are related, and the logs are of one length. -/
def Beside (R : Env σ → Env τ → Prop) (env : Env (Logged X σ)) (env' : Env (Logged Y τ)) : Prop :=
  R env.erase env'.erase ∧ env.log.length = env'.log.length

variable {R : Env σ → Env τ → Prop}

/-- What was reported does not matter beside a log, either. -/
theorem Blind.beside (hR : Blind R) :
    Blind (Beside R : Env (Logged X σ) → Env (Logged Y τ) → Prop) :=
  fun env env' _ _ _ _ h => ⟨hR env.erase env'.erase _ _ _ _ h.1, h.2⟩

/-- Nor does the log matter to contexts and pauses. -/
theorem Context.Together.beside {ctx ctx' : Option Context} (h : Context.Together R ctx ctx') :
    Context.Together (Beside R : Env (Logged X σ) → Env (Logged Y τ) → Prop) ctx ctx' where
  cancelled env env' hR := h.cancelled env.erase env'.erase hR.1
  done env env' hR := h.done env.erase env'.erase hR.1
  wait ms env env' hR := by
    obtain ⟨hwaited, herased, hlog⟩ := erase_wait ctx ms env
    obtain ⟨hwaited', herased', hlog'⟩ := erase_wait ctx' ms env'
    obtain ⟨heq, hleft⟩ := h.wait ms env.erase env'.erase hR.1
    rw [hwaited, hwaited']
    refine ⟨heq, ?_, ?_⟩
    · rw [herased, herased']
      exact hleft
    · rw [hlog, hlog']
      exact hR.2

/-- **Two records stay of one length** while the uses of what they are about are alike. -/
theorem Provider.alike_recording {p : Provider σ} {p' : Provider τ} {s s' : Shape}
    {input : s.Input} {input' : s'.Input}
    {T : Except ProviderError s.Output → Except ProviderError s'.Output → Prop}
    (h : Alike R T (p.handle s input).run (p'.handle s' input').run) :
    Alike (Beside R) T (p.recording.handle s input).run (p'.recording.handle s' input').run := by
  intro env env' hR
  obtain ⟨hT, hleft⟩ := h env.erase env'.erase hR.1
  refine ⟨hT, hleft, ?_⟩
  have hone : (env.log ++ [Handling.mk s input ((p.handle s input).run env.erase).1]).length
      = (env'.log ++ [Handling.mk s' input' ((p'.handle s' input').run env'.erase).1]).length := by
    rw [List.length_append, List.length_append, hR.2]
    rfl
  exact hone

end Records

/-! ## Clients -/

section Clients

variable {R : Env σ → Env σ → Prop} {s s' : Shape}

/-- What is handed on belongs together, or is given up for the same error on both sides. -/
inductive Handed (I : s.Input → s'.Input → Prop)
    (T : Except ProviderError s.Output → Except ProviderError s'.Output → Prop) :
    Except ProviderError s.Input → Except ProviderError s'.Input → Prop where
  | ok {input : s.Input} {input' : s'.Input} (h : I input input') :
    Handed I T (.ok input) (.ok input')
  | error {e : ProviderError} (h : T (.error e) (.error e)) : Handed I T (.error e) (.error e)

/-- **The layers of a client are alike** on inputs of two shapes, if the signed inputs belong
together and the transport with its timeout answers such inputs alike. -/
theorem Client.alike_beneath (transport : Provider σ) (o : ClientOption)
    {I : s.Input → s'.Input → Prop}
    {T : Except ProviderError s.Output → Except ProviderError s'.Output → Prop} (hR : Blind R)
    (htimed : ∀ input input', I input input' →
      Alike R T (((transport.withTimeout o.requestTimeout.ticks).handle s input).run)
        (((transport.withTimeout o.requestTimeout.ticks).handle s' input').run))
    {input : s.Input} {input' : s'.Input} (hI : I input input')
    (hsign : ∀ registry, o.registry = some registry →
      let l := SigningLayer.mk (transport.withTimeout o.requestTimeout.ticks) registry
      Alike R (Handed I T) (l.rewrite s input).run (l.rewrite s' input').run) :
    Alike R T ((beneath transport o).handle s input).run
      ((beneath transport o).handle s' input').run := by
  have hreported : ∀ input input', I input input' →
      Alike R T
        ((if o.logging then logging s ((transport.withTimeout o.requestTimeout.ticks).handle s)
          else (transport.withTimeout o.requestTimeout.ticks).handle s) input).run
        ((if o.logging then logging s' ((transport.withTimeout o.requestTimeout.ticks).handle s')
          else (transport.withTimeout o.requestTimeout.ticks).handle s') input').run := by
    intro input input' hI
    split
    · exact hR.alike_logging (htimed input input' hI)
    · exact htimed input input' hI
  unfold beneath
  dsimp only
  cases hreg : o.registry with
  | none => exact hreported input input' hI
  | some registry =>
    dsimp only
    rw [SigningLayer.layer_eq_bind, SigningLayer.layer_eq_bind, ExceptT.run_bind, ExceptT.run_bind]
    refine (hsign registry hreg).bind fun r r' hrr' => ?_
    cases hrr' with
    | ok hI' => exact hreported _ _ hI'
    | error hT => exact .pure hT

end Clients

end EthClient
