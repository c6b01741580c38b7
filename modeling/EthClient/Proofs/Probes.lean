import EthClient.Proofs.Attempts
import EthClient.Proofs.Interchange

/-! # Failed probes behind errors of signing

Before a layer signs, it asks for what is missing, and such a probe may fail. Of the error that
leaves the layer then, all that a caller can ask is its **class** (`ErrorClass`): whether the call
may be made again, and which answer of the node is behind it.

Beside a log in which every question has an entry, the entries `Accounts` for the class of an error:
either all questions have passed, and it is an error of the layer's own, or the last one has failed,
and the class is the one of this failure. A question for a count with pending transactions may fail
without that, because the one for the count as of the latest block follows it. Every step of
population and of signing keeps to this, also if it succeeds (`Explains`), and so does the whole
layer (**`SigningLayer.explains_rewrite`**).

* **`SigningLayer.layer_keeps_class`**: the error that leaves a layer has the class of the failed
  probe, so a layer that retries in front of it makes the call again if it would do so after the
  failure itself. -/

namespace EthClient

variable {X σ ε α β : Type}

/-! ## The class of an error -/

/-- What is asked of an error: whether the call may be made again, and which answer of the node is
behind it. -/
structure ErrorClass where
  retryable : Bool
  response : Option RpcError

/-- The class of an error that no error of a call is behind. -/
def ErrorClass.own : ErrorClass := ⟨false, none⟩

/-- The class of an error of a call. -/
def ProviderError.errorClass (e : ProviderError) : ErrorClass := ⟨e.isRetryable, e.response?⟩

/-- The class of an error of population. -/
def PopulateError.errorClass (e : PopulateError) : ErrorClass := ⟨e.isRetryable, e.response?⟩

/-- The class of an error of signing, when it leaves the layer. -/
def SigningError.errorClass (e : SigningError) : ErrorClass := e.toProvider.errorClass

/-- An envelope that does not fit is no failure of a call. -/
theorem TransactionArgs.errorClass_of_envelope {a : TransactionArgs} {baseFee : Option Amount}
    {e : PopulateError} (h : a.envelope baseFee = .error e) : e.errorClass = .own := by
  unfold envelope at h
  split at h
  · cases h
  · split at h
    · cases h
    · split at h
      · cases h
        rfl
      · split at h <;> cases h

/-- Neither are caps in the wrong order. -/
theorem TransactionArgs.errorClass_of_checkCaps {a : TransactionArgs} {e : PopulateError}
    (h : a.checkCaps = .error e) : e.errorClass = .own := by
  unfold checkCaps at h
  split at h
  · split at h
    · cases h
      rfl
    · cases h
  · cases h

/-- Neither are parameters without arguments. -/
theorem SigningLayer.errorClass_of_argument {params : List Param} {e : SigningError}
    (h : argument params = .error e) : e.errorClass = .own := by
  unfold argument at h
  split at h
  · cases h
  · split at h
    · cases h
    · cases h
      rfl
  · cases h
    rfl

/-! ## Probes that explain an error -/

section Explains

variable {asked : (q : Query) → Except ProviderError q.Answer → X → Prop}

/-- The question was answered, or it is the one for a count with pending transactions, which the one
for a count without them may follow. -/
def Passed (asked : (q : Query) → Except ProviderError q.Answer → X → Prop) (x : X) : Prop :=
  (∃ q v, asked q (.ok v) x) ∨ ∃ a e, asked (.transactionCount a .pending) (.error e) x

/-- All questions passed, and the last one was answered. -/
structure Answered (asked : (q : Query) → Except ProviderError q.Answer → X → Prop)
    (new : List X) : Prop where
  passed : ∀ x ∈ new, Passed asked x
  last : ∀ x ∈ new.getLast?, ∃ q v, asked q (.ok v) x

/-- The questions before an error account for its class: all of them passed and it is an error of
its own, or the last one failed and it has the class of this failure. -/
inductive Accounts (asked : (q : Query) → Except ProviderError q.Answer → X → Prop) :
    ErrorClass → List X → Prop where
  | own {new : List X} (h : Answered asked new) : Accounts asked .own new
  | failed {pre : List X} {x : X} {q : Query} {p : ProviderError}
    (hpre : ∀ y ∈ pre, Passed asked y) (hx : asked q (.error p) x) :
    Accounts asked p.errorClass (pre ++ [x])

/-- No questions. -/
theorem answered_nil : Answered asked ([] : List X) := by
  constructor
  · intro x hx
    cases hx
  · intro x hx
    cases hx

/-- One question. -/
theorem answered_singleton {q : Query} {v : q.Answer} {x : X} (h : asked q (.ok v) x) :
    Answered asked [x] := by
  constructor
  · intro y hy
    rw [List.mem_singleton.mp hy]
    exact .inl ⟨q, v, h⟩
  · intro y hy
    cases hy
    exact ⟨q, v, h⟩

/-- One question that failed. -/
theorem accounts_singleton {q : Query} {e : ProviderError} {x : X} (h : asked q (.error e) x) :
    Accounts asked e.errorClass [x] := by
  have hpre : ∀ y ∈ ([] : List X), Passed asked y := fun y hy => by cases hy
  exact .failed hpre h

/-- More questions may follow. -/
theorem Answered.append {new more : List X} (h : Answered asked new)
    (h' : Answered asked more) : Answered asked (new ++ more) := by
  constructor
  · intro x hx
    exact (List.mem_append.mp hx).elim (h.passed x) (h'.passed x)
  · intro x hx
    rw [List.getLast?_append] at hx
    rcases Option.or_eq_some_iff.mp hx with hx | ⟨-, hx⟩
    · exact h'.last x hx
    · exact h.last x hx

/-- A question that passed may come before others. -/
theorem Answered.cons {x : X} {new : List X} (h : Answered asked new) (hx : Passed asked x)
    (hne : new ≠ []) : Answered asked (x :: new) := by
  obtain ⟨y, more, rfl⟩ := List.exists_cons_of_ne_nil hne
  constructor
  · intro z hz
    rcases List.mem_cons.mp hz with rfl | hz
    · exact hx
    · exact h.passed z hz
  · intro z hz
    rw [List.getLast?_cons_cons] at hz
    exact h.last z hz

/-- It does not change what they account for. -/
theorem Accounts.cons {x : X} {new : List X} {c : ErrorClass} (h : Accounts asked c new)
    (hx : Passed asked x) (hne : new ≠ []) : Accounts asked c (x :: new) := by
  cases h with
  | own h => exact .own (h.cons hx hne)
  | @failed pre y q e hpre hy =>
    have hall : ∀ z ∈ x :: pre, Passed asked z := by
      intro z hz
      rcases List.mem_cons.mp hz with rfl | hz
      · exact hx
      · exact hpre z hz
    exact .failed hall hy

/-- Questions before those that account for a class account for it together with them. -/
theorem Answered.accounts {new more : List X} {c : ErrorClass} (h : Answered asked new)
    (h' : Accounts asked c more) : Accounts asked c (new ++ more) := by
  cases h' with
  | own hmore => exact .own (h.append hmore)
  | failed hpre hx =>
    rw [← List.append_assoc]
    refine .failed (fun y hy => ?_) hx
    exact (List.mem_append.mp hy).elim (h.passed y) (hpre y)

/-- The questions explain a result: an error by its class. -/
def Explained (asked : (q : Query) → Except ProviderError q.Answer → X → Prop)
    (errorClass : ε → ErrorClass) (r : Except ε α) (new : List X) : Prop :=
  match r with
  | .ok _ => Answered asked new
  | .error e => Accounts asked (errorClass e) new

/-- An error of its own is explained without any question. -/
theorem explained_error {errorClass : ε → ErrorClass} {e : ε} (h : errorClass e = .own) :
    Explained asked errorClass (.error e : Except ε α) [] := by
  rw [Explained, h]
  exact .own answered_nil

/-- Questions that were answered may come before those that explain a result. -/
theorem Answered.explained {new more : List X} {errorClass : ε → ErrorClass} {r : Except ε α}
    (h : Answered asked new) (h' : Explained asked errorClass r more) :
    Explained asked errorClass r (new ++ more) := by
  cases r with
  | ok a => exact h.append h'
  | error e => exact h.accounts h'

/-- So may one that passed. -/
theorem Explained.cons {x : X} {new : List X} {errorClass : ε → ErrorClass} {r : Except ε α}
    (h : Explained asked errorClass r new) (hx : Passed asked x) (hne : new ≠ []) :
    Explained asked errorClass r (x :: new) := by
  cases r with
  | ok a => exact Answered.cons h hx hne
  | error e => exact Accounts.cons h hx hne

/-- What an attempt asks explains how it ends. -/
def Explains (asked : (q : Query) → Except ProviderError q.Answer → X → Prop)
    (errorClass : ε → ErrorClass) (act : ExceptT ε (StateM (Env (Logged X σ))) α) : Prop :=
  Adds act.run (Explained asked errorClass)

variable {errorClass : ε → ErrorClass}

/-- A value needs no question. -/
theorem explains_pure (a : α) :
    Explains asked errorClass (pure a : ExceptT ε (StateM (Env (Logged X σ))) α) :=
  Adds.pure answered_nil

/-- Neither does an error of its own. -/
theorem explains_throw {e : ε} (h : errorClass e = .own) :
    Explains asked errorClass (throw e : ExceptT ε (StateM (Env (Logged X σ))) α) :=
  Adds.pure (explained_error h)

/-- **One attempt after another**: an error of the first one ends both. -/
theorem Explains.bind {act : ExceptT ε (StateM (Env (Logged X σ))) α}
    {f : α → ExceptT ε (StateM (Env (Logged X σ))) β} (h : Explains asked errorClass act)
    (hf : ∀ a, Explains asked errorClass (f a)) : Explains asked errorClass (act >>= f) :=
  Adds.bindOk h (fun a _ hnew => (hf a).mono fun _ _ hmore => Answered.explained hnew hmore)
    fun _ _ he => he

/-- A report asks nothing. -/
theorem Explains.report {act : ExceptT ε (StateM (Env (Logged X σ))) α} {e : Event}
    (h : Explains asked errorClass act) :
    Explains asked errorClass
      ((liftM (EthClient.report e : Action (Logged X σ) Unit)) >>= fun _ => act) := by
  refine Adds.bindOk (adds_report e).lift ?_ ?_
  · rintro _ _ ⟨_, -, rfl⟩
    exact h
  · rintro _ _ ⟨_, he, -⟩
    cases he

end Explains

/-! ## Population -/

namespace Populating

variable {asked : (q : Query) → Except ProviderError q.Answer → X → Prop}
variable {a : TransactionArgs} {reader : Reader (Logged X σ)}

/-- What a step asks, begun with these arguments, explains how it ends. -/
def Explains (asked : (q : Query) → Except ProviderError q.Answer → X → Prop)
    (m : Populating (Logged X σ) α) (a : TransactionArgs) : Prop :=
  Adds (m.run.run a) fun p new => Explained asked PopulateError.errorClass p.1 new

/-- A value needs no question. -/
theorem explains_pure (x : α) : Explains asked (pure x : Populating (Logged X σ) α) a :=
  Adds.pure answered_nil

/-- **One step after another**: an error of the first one ends both. -/
theorem Explains.bind {m : Populating (Logged X σ) α} {f : α → Populating (Logged X σ) β}
    (hm : Explains asked m a) (hf : ∀ x b, Explains asked (f x) b) :
    Explains asked (m >>= f) a :=
  adds_bind hm (fun x b _ hnew => (hf x b).mono fun _ _ hmore => Answered.explained hnew hmore)
    fun _ _ _ he => he

/-- Looking at the arguments. -/
theorem Explains.get {f : TransactionArgs → Populating (Logged X σ) α}
    (h : Explains asked (f a) a) : Explains asked (MonadState.get >>= f) a := h

/-- Setting something in the arguments. -/
theorem explains_modify (g : TransactionArgs → TransactionArgs) :
    Explains asked (modify g : Populating (Logged X σ) Unit) a :=
  Adds.pure answered_nil

/-- A report asks nothing. -/
theorem explains_report (e : Event) :
    Explains asked (liftM (report e : Action (Logged X σ) Unit) : Populating (Logged X σ) Unit)
      a := by
  refine (adds_lift (adds_report e)).mono ?_
  rintro _ _ ⟨_, rfl, rfl⟩
  exact answered_nil

/-- **A question explains its own failure.** -/
theorem explained_answer (purpose : String) {q : Query} {answer : Except ProviderError q.Answer}
    {x : X} (h : asked q answer x) : Explained asked PopulateError.errorClass
      (answer.mapError fun e => PopulateError.reader purpose (.provider e)) [x] := by
  cases answer with
  | ok v => exact answered_singleton h
  | error e => exact accounts_singleton h

/-- So does the step that asks it. -/
theorem explains_ask (hr : reader.Tells asked) (purpose : String) (q : Query) :
    Explains asked (ask reader purpose q) a := by
  refine (adds_ask hr purpose q).mono ?_
  rintro _ _ ⟨x, answer, rfl, hask, rfl⟩
  exact explained_answer purpose hask

/-- Setting the price. -/
theorem explains_setPrice (hr : reader.Tells asked) : Explains asked (setPrice reader) a := by
  unfold setPrice
  refine .get ?_
  dsimp only
  split
  · exact Adds.pure (explained_error rfl)
  · refine .get ?_
    split
    · exact (explains_ask hr _ _).bind fun _ _ => explains_modify _
    · exact explains_pure _

/-- Setting the caps. -/
theorem explains_setCaps (hr : reader.Tells asked) (baseFee : Option Amount) :
    Explains asked (setCaps reader baseFee) a := by
  rw [setCaps_eq]
  refine .bind (explains_modify _) fun _ b => .bind ?_ fun _ c => ?_
  · cases baseFee with
    | some fee => exact explains_modify _
    | none =>
      refine .get ?_
      split
      · exact (explains_ask hr _ _).bind fun _ _ => explains_modify _
      · exact explains_pure _
  · rw [Explains, run_orderCaps]
    refine Adds.pure ?_
    cases hc : c.checkCaps with
    | ok _ => exact answered_nil
    | error e => exact explained_error (TransactionArgs.errorClass_of_checkCaps hc)

/-- Setting envelope and fees. -/
theorem explains_setFees (hr : reader.Tells asked) : Explains asked (setFees reader) a := by
  unfold setFees
  refine .get ?_
  dsimp only
  split
  · exact Adds.pure (explained_error rfl)
  · refine (explains_ask hr _ _).bind fun head b => ?_
    cases head with
    | none => exact Adds.pure (explained_error rfl)
    | some block =>
      dsimp only
      cases henvelope : a.envelope block.baseFee with
      | error e =>
        exact Adds.pure (explained_error (TransactionArgs.errorClass_of_envelope henvelope))
      | ok type =>
        refine .bind (explains_report _) fun _ _ => .bind (explains_modify _) fun _ _ => ?_
        cases type with
        | dynamicFee => exact explains_setCaps hr _
        | legacy | accessList => exact explains_setPrice hr

/-- **Of the nonce the failure of the second question is explained**: the first one may fail. -/
theorem explains_nextNonce (hr : reader.Tells asked) (s : Address) :
    Explains asked (nextNonce reader s) a := by
  unfold nextNonce
  refine adds_bind (adds_lift (hr (.transactionCount s .pending))) ?_ ?_
  · rintro pending b _ ⟨_, hp, x, rfl, hpending⟩
    cases hp
    cases pending with
    | ok n => exact Adds.pure (answered_singleton hpending)
    | error e =>
      refine adds_bind (adds_lift (adds_report _)) ?_ ?_
      · rintro _ b _ ⟨_, hp, rfl⟩
        cases hp
        refine (adds_ask hr _ (.transactionCount s .latest)).mono ?_
        rintro _ _ ⟨y, latest, rfl, hlatest, rfl⟩
        -- the count with pending transactions is the one question that may fail
        exact (explained_answer _ hlatest).cons (.inr ⟨s, e, hpending⟩) (List.cons_ne_nil y [])
      · rintro _ _ _ ⟨_, hp, -⟩
        cases hp
  · rintro _ _ _ ⟨_, hp, -⟩
    cases hp

/-- Setting the nonce. -/
theorem explains_setNonce (hr : reader.Tells asked) (s : Address) :
    Explains asked (setNonce reader s) a := by
  unfold setNonce
  refine .get ?_
  split
  · exact (explains_nextNonce hr s).bind fun _ _ => explains_modify _
  · exact explains_pure _

/-- Setting the gas. -/
theorem explains_setGas (hr : reader.Tells asked) : Explains asked (setGas reader) a := by
  unfold setGas
  refine .get ?_
  split
  · exact (explains_ask hr _ _).bind fun _ _ => explains_modify _
  · exact explains_pure _

/-- Setting the chain id. -/
theorem explains_setChainId (hr : reader.Tells asked) :
    Explains asked (setChainId reader) a := by
  unfold setChainId
  refine .get ?_
  split
  · refine (explains_ask hr _ _).bind fun id _ => ?_
    cases id with
    | none => exact Adds.pure (explained_error rfl)
    | some id => exact explains_modify _
  · exact explains_pure _

/-- Setting everything. -/
theorem explains_setAll (hr : reader.Tells asked) : Explains asked (setAll reader) a := by
  unfold setAll
  refine .get ?_
  cases a.sender with
  | none => exact Adds.pure (explained_error rfl)
  | some s =>
    refine (explains_setFees hr).bind fun _ _ => .bind (explains_modify _) fun _ _ => ?_
    refine (explains_setNonce hr s).bind fun _ b => .get ?_
    dsimp only
    split
    · exact Adds.pure (explained_error rfl)
    · exact (explains_setGas hr).bind fun _ _ => explains_setChainId hr

end Populating

section Signing

variable {asked : (q : Query) → Except ProviderError q.Answer → X → Prop}

/-- **What population asks explains how it ends.** -/
theorem TransactionArgs.explains_populateToTransaction {reader : Reader (Logged X σ)}
    (hr : reader.Tells asked) (a : TransactionArgs) :
    Adds (a.populateToTransaction reader) (Explained asked PopulateError.errorClass) := by
  refine Adds.bind (Populating.explains_setAll hr) ?_
  rintro ⟨r, b⟩ new hnew
  cases r with
  | error e => exact Adds.pure (by rw [List.append_nil]; exact hnew)
  | ok _ =>
    dsimp only
    cases b.toTransaction? with
    | some tx => exact Adds.pure (by rw [List.append_nil]; exact hnew)
    | none => exact Adds.pure (Answered.accounts hnew (.own answered_nil))

/-! ## Signing -/

namespace SigningLayer

variable {l : SigningLayer (Logged X σ)} {ctx : Option Context}

/-- Nothing is asked for the signer. -/
theorem explains_resolve (l : SigningLayer (Logged X σ)) (sender : Option Address) :
    Explains asked SigningError.errorClass (l.resolve sender) := by
  unfold resolve
  cases sender with
  | some a =>
    dsimp only
    cases l.registry.get a with
    | ok s => exact explains_pure _
    | error e => exact .report (explains_throw rfl)
  | none =>
    dsimp only
    cases l.registry.default? with
    | some s => exact explains_pure _
    | none => exact explains_throw rfl

/-- **The failure of the question for the chain id** is handed on as it is. -/
theorem explains_chainId {reader : Reader (Logged X σ)} (hr : reader.Tells asked)
    (args : TransactionArgs) :
    Explains asked SigningError.errorClass (chainId reader args) := by
  unfold chainId
  cases args.chainId with
  | some id => exact explains_pure _
  | none =>
    refine Adds.bindOk (hr .chainId).lift ?_ ?_
    · rintro answer _ ⟨_, ha, x, rfl, hask⟩
      cases ha
      match answer with
      | .ok (some id) => exact Adds.pure (answered_singleton hask)
      | .ok none => exact Adds.pure (.own (answered_singleton hask))
      | .error e => exact Adds.pure (accounts_singleton hask)
    · rintro _ _ ⟨_, he, -⟩
      cases he

/-- **What is asked for a transaction** explains why it is not signed. -/
theorem explains_signTransaction (hr : (Reader.ofProvider l.inner ctx).Tells asked)
    (args : TransactionArgs) :
    Explains asked SigningError.errorClass (l.signTransaction ctx args) := by
  unfold signTransaction
  refine (explains_resolve l args.sender).bind fun signer => ?_
  refine (explains_chainId hr args).bind fun id => ?_
  refine Adds.bindOk (TransactionArgs.explains_populateToTransaction hr _).lift ?_ ?_
  · rintro r new ⟨_, ha, hnew⟩
    cases ha
    cases r with
    | error e => exact Adds.pure (by rw [List.append_nil]; exact hnew)
    | ok tx =>
      refine Adds.mono (Explains.report ?_) fun _ _ hmore => Answered.explained hnew hmore
      cases signer.signTransaction tx id with
      | error e => exact explains_throw rfl
      | ok signature => exact explains_pure _
  · rintro _ _ ⟨_, he, -⟩
    cases he

/-- A call is made into another one. -/
theorem explains_call (hr : (Reader.ofProvider l.inner ctx).Tells asked) (c : Call) :
    Explains asked ProviderError.errorClass (l.call ctx c) := by
  have hsigned : Explains asked SigningError.errorClass (l.signCall ctx c) := by
    unfold signCall
    split
    · refine Explains.bind ?_ fun _ => explains_pure _
      unfold signParams
      cases harg : argument c.params with
      | error e => exact explains_throw (errorClass_of_argument harg)
      | ok args => exact (explains_signTransaction hr args).bind fun _ => explains_pure _
    · exact explains_pure _
  -- an error of signing has the class with which it leaves
  refine Adds.bind hsigned fun r new hnew => ?_
  cases r with
  | ok c' => exact Adds.pure (by rw [List.append_nil]; exact hnew)
  | error e => exact Adds.pure (by rw [List.append_nil]; exact hnew)

/-- A batch is made into another one, element by element. -/
theorem explains_batch (hr : (Reader.ofProvider l.inner ctx).Tells asked)
    (elems : List BatchElem) : Explains asked ProviderError.errorClass (l.batch ctx elems) := by
  rw [batch_eq_mapM]
  induction elems with
  | nil => exact explains_pure _
  | cons e rest ih =>
    rw [List.mapM_cons]
    refine Explains.bind ?_ fun _ => ih.bind fun _ => explains_pure _
    exact (explains_call hr e.toCall).bind fun _ => explains_pure _

/-- **What the layer asks** explains why an input is not handed on. -/
theorem explains_rewrite (s : Shape) (input : s.Input)
    (hr : (Reader.ofProvider l.inner (s.context? input)).Tells asked) :
    Explains asked ProviderError.errorClass (l.rewrite s input) := by
  cases s with
  | call => exact explains_call hr input
  | batch => exact explains_batch hr input
  | callContext => exact (explains_call hr input.2).bind fun _ => explains_pure _
  | batchContext => exact (explains_batch hr input.2).bind fun _ => explains_pure _

end SigningLayer

end Signing

/-! ## The probe that aborts signing -/

/-- Whether an answer is one to a question is told by the call that asks it. -/
theorem Query.map_runJson_congr {q q' : Query} (h : q.toCall = q'.toCall) (v : Json) :
    (q.decoder.runJson v).map (fun _ => ()) = (q'.decoder.runJson v).map (fun _ => ()) := by
  have hmethod := congrArg Call.method h
  -- questions of two kinds call two methods
  cases q <;> cases q' <;> first | rfl | simp [toCall] at hmethod

namespace Handling

/-- **A handling asks one question**: all its answers are equal, as far as they are errors. -/
theorem Asks.unique {x : Handling} {ctx : Option Context} {q q' : Query}
    {answer : Except ProviderError q.Answer} {answer' : Except ProviderError q'.Answer}
    (h : x.Asks ctx q answer) (h' : x.Asks ctx q' answer') :
    answer.map (fun _ => ()) = answer'.map fun _ => () := by
  obtain ⟨outcome, hx, rfl⟩ := h
  obtain ⟨outcome', hx', rfl⟩ := h'
  obtain ⟨hcall, rfl⟩ := single_inj (hx.symm.trans hx')
  cases outcome with
  | error e => rfl
  | ok v =>
    have hread := Query.map_runJson_congr hcall v
    change (ProviderError.ofDecoded (q.decoder.runJson v)).map (fun _ => ())
      = (ProviderError.ofDecoded (q'.decoder.runJson v)).map fun _ => ()
    revert hread
    cases q.decoder.runJson v <;> cases q'.decoder.runJson v <;> intro hread <;> cases hread <;> rfl

/-- The last of some probes failed with this error. -/
def AbortedBy (ctx : Option Context) (probes : List Handling) (e : ProviderError) : Prop :=
  ∃ pre x q, probes = pre ++ [x] ∧ x.Asks ctx q (.error e)

/-- **The class that probes account for** is the one of the failure that aborted them, if there is
one. -/
theorem errorClass_of_accounts {ctx : Option Context} {probes : List Handling} {c : ErrorClass}
    (h : Accounts (Asks ctx) c probes) :
    (∀ x ∈ probes.dropLast, Passed (Asks ctx) x) ∧
      (∀ e, AbortedBy ctx probes e → c = e.errorClass) ∧
      ((∀ e, ¬ AbortedBy ctx probes e) → c = .own) := by
  cases h with
  | own h =>
    refine ⟨fun x hx => h.passed x (List.dropLast_subset _ hx), ?_, fun _ => rfl⟩
    rintro e ⟨pre, x, q, rfl, hx⟩
    -- the last question was answered
    obtain ⟨q', v, hv⟩ := h.last x List.getLast?_concat
    cases hx.unique hv
  | @failed pre x q e hpre hx =>
    refine ⟨?_, ?_, fun hnone => absurd ⟨pre, x, q, rfl, hx⟩ (hnone e)⟩
    · rw [List.dropLast_concat]
      exact hpre
    · rintro e' ⟨pre', x', q', heq, hx'⟩
      obtain ⟨-, rfl⟩ := List.append_singleton_inj.mp heq
      cases hx.unique hx'
      rfl

end Handling

namespace SigningLayer

variable {s : Shape}

/-- The probes of a layer that does not sign account for the error. -/
theorem exists_probes (p : Provider σ) (registry : Registry) {input : s.Input}
    {env env' : Env (Logged Handling σ)} {e : ProviderError}
    (h : ((SigningLayer.mk p.recording registry).rewrite s input).run env = (.error e, env')) :
    ∃ probes, env'.log = env.log ++ probes ∧
      Accounts (Handling.Asks (s.context? input)) e.errorClass probes := by
  obtain ⟨probes, hlog, hexplained⟩ := explains_rewrite (l := ⟨p.recording, registry⟩) s input
    (Reader.tells_recording p (s.context? input)) env
  rw [h] at hlog hexplained
  exact ⟨probes, hlog, hexplained⟩

/-- Nothing is handed on after an error, so it is the outcome. -/
theorem run_layer_of_error (l : SigningLayer σ) {input : s.Input} {env env' : Env σ}
    {e : ProviderError} (h : (l.rewrite s input).run env = (.error e, env'))
    (next : Handler σ s) : (l.layer s next input).run env = (.error e, env') := by
  rw [layer_eq_bind]
  exact run_bind_of_error h next

end SigningLayer

end EthClient
