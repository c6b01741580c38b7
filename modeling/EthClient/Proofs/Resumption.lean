import EthClient.Proofs.Alike
import EthClient.Proofs.Resumable
import EthClient.Proofs.Retention

/-! # Population can be resumed

Population is resumable step by step:

* the envelope that was chosen is set, and is chosen again; a price that became both caps is a price
  no more, so that it does not conflict with them (**`Populating.resumable_setFees`**);
* value, nonce, gas and chain id are set once, and a step behind them keeps them
  (**`Populating.resumable_complete`**).

So what population leaves when its connection is lost, whether it fails then or not, comes with a
node that answers to what population would have come to from the beginning
(**`TransactionArgs.populate_resumes`**). -/

namespace EthClient

variable {σ τ : Type}

/-- Two nodes that answer from one table agree, whatever their environments are. -/
theorem Reader.agree_fixed {answers : (q : Query) → Except ProviderError q.Answer} :
    Reader.Agree (fun (_ : Env σ) (_ : Env τ) => True) (.fixed answers) (.fixed answers) :=
  fun _ _ _ _ => ⟨rfl, trivial⟩

namespace Populating

variable {answers : (q : Query) → Except ProviderError q.Answer} {k : Nat}
variable {loss : Nat → ProviderError} {P : TransactionArgs → Prop}

/-! ## Fees -/

/-- A price is not turned into caps twice. -/
theorem resumable_priceToCaps :
    Resumable (modify (·.priceToCaps)) (modify (·.priceToCaps) : Populating σ Unit)
      fun a => a.gasPrice = none :=
  resumable_modify (fun a => a.gasPrice_priceToCaps) fun _ ha =>
    TransactionArgs.priceToCaps_of_none ha

/-- The question for the price of gas. -/
theorem truthful_gasPrice (a : TransactionArgs) :
    ∃ told, Truthful (ask (.severed answers k loss) "fetching gas price" .gasPrice)
      (ask (Reader.fixed answers : Reader σ) "fetching gas price" .gasPrice) a told :=
  ⟨_, truthful_ask _ _ a⟩

/-- Storing its answer keeps everything else. -/
theorem keeps_fetchPrice {missing : TransactionArgs → Bool}
    {store : Amount → TransactionArgs → TransactionArgs} (hP : ∀ price a, P a → P (store price a)) :
    Keeps (fetch missing (fun _ => ask (.severed answers k loss) "fetching gas price" .gasPrice)
      store) P :=
  keeps_fetch (f := fun _ => ask (Reader.fixed answers : Reader Unit) _ _) truthful_gasPrice hP

/-- Caps that were filled are not missing. -/
theorem resumable_fillCaps (baseFee : Option Amount) :
    Resumable (fillCaps (.severed answers k loss) baseFee)
      (fillCaps (Reader.fixed answers : Reader σ) baseFee) fun a => a.lacksCap = false := by
  cases baseFee with
  | some fee =>
    -- neither cap is missing, so both stay
    exact resumable_modify (fun a => rfl) fun a ha =>
      TransactionArgs.capsFromBaseFee_of_not_lacksCap ha fee
  | none => exact resumable_fetch truthful_gasPrice fun price a => rfl

/-- Filling them keeps everything else. -/
theorem keeps_fillCaps (hP : ∀ a maxFee tip, P a → P { a with maxFee, maxPriorityFee := tip })
    (baseFee : Option Amount) : Keeps (fillCaps (.severed answers k loss) baseFee) P := by
  cases baseFee with
  | some fee => exact keeps_modify fun a ha => hP a _ _ ha
  | none => exact keeps_fetchPrice fun price a ha => hP a _ _ ha

/-- The check of the caps keeps everything. -/
theorem keeps_orderCaps : Keeps (orderCaps : Populating σ Unit) P :=
  keeps_of_pure run_orderCaps fun _ ha => ha

/-- The check is resumable. -/
theorem resumable_orderCaps :
    Resumable orderCaps (orderCaps : Populating σ Unit) fun a => a.checkCaps = .ok () := by
  refine resumable_of_pure run_orderCaps run_orderCaps (fun a => rfl) ?_ ?_
  · intro a b hok
    obtain ⟨hcheck, rfl⟩ := Prod.mk.inj hok
    exact hcheck
  · intro a ha
    rw [ha]

/-- **The caps** are resumable. -/
theorem resumable_setCaps (baseFee : Option Amount) :
    Resumable (setCaps (.severed answers k loss) baseFee)
      (setCaps (Reader.fixed answers : Reader σ) baseFee)
      (TransactionArgs.PricedFor .dynamicFee) := by
  rw [setCaps_eq, setCaps_eq]
  refine resumable_priceToCaps.bind ((resumable_fillCaps baseFee).bind resumable_orderCaps ?_) ?_
  · exact keeps_orderCaps
  · exact (keeps_fillCaps (fun a _ _ ha => ha) baseFee).bind fun _ => keeps_orderCaps

/-- **The price** is resumable. -/
theorem resumable_setPrice :
    Resumable (setPrice (.severed answers k loss)) (setPrice (Reader.fixed answers : Reader σ))
      fun a => a.hasFeeMarketFields = false ∧ a.gasPrice.isNone = false := by
  rw [setPrice_eq, setPrice_eq]
  refine (resumable_refuse _ _).bind (resumable_fetch truthful_gasPrice fun price a => rfl) ?_
  exact keeps_fetchPrice fun _ _ ha => ha

/-! ## Envelope and fees -/

/-- Setting the fees keeps everything else. -/
theorem keeps_setPrices (hP : ∀ a gasPrice maxFee maxPriorityFee, P a →
      P { a with gasPrice, maxFee, maxPriorityFee })
    (baseFee : Option Amount) (type : TxType) :
    Keeps (setPrices (.severed answers k loss) baseFee type) P := by
  have hprice : Keeps (setPrice (.severed answers k loss)) P := by
    rw [setPrice_eq]
    refine (keeps_refuse _ _).bind fun _ => ?_
    exact keeps_fetchPrice fun price a ha => hP a _ _ _ ha
  cases type with
  | dynamicFee =>
    unfold setPrices
    rw [setCaps_eq]
    refine (keeps_modify fun a ha => ?_).bind fun _ =>
      (keeps_fillCaps (fun a _ _ ha => hP a _ _ _ ha) baseFee).bind fun _ => keeps_orderCaps
    unfold TransactionArgs.priceToCaps
    split
    · exact hP a _ _ _ ha
    · exact ha
  | legacy | accessList => exact hprice

/-- **An envelope and its fees** are resumable. -/
theorem resumable_chooseFees (baseFee : Option Amount) (type : TxType) :
    Resumable (chooseFees (.severed answers k loss) baseFee type)
      (chooseFees (Reader.fixed answers : Reader σ) baseFee type)
      fun a => a.txType = some type ∧ a.PricedFor type := by
  have hfees : Resumable (setPrices (.severed answers k loss) baseFee type)
      (setPrices (Reader.fixed answers : Reader σ) baseFee type)
      (TransactionArgs.PricedFor type) := by
    cases type with
    | dynamicFee => exact resumable_setCaps baseFee
    | legacy | accessList => exact resumable_setPrice
  have htype : Resumable (modify fun a => { a with txType := some type })
      (modify fun a => { a with txType := some type } : Populating σ Unit)
      fun a => a.txType = some type := by
    refine resumable_modify (fun a => rfl) fun a ha => ?_
    rw [← ha]
  exact htype.bind hfees (keeps_setPrices (fun _ _ _ _ ha => ha) baseFee type)

/-- Whether the fees are set or not, the envelope is, and a price and a cap do not come
together. -/
theorem ends_chooseFees {a : TransactionArgs} (baseFee : Option Amount) (type : TxType)
    (env : Env Nat) (hone : ¬ a.hasConflict) :
    Ends (chooseFees (.severed answers k loss) baseFee type) a env
      fun _ b _ => b.txType = some type ∧ ¬ b.hasConflict := by
  have hone' : ¬ { a with txType := some type }.hasConflict := hone
  have hkept : Retains (setPrices (.severed answers k loss) baseFee type)
      { a with txType := some type } := retains_setPrices rfl hone' baseFee
  exact ends_modify ((hkept env).mono fun _ b _ hb => ⟨hb.1.txType _ rfl, hb.1.noConflict hone'⟩)

/-- The envelope is set, and the fees are those that it has on the chain of the latest block. -/
def FeesSettled (answers : (q : Query) → Except ProviderError q.Answer) (a : TransactionArgs) :
    Prop :=
  ∃ block type, answers (.blockByNumber .latest false) = .ok (some block) ∧
    a.txType = some type ∧ a.PricedFor type

/-- With a latest block that is told, the fees of the envelope are set. -/
theorem gives_setFees {block : Block} {type : TxType} {a : TransactionArgs}
    {out : Except PopulateError Unit × TransactionArgs}
    (hhead : answers (.blockByNumber .latest false) = .ok (some block)) (hone : ¬ a.hasConflict)
    (htype : a.envelope block.baseFee = .ok type)
    (h : Gives (chooseFees (Reader.fixed answers : Reader σ) block.baseFee type) a out) :
    Gives (setFees (Reader.fixed answers : Reader σ)) a out := by
  have hask := gives_ask (σ := σ) answers "fetching latest block" (.blockByNumber .latest false) a
  rw [hhead] at hask
  unfold setFees
  refine .get ?_
  dsimp only
  rw [if_neg fun hboth => hone (Bool.and_eq_true_iff.mp hboth)]
  refine hask.bind ?_
  dsimp only
  rw [htype]
  exact fun env => h _

/-- **Setting envelope and fees** ends with the arguments as they were, or in choosing them. -/
theorem ends_setFees_severed {a : TransactionArgs} {env : Env Nat}
    {post : Except PopulateError Unit → TransactionArgs → Env Nat → Prop}
    (hsame : ∀ e env', post (.error e) a env')
    (hchoose : ∀ block type env', answers (.blockByNumber .latest false) = .ok (some block) →
      ¬ a.hasConflict → a.envelope block.baseFee = .ok type →
      Ends (chooseFees (.severed answers k loss) block.baseFee type) a env' post) :
    Ends (setFees (.severed answers k loss)) a env post := by
  unfold setFees
  refine .get ?_
  dsimp only
  split
  · exact hsame _ _
  · rename_i hboth
    have hone : ¬ a.hasConflict := fun h => hboth (Bool.and_eq_true_iff.mpr h)
    by_cases hk : env.node < k
    · refine ends_ask (Reader.run_severed_of_lt hk _) ?_ fun e _ => hsame _ _
      intro head hhead
      cases head with
      | none => exact hsame _ _
      | some block =>
        dsimp only
        cases htype : a.envelope block.baseFee with
        | error e => exact hsame _ _
        | ok type => exact ends_lift (hchoose block type _ hhead hone htype)
    · refine ends_ask (Reader.run_severed_of_not_lt hk _) ?_ fun e _ => hsame _ _
      rintro head hhead
      cases hhead

/-- It keeps what does not depend on envelope and fees. -/
theorem keeps_setFees (htype : ∀ a type, P a → P { a with txType := some type })
    (hfees : ∀ a gasPrice maxFee maxPriorityFee, P a →
      P { a with gasPrice, maxFee, maxPriorityFee }) :
    Keeps (setFees (.severed answers k loss)) P := by
  intro a env ha
  refine ends_setFees_severed (fun _ _ => ha) fun block type env' _ _ _ => ?_
  exact ends_modify (keeps_setPrices hfees block.baseFee type _ env' (htype a type ha))

/-- What they come to with a node that answers does not depend on the environment. -/
theorem exists_gives_setFees (a : TransactionArgs) :
    ∃ out, Gives (setFees (Reader.fixed answers : Reader σ)) a out := by
  have hagree : Agree (fun _ _ => True) (setFees (Reader.fixed answers : Reader σ))
      (setFees (Reader.fixed answers : Reader Unit)) :=
    agree_setFees Reader.agree_fixed fun _ _ _ _ => ⟨rfl, trivial⟩
  exact ⟨_, fun env => (hagree a env { node := () } trivial).1⟩

/-- **Envelope and fees** are resumable. -/
theorem resumable_setFees :
    Resumable (setFees (.severed answers k loss)) (setFees (Reader.fixed answers : Reader σ))
      (FeesSettled answers) := by
  have hchoose (block : Block) (type : TxType) :
      Resumable (chooseFees (.severed answers k loss) block.baseFee type)
        (chooseFees (Reader.fixed answers : Reader σ) block.baseFee type)
        fun a => a.txType = some type ∧ a.PricedFor type :=
    resumable_chooseFees block.baseFee type
  constructor
  · intro a env
    obtain ⟨out, hout⟩ := exists_gives_setFees (σ := σ) a
    refine ends_setFees_severed (fun e env' => ⟨out, hout, hout, nofun⟩) ?_
    intro block type env' hhead hone htype
    -- what is left is without a conflict, too, and its envelope is the one that was chosen
    obtain ⟨hset, hone'⟩ := ends_chooseFees block.baseFee type env' hone
    obtain ⟨out', ha, hb, hok⟩ := (hchoose block type).again a env'
    refine ⟨out', gives_setFees hhead hone htype ha,
      gives_setFees hhead hone' (TransactionArgs.envelope_of_set hset _) hb, fun hr => ?_⟩
    obtain ⟨heq, hdone⟩ := hok hr
    exact ⟨heq, block, type, hhead, hdone⟩
  · rintro a ⟨block, type, hhead, hset, hpriced⟩
    exact gives_setFees hhead hpriced.not_hasConflict (TransactionArgs.envelope_of_set hset _)
      ((hchoose block type).idle a ⟨hset, hpriced⟩)

/-! ## Behind the fees -/

/-- The nonce of a sender according to a table: without the pending transactions only if there is no
count with them. -/
def nonceTold (answers : (q : Query) → Except ProviderError q.Answer) (sender : Address) :
    Except PopulateError Amount :=
  match answers (.transactionCount sender .pending) with
  | .ok nonce => .ok nonce
  | .error _ => (answers (.transactionCount sender .latest)).mapError fun e =>
    .reader "fetching nonce" (.provider e)

/-- A node that answers from the table tells this nonce. -/
theorem gives_nextNonce (sender : Address) (a : TransactionArgs) :
    Gives (nextNonce (Reader.fixed answers : Reader σ) sender) a (nonceTold answers sender, a) := by
  have hask {g : Except ProviderError Amount → Populating σ Amount}
      {out : Except PopulateError Amount × TransactionArgs}
      (h : Gives (g (answers (.transactionCount sender .pending))) a out) :
      Gives (liftM ((Reader.fixed answers : Reader σ).ask
        (.transactionCount sender .pending)).run >>= g) a out := h
  unfold nonceTold
  refine hask ?_
  cases answers (.transactionCount sender .pending) with
  | ok nonce => exact gives_of_pure rfl
  | error e =>
    -- the report before the second question is no part of what it comes to
    exact fun env => gives_ask answers "fetching nonce" (.transactionCount sender .latest) a _

/-- If the count with pending transactions is lost, so is the one without them. -/
theorem ends_nextNonce_lost {env : Env Nat} (hk : ¬ env.node < k) (sender : Address)
    (a : TransactionArgs) :
    Ends (nextNonce (.severed answers k loss) sender) a env fun r b _ =>
      b = a ∧ ∀ v, r ≠ .ok v := by
  unfold nextNonce
  refine ends_lift ?_
  rw [Reader.run_severed_of_not_lt hk]
  refine ends_lift ?_
  -- there is one question more by now
  have hlater : ¬ env.node + 1 < k := fun h => hk (Nat.lt_of_succ_lt h)
  refine (ends_answer _ (Reader.run_severed_of_not_lt hlater _)).mono ?_
  rintro r b _ ⟨rfl, rfl, -⟩
  exact ⟨rfl, nofun⟩

/-- **The questions for the nonce** are answered from the table or not at all. -/
theorem truthful_nextNonce (sender : Address) (a : TransactionArgs) :
    Truthful (nextNonce (.severed answers k loss) sender)
      (nextNonce (Reader.fixed answers : Reader σ) sender) a (nonceTold answers sender) := by
  refine ⟨gives_nextNonce sender a, fun env => ?_⟩
  by_cases hk : env.node < k
  · unfold nextNonce nonceTold
    refine ends_lift ?_
    rw [Reader.run_severed_of_lt hk]
    cases answers (.transactionCount sender .pending) with
    | ok nonce => exact ⟨rfl, fun v hv => hv⟩
    | error e =>
      exact ends_lift ((truthful_ask (σ := σ) "fetching nonce"
        (.transactionCount sender .latest) a).ends _)
  · refine (ends_nextNonce_lost hk sender a).mono ?_
    rintro r b _ ⟨rfl, hlost⟩
    exact ⟨rfl, fun v hv => absurd hv (hlost v)⟩

/-- It is answered from the table or not at all, like others. -/
theorem truthful_tellChainId (a : TransactionArgs) :
    ∃ told, Truthful (tellChainId (.severed answers k loss))
      (tellChainId (Reader.fixed answers : Reader σ)) a told := by
  refine ⟨_, (truthful_ask "fetching chain id" .chainId a).bind
    (G := fun told => told.elim (.error .chainNotReady) .ok) ?_ ?_⟩
  · intro told
    cases told <;> rfl
  · intro told
    cases told <;> rfl

variable {reader : Reader σ}

/-- Setting the nonce keeps everything else. -/
theorem keeps_setNonce (hP : ∀ a nonce, P a → P { a with nonce }) (sender : Address) :
    Keeps (setNonce reader sender) P := by
  intro a env ha
  refine (ends_setNonce reader sender a env).mono ?_
  rintro r b _ ⟨nonce, rfl, -⟩
  exact hP a nonce ha

/-- Setting the gas keeps everything else. -/
theorem keeps_setGas (hP : ∀ a gas, P a → P { a with gas }) : Keeps (setGas reader) P := by
  intro a env ha
  refine (ends_setGas reader a env).mono ?_
  rintro r b _ ⟨gas, rfl, -⟩
  exact hP a gas ha

/-- Setting the chain id keeps everything else. -/
theorem keeps_setChainId (hP : ∀ a chainId, P a → P { a with chainId }) :
    Keeps (setChainId reader) P := by
  intro a env ha
  refine (ends_setChainId reader a env).mono ?_
  rintro r b _ ⟨chainId, rfl, -⟩
  exact hP a chainId ha

/-- A value that is set stays. -/
theorem resumable_setValue :
    Resumable (modify fun a => { a with value := some (a.value.getD 0) })
      (modify fun a => { a with value := some (a.value.getD 0) } : Populating σ Unit)
      fun a => a.value.isSome = true :=
  resumable_modify (fun _ => rfl) fun _ ha => setValue_of_isSome ha

/-- Nor is a nonce asked for once more. -/
theorem resumable_setNonce (sender : Address) :
    Resumable (setNonce (.severed answers k loss) sender)
      (setNonce (Reader.fixed answers : Reader σ) sender) fun a => a.nonce.isNone = false :=
  resumable_fetch (fun a => ⟨_, truthful_nextNonce sender a⟩) fun _ _ => rfl

/-- Gas is asked for again with the arguments it was asked for with. -/
theorem resumable_setGas :
    Resumable (setGas (.severed answers k loss)) (setGas (Reader.fixed answers : Reader σ))
      fun a => a.gas.isNone = false := by
  rw [setGas_eq, setGas_eq]
  exact resumable_fetch (fun a => ⟨_, truthful_ask _ _ a⟩) fun _ _ => rfl

/-- A chain id that is not known yet is not stored. -/
theorem resumable_setChainId :
    Resumable (setChainId (.severed answers k loss))
      (setChainId (Reader.fixed answers : Reader σ)) fun a => a.chainId.isNone = false := by
  rw [setChainId_eq, setChainId_eq]
  exact resumable_fetch truthful_tellChainId fun _ _ => rfl

/-- **What is behind the fees** is resumable. -/
theorem resumable_complete (sender : Address) :
    Resumable (complete (.severed answers k loss) sender)
      (complete (Reader.fixed answers : Reader σ) sender) Completed := by
  -- nothing that is set is changed by a step behind it
  refine resumable_setValue.bind ((resumable_setNonce sender).bind
    ((resumable_refuse _ _).bind (resumable_setGas.bind resumable_setChainId ?_) ?_) ?_) ?_
  · exact keeps_setChainId fun a _ ha => ha
  · exact (keeps_setGas fun a _ ha => ha).bind fun _ => keeps_setChainId fun a _ ha => ha
  · exact (keeps_refuse _ _).bind fun _ =>
      (keeps_setGas fun a _ ha => ha).bind fun _ => keeps_setChainId fun a _ ha => ha
  · exact (keeps_setNonce (fun a _ ha => ha) sender).bind fun _ => (keeps_refuse _ _).bind fun _ =>
      (keeps_setGas fun a _ ha => ha).bind fun _ => keeps_setChainId fun a _ ha => ha

/-- It keeps everything else. -/
theorem keeps_complete (hvalue : ∀ a value, P a → P { a with value })
    (hnonce : ∀ a nonce, P a → P { a with nonce }) (hgas : ∀ a gas, P a → P { a with gas })
    (hchainId : ∀ a chainId, P a → P { a with chainId }) (sender : Address) :
    Keeps (complete reader sender) P :=
  (keeps_modify fun a ha => hvalue a _ ha).bind fun _ =>
    (keeps_setNonce hnonce sender).bind fun _ => (keeps_refuse _ _).bind fun _ =>
      (keeps_setGas hgas).bind fun _ => keeps_setChainId hchainId

/-- The fees in particular. -/
theorem keeps_feesSettled (sender : Address) :
    Keeps (complete reader sender) (FeesSettled answers) := by
  refine keeps_complete ?_ ?_ ?_ ?_ sender
  all_goals
    rintro a _ ⟨block, type, hhead, htype, hpriced⟩
    refine ⟨block, type, hhead, htype, ?_⟩
    cases type <;> exact hpriced

/-! ## The whole population -/

/-- There is a sender, and everything is set. -/
def Settled (answers : (q : Query) → Except ProviderError q.Answer) (a : TransactionArgs) : Prop :=
  a.sender.isSome = true ∧ FeesSettled answers a ∧ Completed a

/-- **Everything for one sender** is resumable. -/
theorem resumable_settle (sender : Address) :
    Resumable (settle (.severed answers k loss) sender)
      (settle (Reader.fixed answers : Reader σ) sender)
      fun a => FeesSettled answers a ∧ Completed a :=
  resumable_setFees.bind (resumable_complete sender) (keeps_feesSettled sender)

/-- The sender is kept. -/
theorem keeps_sender_settle (sender : Address) :
    Keeps (settle (.severed answers k loss) sender) fun a => a.sender = some sender :=
  (keeps_setFees (fun _ _ ha => ha) fun _ _ _ _ ha => ha).bind fun _ =>
    keeps_complete (fun _ _ ha => ha) (fun _ _ ha => ha) (fun _ _ ha => ha) (fun _ _ ha => ha)
      sender

/-- With a sender, everything is set for that one. -/
theorem gives_setAll {a : TransactionArgs} {sender : Address}
    {out : Except PopulateError Unit × TransactionArgs} (hsender : a.sender = some sender)
    (h : Gives (settle reader sender) a out) : Gives (setAll reader) a out := by
  rw [setAll_eq]
  refine .get ?_
  rw [hsender]
  exact h

/-- Without one, nothing is. -/
theorem gives_setAll_none {a : TransactionArgs} (hsender : a.sender = none) :
    Gives (setAll reader) a (.error .missingSender, a) := by
  rw [setAll_eq]
  refine .get ?_
  rw [hsender]
  exact gives_of_pure rfl

/-- **Population** is resumable. -/
theorem resumable_setAll :
    Resumable (setAll (.severed answers k loss)) (setAll (Reader.fixed answers : Reader σ))
      (Settled answers) := by
  have hsettle (sender : Address) :
      Resumable (settle (.severed answers k loss) sender)
        (settle (Reader.fixed answers : Reader σ) sender)
        fun a => FeesSettled answers a ∧ Completed a := resumable_settle sender
  constructor
  · intro a env
    cases hsender : a.sender with
    | none =>
      have hnone : Gives (setAll (Reader.fixed answers : Reader σ)) a
          (.error .missingSender, a) := gives_setAll_none hsender
      rw [setAll_eq (.severed answers k loss)]
      refine .get ?_
      rw [hsender]
      exact ⟨_, hnone, hnone, nofun⟩
    | some sender =>
      rw [setAll_eq (.severed answers k loss)]
      refine .get ?_
      rw [hsender]
      have hkept : Ends (settle (.severed answers k loss) sender) a env
          fun _ b _ => b.sender = some sender := keeps_sender_settle sender a env hsender
      obtain ⟨out, ha, hb, hok⟩ := (hsettle sender).again a env
      refine ⟨out, gives_setAll hsender ha, gives_setAll hkept hb, fun hr => ?_⟩
      obtain ⟨heq, hdone⟩ := hok hr
      exact ⟨heq, Option.isSome_iff_exists.mpr ⟨sender, hkept⟩, hdone⟩
  · rintro a ⟨hsome, hdone⟩
    obtain ⟨sender, hsender⟩ := Option.isSome_iff_exists.mp hsome
    exact gives_setAll hsender ((hsettle sender).idle a hdone)

end Populating

/-! ## After an interruption -/

/-- How a connection is lost: after how many questions, with what error each one behind them fails,
and what the environment was. -/
structure Severance where
  answered : Nat
  loss : Nat → ProviderError
  env : Env Nat

namespace TransactionArgs

variable {answers : (q : Query) → Except ProviderError q.Answer}

/-- What population leaves when its connection is lost, whether it fails then or not. -/
def left (answers : (q : Query) → Except ProviderError q.Answer) (a : TransactionArgs)
    (i : Severance) : TransactionArgs :=
  (a.populate (.severed answers i.answered i.loss) i.env).1.2

/-- What is left after one interruption. -/
theorem populate_left (a : TransactionArgs) (i : Severance) (env env' : Env σ) :
    ((a.left answers i).populate (.fixed answers) env).1
      = (a.populate (.fixed answers) env').1 := by
  have hresumable : Populating.Resumable
      (Populating.setAll (.severed answers i.answered i.loss))
      (Populating.setAll (Reader.fixed answers : Reader σ))
      (Populating.Settled answers) := Populating.resumable_setAll
  obtain ⟨out, hbegin, hleft, -⟩ := hresumable.again a i.env
  calc ((a.left answers i).populate (.fixed answers) env).1
    _ = out := hleft env
    _ = (a.populate (.fixed answers) env').1 := (hbegin env').symm

/-- **Population can be resumed.** Let the connection to the node be lost after any number of
questions. What population leaves, whether it fails then or not, is populated to the same result and
the same arguments as those that it began with. However often the connection is lost, the same holds
of what is left in the end. -/
theorem populate_resumes (answers : (q : Query) → Except ProviderError q.Answer)
    (a : TransactionArgs) :
    (∀ (k : Nat) (loss : Nat → ProviderError) (env : Env Nat) (env₁ env₂ : Env σ),
      let left := (a.populate (.severed answers k loss) env).1.2
      (left.populate (.fixed answers) env₁).1 = (a.populate (.fixed answers) env₂).1) ∧
    ∀ (severances : List Severance) (env₁ env₂ : Env σ),
      ((severances.foldl (left answers) a).populate (.fixed answers) env₁).1
        = (a.populate (.fixed answers) env₂).1 := by
  constructor
  · intro k loss env env₁ env₂
    exact populate_left a ⟨k, loss, env⟩ env₁ env₂
  · intro severances env₁ env₂
    induction severances generalizing a with
    | nil =>
      have hagree : Populating.Agree (fun _ _ => True)
          (Populating.setAll (Reader.fixed answers : Reader σ))
          (Populating.setAll (Reader.fixed answers : Reader σ)) :=
        Populating.agree_setAll Reader.agree_fixed fun _ _ _ _ => ⟨rfl, trivial⟩
      exact (hagree a env₁ env₂ trivial).1
    | cons i later ih =>
      rw [List.foldl_cons, ih]
      exact populate_left a i env₂ env₂

end TransactionArgs

end EthClient
