import EthClient.Proofs.Fees

/-! # The steps of population

Population is put together from three kinds of steps: changes to the arguments, checks
(`Populating.refuse`), and fields that are asked for if they are missing (`Populating.fetch`). The
fees come first and the other fields behind them (**`Populating.setAll_eq`**).

Nothing is changed before the node has told the latest block and the envelope is chosen:
`Populating.settleOn` is everything that depends on the answer, and
**`TransactionArgs.populate_eq`** says what comes before. -/

namespace EthClient

variable {σ α : Type}

namespace Populating

/-! ## Checks -/

/-- Fails if something is wrong with the arguments. -/
def refuse (wrong : TransactionArgs → Bool) (e : PopulateError) : Populating σ Unit := do
  if wrong (← get) then throw e

/-- A check leaves the arguments alone. -/
theorem run_refuse (wrong : TransactionArgs → Bool) (e : PopulateError) (a : TransactionArgs) :
    (refuse wrong e : Populating σ Unit).run.run a
      = pure (if wrong a then .error e else .ok (), a) := by
  rw [refuse, run_get_bind]
  split <;> rfl

/-- What passes a check is not wrong. -/
theorem eq_false_of_passed {wrong : Bool} {e : PopulateError}
    (h : (if wrong then .error e else .ok () : Except PopulateError Unit) = .ok ()) :
    wrong = false := by
  cases wrong with
  | true => cases h
  | false => rfl

/-! ## Fields that are asked for -/

/-- Asks for something that is missing and stores it. -/
def fetch (missing : TransactionArgs → Bool) (m : TransactionArgs → Populating σ α)
    (store : α → TransactionArgs → TransactionArgs) : Populating σ Unit := do
  let a ← get
  if missing a then
    let v ← m a
    modify (store v)

/-- What is not missing is not asked for. -/
theorem run_fetch_idle {missing : TransactionArgs → Bool} {m : TransactionArgs → Populating σ α}
    {store : α → TransactionArgs → TransactionArgs} {a : TransactionArgs}
    (h : missing a = false) : (fetch missing m store).run.run a = pure (.ok (), a) := by
  rw [fetch, run_get_bind, h]
  rfl

/-! ## Envelope and fees -/

end Populating

/-- The fees are those of an envelope, and nothing about them is missing or wrong. -/
def TransactionArgs.PricedFor : TxType → TransactionArgs → Prop
  | .dynamicFee, a => a.gasPrice = none ∧ a.lacksCap = false ∧ a.checkCaps = .ok ()
  | _, a => a.hasFeeMarketFields = false ∧ a.gasPrice.isNone = false

/-- Such fees are no price and caps together. -/
theorem TransactionArgs.PricedFor.not_hasConflict {type : TxType} {a : TransactionArgs}
    (h : a.PricedFor type) : ¬ a.hasConflict := by
  rintro ⟨hprice, hcaps⟩
  cases type with
  | dynamicFee =>
    rw [h.1] at hprice
    cases hprice
  | legacy | accessList =>
    rw [h.1] at hcaps
    cases hcaps

/-- An envelope that is set is the one that is chosen. -/
theorem TransactionArgs.envelope_of_set {a : TransactionArgs} {type : TxType}
    (h : a.txType = some type) (baseFee : Option Amount) : a.envelope baseFee = .ok type := by
  rw [envelope, h]

/-- A price that became both caps is a price no more. -/
theorem TransactionArgs.gasPrice_priceToCaps (a : TransactionArgs) :
    a.priceToCaps.gasPrice = none := by
  unfold priceToCaps
  cases hprice : a.gasPrice with
  | some price => rfl
  | none => exact hprice

/-- Caps that are both set are not changed by a base fee. -/
theorem TransactionArgs.capsFromBaseFee_of_not_lacksCap {a : TransactionArgs}
    (h : a.lacksCap = false) (baseFee : Amount) : a.capsFromBaseFee baseFee = a := by
  obtain ⟨hmax, htip⟩ := Bool.or_eq_false_iff.mp h
  obtain ⟨maxFee, hmax⟩ := Option.isSome_iff_exists.mp (Option.isNone_eq_false_iff.mp hmax)
  obtain ⟨tip, htip⟩ := Option.isSome_iff_exists.mp (Option.isNone_eq_false_iff.mp htip)
  have hset : a = { a with maxFee := some maxFee, maxPriorityFee := some tip } := by
    rw [← hmax, ← htip]
  rw [hset]
  rfl

namespace Populating

/-- The price is set in two steps: a check, and the question. -/
theorem setPrice_eq (reader : Reader σ) :
    setPrice reader = (do
      refuse (·.hasFeeMarketFields) .feeMarketFieldsOnLegacy
      fetch (·.gasPrice.isNone) (fun _ => ask reader "fetching gas price" .gasPrice)
        fun price a => { a with gasPrice := some price }) := by
  unfold setPrice refuse
  rw [bind_assoc]
  refine bind_congr fun a => ?_
  dsimp only
  split <;> rfl

/-- Caps that are missing without a base fee are asked for. -/
theorem fillCaps_none_eq (reader : Reader σ) :
    fillCaps reader none = fetch (·.lacksCap) (fun _ => ask reader "fetching gas price" .gasPrice)
      fun price a => a.capsFromPrice price := rfl

/-- Sets the fees of an envelope. -/
def setPrices (reader : Reader σ) (baseFee : Option Amount) : TxType → Populating σ Unit
  | .dynamicFee => setCaps reader baseFee
  | _ => setPrice reader

/-- Sets an envelope and its fees. -/
def chooseFees (reader : Reader σ) (baseFee : Option Amount) (type : TxType) :
    Populating σ Unit := do
  modify fun a => { a with txType := some type }
  setPrices reader baseFee type

/-! ## Behind the fees -/

/-- A nonce that is missing is asked for. -/
theorem setNonce_eq (reader : Reader σ) (sender : Address) :
    setNonce reader sender = fetch (·.nonce.isNone) (fun _ => nextNonce reader sender)
      fun nonce a => { a with nonce := some nonce } := rfl

/-- A value that is set stays. -/
theorem setValue_of_isSome {a : TransactionArgs} (h : a.value.isSome = true) :
    { a with value := some (a.value.getD 0) } = a := by
  obtain ⟨value, hvalue⟩ := Option.isSome_iff_exists.mp h
  rw [hvalue, Option.getD_some, ← hvalue]

/-- Gas is asked for with the arguments as they are. -/
def estimate (reader : Reader σ) (a : TransactionArgs) : Populating σ Amount :=
  ask reader "estimating gas" (.estimateGas a .pending)

/-- It is asked for like the other fields. -/
theorem setGas_eq (reader : Reader σ) :
    setGas reader = fetch (·.gas.isNone) (estimate reader)
      fun gas a => { a with gas := some gas } := rfl

/-- The question for the chain id, which may not be known yet. -/
def tellChainId (reader : Reader σ) : Populating σ Number64 := do
  match ← ask reader "fetching chain id" .chainId with
  | none => throw .chainNotReady
  | some id => pure id

/-- So is the chain id. -/
theorem setChainId_eq (reader : Reader σ) :
    setChainId reader = fetch (·.chainId.isNone) (fun _ => tellChainId reader)
      fun id a => { a with chainId := some id } := by
  unfold setChainId fetch tellChainId
  refine bind_congr fun a => ?_
  split
  · rw [bind_assoc]
    refine bind_congr fun told => ?_
    cases told <;> rfl
  · rfl

/-- Nothing is missing behind the fees. -/
def Completed (a : TransactionArgs) : Prop :=
  a.value.isSome = true ∧ a.nonce.isNone = false ∧ (a.recipient.isNone && a.dataIsEmpty) = false ∧
    a.gas.isNone = false ∧ a.chainId.isNone = false

/-- Sets what is missing behind the fees. -/
def complete (reader : Reader σ) (sender : Address) : Populating σ Unit := do
  modify fun a => { a with value := some (a.value.getD 0) }
  setNonce reader sender
  refuse (fun a => a.recipient.isNone && a.dataIsEmpty) .contractCreationWithoutData
  setGas reader
  setChainId reader

/-! ## The whole population -/

/-- Sets everything that is missing, for a sender. -/
def settle (reader : Reader σ) (sender : Address) : Populating σ Unit := do
  setFees reader
  complete reader sender

/-- **Population in two parts** for the sender that there is: the fees, and what is behind them. -/
theorem setAll_eq (reader : Reader σ) :
    setAll reader = (do
      match (← get).sender with
      | none => throw .missingSender
      | some sender => settle reader sender) := by
  unfold setAll
  refine bind_congr fun a => ?_
  cases a.sender with
  | none => rfl
  | some sender =>
    unfold settle complete refuse
    refine bind_congr fun _ => bind_congr fun _ => bind_congr fun _ => ?_
    rw [bind_assoc]
    refine bind_congr fun b => ?_
    dsimp only
    split <;> rfl

/-- Sets everything that is missing, in an envelope. -/
def settleAs (reader : Reader σ) (sender : Address) (baseFee : Option Amount) (type : TxType) :
    Populating σ Unit := do
  chooseFees reader baseFee type
  complete reader sender

/-- What becomes of the arguments of a sender when this is answered about the latest block. -/
def settleOn (reader : Reader σ) (sender : Address) (a : TransactionArgs) :
    Except ProviderError (Option Block) → Action σ (Except PopulateError Unit × TransactionArgs)
  | .error e => pure (.error (.reader "fetching latest block" (.provider e)), a)
  | .ok none => pure (.error .chainNotReady, a)
  | .ok (some block) =>
    match a.envelope block.baseFee with
    | .error e => pure (.error e, a)
    | .ok type => do
      report (.resolvedType type block.baseFee)
      (settleAs reader sender block.baseFee type).run.run a

/-- **The latest block is asked for first**, and nothing is changed before it is told. -/
theorem run_settle (reader : Reader σ) (sender : Address) (a : TransactionArgs) :
    (settle reader sender).run.run a =
      if a.gasPrice.isSome && a.hasFeeMarketFields then pure (.error .conflictingFeeFields, a)
      else (reader.ask (.blockByNumber .latest false)).run >>= settleOn reader sender a := by
  unfold settle setFees
  rw [bind_assoc, run_get_bind]
  dsimp only
  split
  · rfl
  · rw [bind_assoc, ExceptT.run_bind, StateT.run_bind, run_ask, bind_assoc]
    refine bind_congr fun answer => ?_
    match answer with
    | .error e => rfl
    | .ok none => rfl
    | .ok (some block) =>
      rw [settleOn, pure_bind]
      dsimp only [Except.mapError]
      cases a.envelope block.baseFee with
      | error e => rfl
      | ok type => cases type <;> rfl

end Populating

/-- **Population, as far as the latest block.** Without a sender, or with prices of both kinds, it
fails and asks nothing. -/
theorem TransactionArgs.populate_eq (reader : Reader σ) (a : TransactionArgs) :
    a.populate reader = match a.sender with
      | none => pure (.error .missingSender, a)
      | some sender =>
        if a.gasPrice.isSome && a.hasFeeMarketFields then pure (.error .conflictingFeeFields, a)
        else (reader.ask (.blockByNumber .latest false)).run >>=
          Populating.settleOn reader sender a := by
  rw [populate, Populating.setAll_eq, run_get_bind]
  cases a.sender with
  | none => rfl
  | some sender => exact Populating.run_settle reader sender a

/-- **Population fails and changes nothing, or goes on in an envelope** that it has chosen for the
latest block. -/
theorem TransactionArgs.populate_cases (a : TransactionArgs) (reader : Reader σ) (env : Env σ) :
    (∃ e, (a.populate reader env).1 = (.error e, a)) ∨
      ∃ sender block type env', ¬ a.hasConflict ∧
        ((reader.ask (.blockByNumber .latest false)).run env).1 = .ok (some block) ∧
        a.envelope block.baseFee = .ok type ∧
        a.populate reader env
          = (Populating.settleAs reader sender block.baseFee type).run.run a env' := by
  rw [populate_eq]
  cases a.sender with
  | none => exact .inl ⟨_, rfl⟩
  | some sender =>
    dsimp only
    split
    · exact .inl ⟨_, rfl⟩
    · rename_i hboth
      have hone : ¬ a.hasConflict := fun h => hboth (Bool.and_eq_true_iff.mpr h)
      rw [run_action_bind]
      rcases (reader.ask (.blockByNumber .latest false)).run env with ⟨answer, env'⟩
      match answer with
      | .error e => exact .inl ⟨_, rfl⟩
      | .ok none => exact .inl ⟨_, rfl⟩
      | .ok (some block) =>
        rw [Populating.settleOn]
        cases htype : a.envelope block.baseFee with
        | error e => exact .inl ⟨e, rfl⟩
        | ok type => exact .inr ⟨sender, block, type, _, hone, rfl, htype, rfl⟩

end EthClient
