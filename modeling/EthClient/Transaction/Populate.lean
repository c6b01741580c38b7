import EthClient.Chain.Query
import EthClient.Transaction.Conversion

/-! # Populating transaction arguments

`TransactionArgs.populate` sets what is missing for a transaction by asking a node: the envelope and
the fees that belong to it, then value, nonce, gas and chain id. What is set stays as it is, except
that a single price on a transaction with fee caps becomes both caps.

The arguments are the state of the computation, so what was set before a failure stays set. The
decisions that need no node are functions of their own: which envelope is meant (`envelope`), and
how the caps come from a price (`priceToCaps`, `capsFromPrice`) or from a base fee
(`capsFromBaseFee`). -/

namespace EthClient

/-- A computation on transaction arguments that may fail; what it set before it failed stays set. -/
abbrev Populating (σ α : Type) := ExceptT PopulateError (StateT TransactionArgs (StateM (Env σ))) α

/-- The tip per gas where the caller has chosen none: one and a half billion wei. -/
def defaultMaxPriorityFee : Amount := 1500000000

namespace TransactionArgs

/-! ## Decisions -/

/-- The envelope of some arguments on a chain whose latest block has a base fee or none. One that is
set is kept; otherwise fee caps go with a base fee only. -/
def envelope (a : TransactionArgs) (baseFee : Option Amount) : Except PopulateError TxType :=
  match a.txType with
  | some t => .ok t
  | none =>
    if baseFee.isSome then .ok .dynamicFee
    else if a.hasFeeMarketFields then .error .feeMarketUnsupported
    else if a.accessList.isSome then .ok .accessList
    else .ok .legacy

/-- Turns a single price into both caps. -/
def priceToCaps (a : TransactionArgs) : TransactionArgs :=
  match a.gasPrice with
  | some price =>
    { a with gasPrice := none, maxFee := some price, maxPriorityFee := some price }
  | none => a

/-- Sets the missing caps from a base fee: the default tip, and twice the base fee and the tip for
the whole fee. -/
def capsFromBaseFee (baseFee : Amount) (a : TransactionArgs) : TransactionArgs :=
  let tip := a.maxPriorityFee.getD defaultMaxPriorityFee
  { a with
    maxPriorityFee := some tip
    maxFee := some (a.maxFee.getD ((baseFee.satMul 2).satAdd tip)) }

/-- Sets the missing caps to a price. -/
def capsFromPrice (price : Amount) (a : TransactionArgs) : TransactionArgs :=
  { a with
    maxFee := some (a.maxFee.getD price)
    maxPriorityFee := some (a.maxPriorityFee.getD price) }

/-- Whether one of the caps is missing. -/
def lacksCap (a : TransactionArgs) : Bool := a.maxFee.isNone || a.maxPriorityFee.isNone

/-- The cap on the whole fee must not be below the one on the tip. -/
def checkCaps (a : TransactionArgs) : Except PopulateError Unit :=
  match a.maxFee, a.maxPriorityFee with
  | some maxFee, some tip => if maxFee < tip then .error (.feeOrdering maxFee tip) else .ok ()
  | _, _ => .ok ()

end TransactionArgs

namespace Populating

variable {σ : Type}

/-! ## Steps -/

/-- Asks a question for some purpose, which an error names. -/
def ask (reader : Reader σ) (purpose : String) (q : Query) : Populating σ q.Answer :=
  ExceptT.mk do
    match ← reader.ask q |>.run with
    | .ok answer => return .ok answer
    | .error e => return .error (.reader purpose (.provider e))

/-- Sets the single price, if it is missing. -/
def setPrice (reader : Reader σ) : Populating σ Unit := do
  if (← get).hasFeeMarketFields then throw .feeMarketFieldsOnLegacy
  if (← get).gasPrice.isNone then
    let price ← ask reader "fetching gas price" .gasPrice
    modify fun a => { a with gasPrice := some price }

/-- Sets the caps that are missing, from the base fee if there is one. -/
def setCaps (reader : Reader σ) (baseFee : Option Amount) : Populating σ Unit := do
  modify (·.priceToCaps)
  match baseFee with
  | some fee => modify (·.capsFromBaseFee fee)
  | none =>
    if (← get).lacksCap then
      let price ← ask reader "fetching gas price" .gasPrice
      modify (·.capsFromPrice price)
  match (← get).checkCaps with
  | .ok () => pure ()
  | .error e => throw e

/-- Sets the envelope and the fees. -/
def setFees (reader : Reader σ) : Populating σ Unit := do
  let a ← get
  if a.gasPrice.isSome && a.hasFeeMarketFields then throw .conflictingFeeFields
  match ← ask reader "fetching latest block" (.blockByNumber .latest false) with
  | none => throw .chainNotReady
  | some block =>
    match a.envelope block.baseFee with
    | .error e => throw e
    | .ok type =>
      (report (.resolvedType type block.baseFee) : Action σ Unit)
      modify fun a => { a with txType := some type }
      match type with
      | .dynamicFee => setCaps reader block.baseFee
      | _ => setPrice reader

/-- The number of transactions that a sender has sent, pending ones included if the node tells. -/
def nextNonce (reader : Reader σ) (sender : Address) : Populating σ Amount := do
  match ← (reader.ask (.transactionCount sender .pending)).run with
  | .ok nonce => return nonce
  | .error e =>
    (report (.pendingNonceUnavailable e) : Action σ Unit)
    ask reader "fetching nonce" (.transactionCount sender .latest)

/-- Sets the nonce, if it is missing. -/
def setNonce (reader : Reader σ) (sender : Address) : Populating σ Unit := do
  if (← get).nonce.isNone then
    let nonce ← nextNonce reader sender
    modify fun a => { a with nonce := some nonce }

/-- Sets the gas, if it is missing, for the arguments as they are by now. -/
def setGas (reader : Reader σ) : Populating σ Unit := do
  let a ← get
  if a.gas.isNone then
    let gas ← ask reader "estimating gas" (.estimateGas a .pending)
    modify fun a => { a with gas := some gas }

/-- Sets the chain id, if it is missing. -/
def setChainId (reader : Reader σ) : Populating σ Unit := do
  if (← get).chainId.isNone then
    match ← ask reader "fetching chain id" .chainId with
    | none => throw .chainNotReady
    | some id => modify fun a => { a with chainId := some id }

/-- Sets everything that is missing. -/
def setAll (reader : Reader σ) : Populating σ Unit := do
  match (← get).sender with
  | none => throw .missingSender
  | some sender =>
    setFees reader
    modify fun a => { a with value := some (a.value.getD 0) }
    setNonce reader sender
    let a ← get
    if a.recipient.isNone && a.dataIsEmpty then throw .contractCreationWithoutData
    setGas reader
    setChainId reader

end Populating

namespace TransactionArgs

variable {σ : Type}

/-- Sets everything that is missing; the arguments come back also after a failure. -/
def populate (reader : Reader σ) (a : TransactionArgs) :
    Action σ (Except PopulateError Unit × TransactionArgs) :=
  (Populating.setAll reader).run.run a

/-- Sets everything that is missing and makes the transaction. -/
def populateToTransaction (reader : Reader σ) (a : TransactionArgs) :
    Action σ (Except PopulateError Transaction) := do
  match ← a.populate reader with
  | (.error e, _) => return .error e
  | (.ok (), a) =>
    match a.toTransaction? with
    | some tx => return .ok tx
    | none => return .error .incomplete

end TransactionArgs

end EthClient
