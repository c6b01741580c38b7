import EthClient.Chain.Send
import EthClient.Provider.Pipeline
import EthClient.Signer.Registry
import EthClient.Transaction.Populate

/-! # Signing

A `SigningLayer` turns calls that ask the node to send a transaction into calls that send it signed.
The signer is the one that its registry has for the sender, or the earliest one if no sender is set.
What is missing in the arguments is asked of the inner provider, beneath the pipeline that the layer
is part of. Every other call is handed on as it is, and after an error nothing is handed on.

`SigningLayer.signInPlace` and `SigningLayer.signBatch` change what they are given, and answer it
also after an error. A batch is signed one element after the other, so the elements before the one
that failed are signed then. -/

namespace EthClient

/-- A computation that may fail to sign. -/
abbrev Signing (σ α : Type) := ExceptT SigningError (StateM (Env σ)) α

/-- Signs outgoing transactions. -/
structure SigningLayer (σ : Type) where
  /-- Answers the questions about what is missing. -/
  inner : Provider σ
  registry : Registry

namespace SigningLayer

variable {σ : Type}

/-- The transaction arguments of a call: its first argument, typed or as an object. -/
def argument : List Param → Except SigningError TransactionArgs
  | .transaction args :: _ => .ok args
  | .json (.object members) :: _ =>
    match TransactionArgs.decoder.runJson (.object members) with
    | .ok args => .ok args
    | .error fault => .error (.invalidArgument fault)
  | _ => .error .missingArgument

/-- The signer for a sender, or the earliest signer if there is no sender. -/
def resolve (l : SigningLayer σ) (sender : Option Address) : Signing σ Signer :=
  match sender with
  | some address =>
    match l.registry.get address with
    | .ok signer => pure signer
    | .error _ => do
      (report (.noSigner address) : Action σ Unit)
      throw .signerNotFound
  | none =>
    match l.registry.default? with
    | some signer => pure signer
    | none => throw .signerNotFound

/-- The chain id that is set, or else the one that the node tells. -/
def chainId (reader : Reader σ) (args : TransactionArgs) : Signing σ Number64 := do
  match args.chainId with
  | some id => return id
  | none =>
    match ← (reader.ask .chainId).run with
    | .ok (some id) => return id
    | .ok none => throw .chainNotReady
    | .error e => throw (.provider e)

/-- The payload of the signed transaction that some arguments mean. -/
def signTransaction (l : SigningLayer σ) (ctx : Option Context) (args : TransactionArgs) :
    Signing σ Bytes := do
  let signer ← l.resolve args.sender
  let reader := Reader.ofProvider l.inner ctx
  let id ← chainId reader args
  let args := { args with sender := some signer.address, chainId := some id }
  match ← (args.populateToTransaction reader : Action σ (Except PopulateError Transaction)) with
  | .error e => throw (.populate e)
  | .ok tx =>
    (report (.signingTransaction signer.address id) : Action σ Unit)
    match signer.signTransaction tx id with
    | .ok signature => return tx.signedRlp signature
    | .error e => throw (.signer e)

/-- The arguments of the call that sends the signed transaction. -/
def signParams (l : SigningLayer σ) (ctx : Option Context) (params : List Param) :
    Signing σ (List Param) := do
  match argument params with
  | .error e => throw e
  | .ok args =>
    let raw ← l.signTransaction ctx args
    return [.string (Hex.marked raw)]

/-- Signs a call if it sends a transaction. -/
def signCall (l : SigningLayer σ) (ctx : Option Context) (c : Call) : Signing σ Call := do
  if c.method == sendTransaction then
    return ⟨sendRawTransaction, ← l.signParams ctx c.params⟩
  else return c

/-- Signs a call in place if it sends a transaction: its parameters are replaced, and then its
method. -/
def signInPlace (l : SigningLayer σ) (ctx : Option Context) :
    ExceptT SigningError (StateT Call (StateM (Env σ))) Unit := do
  let c ← get
  if c.method == sendTransaction then
    match ← ((l.signParams ctx c.params).run : Action σ (Except SigningError (List Param))) with
    | .error e => throw e
    | .ok params =>
      modify fun c => { c with params }
      modify fun c => { c with method := sendRawTransaction }

/-- Signs every element of a batch that sends a transaction, up to the first that fails. -/
def signBatch (l : SigningLayer σ) (ctx : Option Context) :
    List BatchElem → Action σ (Except SigningError Unit × List BatchElem)
  | [] => return (.ok (), [])
  | e :: rest => do
    if e.method == sendTransaction then
      match ← (l.signParams ctx e.params).run with
      | .error err => return (.error err, e :: rest)
      | .ok params =>
        let (outcome, signed) ← l.signBatch ctx rest
        return (outcome, { e with method := sendRawTransaction, params } :: signed)
    else
      let (outcome, signed) ← l.signBatch ctx rest
      return (outcome, e :: signed)

/-- The call to hand on, or the error in the place of its outcome. -/
def call (l : SigningLayer σ) (ctx : Option Context) (c : Call) : Attempt σ Call :=
  ExceptT.mk do
    match ← (l.signCall ctx c).run with
    | .ok signed => return .ok signed
    | .error e => return .error e.toProvider

/-- The batch to hand on, or the error in the place of its outcome. -/
def batch (l : SigningLayer σ) (ctx : Option Context) (elems : List BatchElem) :
    Attempt σ (List BatchElem) :=
  ExceptT.mk do
    match ← l.signBatch ctx elems with
    | (.ok (), signed) => return .ok signed
    | (.error e, _) => return .error e.toProvider

/-- The layer that signs. -/
def layer (l : SigningLayer σ) : Layer σ
  | .call, next => fun c => do next (← l.call none c)
  | .callContext, next => fun (ctx, c) => do next (ctx, ← l.call (some ctx) c)
  | .batch, next => fun elems => do next (← l.batch none elems)
  | .batchContext, next => fun (ctx, elems) => do next (ctx, ← l.batch (some ctx) elems)

end SigningLayer

/-- A provider with one layer around it that signs. -/
def Provider.signing {σ : Type} (inner : Provider σ) (registry : Registry) : Provider σ :=
  ((Pipeline.ofProvider inner).layer (SigningLayer.mk inner registry).layer).toProvider

end EthClient
