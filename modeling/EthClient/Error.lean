import EthClient.Rpc.Error
import EthClient.Signer.Error

/-! # Errors of calls

`ProviderError` is what a call through the client can fail with. A layer may wrap any other error
into one (`ProviderError.layer`), so errors form trees: a `Cause` is a provider error, an error of
population or signing, or an error from outside the library, alone or with a label around another.

Two questions are asked of a tree. Both look for the first provider error along the chain of causes
and ask it, whatever lies beneath:

* `ProviderError.isRetryable`: may the call succeed if it is made again?
* `ProviderError.response?`: which error answer of the node is behind it, if any?

An error of signing that carries a provider error shows only what is behind that error, so the
search does not find it; `SigningError.toProvider` therefore hands such an error on as it is. -/

namespace EthClient

mutual

/-- What a call fails with. -/
inductive ProviderError where
  /-- The node answered with an error. -/
  | rpc (e : RpcError)
  /-- The request could not be delivered, or its answer could not be matched. -/
  | transport (reason : String)
  /-- The exchange over HTTP failed. -/
  | http
  /-- The response is not one of the protocol; its text is kept. -/
  | malformedResponse (fault : Fault) (text : String)
  /-- The time of the caller is up. -/
  | deadlineExceeded
  /-- The caller has given up. -/
  | cancelled
  /-- Every attempt failed, the last one with the given error. -/
  | retriesExhausted (attempts : Nat) (last : ProviderError)
  /-- A layer failed. -/
  | layer (cause : Cause)
  /-- The answer is not a value of the wanted type. -/
  | decode (fault : Fault)
  /-- The provider cannot do this. -/
  | unsupported (what : String)
  /-- A batch without elements. -/
  | emptyBatch

/-- Why a layer failed. -/
inductive Cause where
  | provider (e : ProviderError)
  | populate (e : PopulateError)
  | signing (e : SigningError)
  /-- An error from outside the library. -/
  | other (text : String)
  /-- A label around another cause. -/
  | labelled (label : String) (cause : Cause)

/-- Why transaction arguments cannot be populated or converted. -/
inductive PopulateError where
  | missingSender
  | conflictingFeeFields
  | feeMarketUnsupported
  | feeMarketFieldsOnLegacy
  | feeOrdering (maxFee maxPriorityFee : Amount)
  | contractCreationWithoutData
  | chainNotReady
  | incomplete
  | unsupportedTransaction
  /-- The recipient is a name that has no address yet. -/
  | unresolvedName (name : String)
  /-- A question to the node failed. -/
  | reader (action : String) (cause : Cause)

/-- Why an outgoing transaction cannot be signed. -/
inductive SigningError where
  | signerNotFound
  | chainNotReady
  | missingArgument
  | invalidArgument (fault : Fault)
  | populate (e : PopulateError)
  | signer (e : SignerError)
  | provider (e : ProviderError)

end

instance : Inhabited ProviderError := ⟨.cancelled⟩

instance : Inhabited Cause := ⟨.other ""⟩

instance : Inhabited PopulateError := ⟨.missingSender⟩

instance : Inhabited SigningError := ⟨.signerNotFound⟩

mutual

/-- The wording of an error; `none` if part of it is worded outside the library. -/
def ProviderError.message? : ProviderError → Option String
  | .rpc e => some e.text
  | .transport reason => some ("transport error: " ++ reason)
  | .http => none
  | .malformedResponse .. => none
  | .deadlineExceeded => some "context deadline exceeded"
  | .cancelled => some "context cancelled"
  | .retriesExhausted attempts last =>
    last.message?.map fun m => "failed after " ++ toString attempts ++ " attempts: " ++ m
  | .layer cause => cause.message?
  | .decode fault => fault.message?
  | .unsupported what => some ("unsupported: " ++ what)
  | .emptyBatch => some "batch must contain at least one element"
termination_by structural e => e

/-- The wording of a cause. -/
def Cause.message? : Cause → Option String
  | .provider e => e.message?
  | .populate e => e.message?
  | .signing e => e.message?
  | .other text => some text
  | .labelled label cause => cause.message?.map fun m => label ++ ": " ++ m
termination_by structural c => c

/-- The wording of an error of population. -/
def PopulateError.message? : PopulateError → Option String
  | .missingSender => some "sender required"
  | .conflictingFeeFields =>
    some "both gasPrice and (maxFeePerGas or maxPriorityFeePerGas) specified"
  | .feeMarketUnsupported =>
    some ("maxFeePerGas or maxPriorityFeePerGas specified but chain does not support the fee " ++
      "market")
  | .feeMarketFieldsOnLegacy =>
    some ("maxFeePerGas or maxPriorityFeePerGas specified for a legacy or access list " ++
      "transaction")
  | .feeOrdering maxFee maxPriorityFee =>
    some ("maxFeePerGas (" ++ maxFee.toDecimal ++ ") < maxPriorityFeePerGas (" ++
      maxPriorityFee.toDecimal ++ ")")
  | .contractCreationWithoutData => some "contract creation requires data"
  | .chainNotReady => some "chain not ready"
  | .incomplete => some "transaction arguments are not fully populated"
  | .unsupportedTransaction => some "cannot derive arguments from an unsupported transaction type"
  | .unresolvedName name => some ("recipient `" ++ name ++ "` is an unresolved ENS name")
  | .reader action cause => cause.message?.map fun m => action ++ ": " ++ m
termination_by structural e => e

/-- The wording of an error of signing. -/
def SigningError.message? : SigningError → Option String
  | .signerNotFound => some "signer not found"
  | .chainNotReady => some "chain not ready"
  | .missingArgument => some "missing transaction argument for eth_sendTransaction"
  | .invalidArgument fault =>
    fault.message?.map fun m => "invalid transaction argument: " ++ m
  | .populate e => e.message?
  | .signer e => some e.message
  | .provider e => e.message?
termination_by structural e => e

end

mutual

/-- Whether the same call may succeed if it is made again: after a failure of the transport, and
after a failure of a layer that such a failure caused. -/
def ProviderError.isRetryable : ProviderError → Bool
  | .transport _ | .http | .malformedResponse .. | .deadlineExceeded => true
  | .layer cause => cause.isRetryable
  | _ => false
termination_by structural e => e

/-- Whether the first provider error along the causes is retryable. -/
def Cause.isRetryable : Cause → Bool
  | .provider e => e.isRetryable
  | .populate e => e.isRetryable
  | .signing e => e.isRetryable
  | .other _ => false
  | .labelled _ cause => cause.isRetryable
termination_by structural c => c

/-- Whether the first provider error behind an error of population is retryable. -/
def PopulateError.isRetryable : PopulateError → Bool
  | .reader _ cause => cause.isRetryable
  | _ => false
termination_by structural e => e

/-- Whether the first provider error behind an error of signing is retryable. -/
def SigningError.isRetryable : SigningError → Bool
  | .populate e => e.isRetryable
  | _ => false
termination_by structural e => e

end

mutual

/-- The error answer of the node behind an error, if there is one. -/
def ProviderError.response? : ProviderError → Option RpcError
  | .rpc e => some e
  | .retriesExhausted _ last => last.response?
  | .layer cause => cause.response?
  | _ => none
termination_by structural e => e

/-- The error answer behind the first provider error along the causes. -/
def Cause.response? : Cause → Option RpcError
  | .provider e => e.response?
  | .populate e => e.response?
  | .signing e => e.response?
  | .other _ => none
  | .labelled _ cause => cause.response?
termination_by structural c => c

/-- The error answer behind an error of population. -/
def PopulateError.response? : PopulateError → Option RpcError
  | .reader _ cause => cause.response?
  | _ => none
termination_by structural e => e

/-- The error answer behind an error of signing. -/
def SigningError.response? : SigningError → Option RpcError
  | .populate e => e.response?
  | _ => none
termination_by structural e => e

end

/-- The provider error that leaves a signing layer: the error of a failed probe as it is, and any
other error of signing as the failure of a layer. -/
def SigningError.toProvider : SigningError → ProviderError
  | .provider e => e
  | e => .layer (.signing e)

/-- The name of what is wrong with arguments. -/
def PopulateError.kind : PopulateError → String
  | .missingSender => "MissingSender"
  | .conflictingFeeFields => "ConflictingFeeFields"
  | .feeMarketUnsupported => "FeeMarketUnsupported"
  | .feeMarketFieldsOnLegacy => "FeeMarketFieldsOnLegacy"
  | .feeOrdering .. => "FeeOrdering"
  | .contractCreationWithoutData => "ContractCreationWithoutData"
  | .chainNotReady => "ChainNotReady"
  | .incomplete => "Incomplete"
  | .unsupportedTransaction => "UnsupportedTransaction"
  | .unresolvedName _ => "UnresolvedName"
  | .reader .. => "Reader"

/-- The name of the step of signing that failed. -/
def SigningError.kind : SigningError → String
  | .signerNotFound => "SignerNotFound"
  | .chainNotReady => "ChainNotReady"
  | .missingArgument => "MissingArgument"
  | .invalidArgument _ => "InvalidArgument"
  | .populate _ => "Populate"
  | .signer _ => "Signer"
  | .provider _ => "Provider"

end EthClient
