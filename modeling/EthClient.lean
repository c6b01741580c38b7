import EthClient.Client
import EthClient.Transport.Scripted
import EthClient.Proofs.Rlp
import EthClient.Proofs.Payload
import EthClient.Proofs.Population
import EthClient.Proofs.Registry
import EthClient.Proofs.Pipeline
import EthClient.Proofs.Signing
import EthClient.Proofs.Attribution
import EthClient.Proofs.Forwarding
import EthClient.Proofs.Waiting
import EthClient.Proofs.Layers
import EthClient.Proofs.Nonces
import EthClient.Proofs.Outcome
import EthClient.Proofs.FeeStrategy
import EthClient.Proofs.Fees
import EthClient.Proofs.Intent
import EthClient.Proofs.Digits
import EthClient.Proofs.Codec
import EthClient.Proofs.Arguments
import EthClient.Proofs.Interchange
import EthClient.Proofs.Printing
import EthClient.Proofs.WireForm
import EthClient.Proofs.Attempts
import EthClient.Proofs.Probes
import EthClient.Proofs.Onion
import EthClient.Proofs.Members
import EthClient.Proofs.Responses
import EthClient.Proofs.Matching
import EthClient.Proofs.Exchange
import EthClient.Proofs.Batches
import EthClient.Proofs.Roster
import EthClient.Proofs.Stacking
import EthClient.Proofs.Alike
import EthClient.Proofs.Contexts
import EthClient.Proofs.Untyped
import EthClient.Proofs.Singletons
import EthClient.Proofs.InPlace
import EthClient.Proofs.Exhaustion
import EthClient.Proofs.Estimates
import EthClient.Proofs.Steps
import EthClient.Proofs.Resumable
import EthClient.Proofs.Resumption
import EthClient.Proofs.Retention
import EthClient.Proofs.Repetition
import EthClient.Proofs.Agenda
import EthClient.Proofs.Resubmission
import EthClient.Proofs.Rearrangement
import EthClient.Proofs.SurfaceForm
import EthClient.Proofs.Freshness
import EthClient.Proofs.Numbering
import EthClient.Proofs.Cuts
import EthClient.Proofs.Grammar
import EthClient.Proofs.Envelopes
import EthClient.Proofs.Serving
import EthClient.Proofs.Delivery
import EthClient.Proofs.Expiry
import EthClient.Proofs.Lineage
import EthClient.Proofs.Admission
import EthClient.Proofs.Sources
