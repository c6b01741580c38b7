import EthClient.Proofs.Payload
import EthClient.Proofs.Signing

/-! # Whose transaction is signed

A payload that the signing layer returns belongs to the sender that it was made for. Chain id and
sender are set in the arguments before population, and come back from the transaction that is
hashed; the key sets the same chain id once more, which changes nothing
(**`Transaction.setChainId_eq_self`**). So the payload, the hash and the mark of the signature go
together, and a node that recovers the sender comes to the address that was populated and estimated
with (**`SigningLayer.signTransaction_attributed`**). -/

namespace EthClient

/-- Setting the chain id that a transaction has changes nothing. -/
theorem Transaction.setChainId_eq_self {tx : Transaction} {id : Number64}
    (h : tx.chainId = some id) : tx.setChainId id = tx := by
  have hfields : { tx.fields with chainId := some id } = tx.fields := by
    rw [← h]
    rfl
  rw [setChainId, hfields]
  cases tx <;> rfl

/-- Only an estimate is asked for with the call of an estimate. -/
theorem Query.eq_estimateGas_of_toCall_eq {q : Query} {a : TransactionArgs} {tag : BlockTag}
    (h : q.toCall = (Query.estimateGas a tag).toCall) : ∃ tag', q = .estimateGas a tag' := by
  cases q with
  | estimateGas b tag' =>
    simp only [toCall, Call.mk.injEq, true_and, List.cons.injEq, Param.transaction.injEq] at h
    exact ⟨tag', by rw [h.1]⟩
  | _ => simp [toCall] at h

namespace Signed

variable {σ : Type}

/-- Every estimate that was asked for is an estimate for the signer. -/
theorem For.sender_of_estimateGas {l : SigningLayer (Logged Handling σ)} {ctx : Option Context}
    {args : TransactionArgs} {s : Signed} {new : List Handling}
    (h : s.For l ctx (Handling.Asks ctx) args new) {x : Handling} (hx : x ∈ new)
    {a : TransactionArgs} {tag : BlockTag} {answer : Except ProviderError Amount}
    (hask : x.Asks ctx (.estimateGas a tag) answer) : a.sender = some s.signer.address := by
  obtain ⟨q, _, ⟨outcome, hq, -⟩, hconcerns⟩ := h.asked x hx
  obtain ⟨outcome', hestimate, -⟩ := hask
  obtain ⟨tag', rfl⟩ := Query.eq_estimateGas_of_toCall_eq
    (Handling.single_inj (hq.symm.trans hestimate)).1
  exact hconcerns

/-- **A key signs the hash of the very transaction whose payload is returned.** -/
theorem For.signature_eq {X : Type} {l : SigningLayer (Logged X σ)} {ctx : Option Context}
    {asked : (q : Query) → Except ProviderError q.Answer → X → Prop} {args : TransactionArgs}
    {s : Signed} {new : List X} (h : s.For l ctx asked args new) {key : PrivateKey}
    (hkey : s.signer = key.toSigner) :
    s.signature = key.signHash s.tx.sighash (some s.chainId) := by
  have hsigned := h.signed
  rw [hkey] at hsigned
  have hsig : key.signTransaction s.tx s.chainId = s.signature := Except.ok.inj hsigned
  rw [← hsig, PrivateKey.signTransaction, Transaction.setChainId_eq_self h.chainId]

end Signed

/-- **A signed payload belongs to the sender that was populated.** One transaction, made of the
populated arguments, is hashed and returned with its signature: its chain id is the chosen one, its
sender is the address that the registry has the signer for, and every estimate was one for this
address. A key signs exactly the hash of this transaction, and the envelope holds the recovery bit
as its type wants it. If the curve leads from the signature back to the key, whoever takes the
payload apart recovers the sender. -/
theorem SigningLayer.signTransaction_attributed {σ : Type} (p : Provider σ) {registry : Registry}
    (hb : registry.Built) (ctx : Option Context) (args : TransactionArgs)
    {env env' : Env (Logged Handling σ)} {raw : Bytes}
    (hrun : ((SigningLayer.mk p.recording registry).signTransaction ctx args).run env
      = (.ok raw, env')) :
    ∃ (s : Signed) (probes : List Handling),
      env'.log = env.log ++ probes ∧
      s.For ⟨p.recording, registry⟩ ctx (Handling.Asks ctx) args probes ∧
      raw = s.tx.signedRlp s.signature ∧
      registry.get s.signer.address = .ok s.signer ∧
      (args.sender = some s.signer.address ∨
        args.sender = none ∧ registry.default? = some s.signer) ∧
      (∀ x ∈ probes, ∀ a tag answer, x.Asks ctx (.estimateGas a tag) answer →
        a.sender = some s.signer.address) ∧
      s.tx.setChainId s.chainId = s.tx ∧
      ∀ key : PrivateKey, s.signer = key.toSigner →
        s.signature = key.signHash s.tx.sighash (some s.chainId) ∧
        s.signature.v = recoveryMark
          (if (key.curveSignature s.tx.sighash).odd then 1 else 0) (some s.chainId) ∧
        (2 * s.chainId.toNat + 38 < 2 ^ 64 →
          s.tx.signatureMark s.signature.v
            = (if s.tx.txType = .legacy then
                (key.curveSignature s.tx.sighash).odd.toNat + 35 + 2 * s.chainId.toNat
              else (key.curveSignature s.tx.sighash).odd.toNat) ∧
          (key.RecoveredFrom s.tx.sighash → raw.length < 2 ^ 64 →
            SignedPayload.sender? raw = some s.signer.address)) := by
  obtain ⟨probes, hlog, -, hraw⟩ := SigningLayer.probing_signTransaction
    (l := ⟨p.recording, registry⟩) (Reader.tells_recording p ctx) args env
  rw [hrun] at hlog hraw
  obtain ⟨s, hs, rfl⟩ := hraw raw rfl
  obtain ⟨hget, hsender⟩ := hb.get_of_chooses hs.chosen
  refine ⟨s, probes, hlog, hs, rfl, hget, hsender, fun x hx a tag answer hask =>
    hs.sender_of_estimateGas hx hask, Transaction.setChainId_eq_self hs.chainId, fun key hkey => ?_⟩
  have hsig := hs.signature_eq hkey
  refine ⟨hsig, by rw [hsig, key.signHash_eq], fun hv => ⟨?_, fun hrec hlen => ?_⟩⟩
  · rw [hsig, key.signatureMark_signHash _ hs.chainId hv]
  · have haddr : s.signer.address = key.address := by rw [hkey]; rfl
    rw [Signed.raw, hsig] at hlen ⊢
    rw [haddr]
    exact SignedPayload.sender?_signedRlp hs.chainId hv hrec hlen

/-- Arguments that a node is asked nothing for but the latest block. -/
def TransactionArgs.settled : TransactionArgs :=
  { recipient := some default, gas := some 21000, gasPrice := some 1, nonce := some 0,
    chainId := some 1 }

/-- The least key signs settled arguments for its own address. -/
theorem SigningLayer.signTransaction_attributed_one :
    ∃ (raw : Bytes) (env' : Env (Logged Handling Nat)),
      (Registry.sole PrivateKey.one.toSigner).Built ∧
      ((SigningLayer.mk (Provider.ofAnswers fun _ _ => .ok (.object [])).recording
          (.sole PrivateKey.one.toSigner)).signTransaction none .settled).run
        { node := ⟨[], 0⟩ } = (.ok raw, env') ∧
      ∃ s : Signed, s.signer.address = PrivateKey.one.address ∧
        raw = s.tx.signedRlp (PrivateKey.one.signHash s.tx.sighash (some 1)) := by
  have hb := Registry.built_sole PrivateKey.one.toSigner
  obtain ⟨raw, env', hrun⟩ : ∃ raw env',
      ((SigningLayer.mk (Provider.ofAnswers fun _ _ => .ok (.object [])).recording
        (.sole PrivateKey.one.toSigner)).signTransaction none .settled).run
          { node := ⟨[], 0⟩ } = (.ok raw, env') := ⟨_, _, rfl⟩
  refine ⟨raw, env', hb, hrun, ?_⟩
  obtain ⟨s, probes, -, hs, hraw, -, hsender, -, -, hkey⟩ :=
    SigningLayer.signTransaction_attributed _ hb none _ hrun
  obtain ⟨-, hdefault⟩ := hsender.resolve_left (by simp [TransactionArgs.settled])
  have hsigner : s.signer = PrivateKey.one.toSigner := (Option.some.inj hdefault).symm
  have hid : s.chainId = 1 := by
    rcases hs.told with hid | ⟨hid, -⟩
    · exact (Option.some.inj hid).symm
    · cases hid
  rw [(hkey PrivateKey.one hsigner).1, hid] at hraw
  exact ⟨s, by rw [hsigner]; rfl, hraw⟩

end EthClient
