import EthClient.Proofs.Attribution
import EthClient.Proofs.Pipeline

/-! # What is handed to the node behind a signing provider

Whatever is asked of a provider that signs, in any shape, the provider beneath it receives single
questions first and then at most one forwarded input. No input that is forwarded asks the node to
send a transaction: each part that did so has become one that sends a payload, and the rest of it is
as it was. If a part cannot be signed, nothing is forwarded; if there is nothing to sign, nothing is
asked (**`Provider.signing_forwards_signed`**). -/

namespace EthClient

variable {σ : Type}

/-- No question sends a transaction. -/
theorem Query.method_ne_sendTransaction (q : Query) : q.toCall.method ≠ sendTransaction := by
  cases q <;> simp [toCall, sendTransaction]

/-- Neither does the handling that asks it. -/
theorem Handling.Asks.notMem_methods {x : Handling} {ctx : Option Context} {q : Query}
    {answer : Except ProviderError q.Answer} (h : x.Asks ctx q answer) :
    sendTransaction ∉ x.methods := by
  obtain ⟨outcome, rfl, -⟩ := h
  rw [methods_single, List.mem_singleton]
  exact q.method_ne_sendTransaction.symm

/-- A provider that signs makes something of the input and hands it on. -/
theorem Provider.run_handle_signing (p : Provider σ) (registry : Registry) {s : Shape}
    {input : s.Input} (hv : s.isVacant input = false) :
    ((p.signing registry).handle s input).run
      = ((SigningLayer.mk p registry).rewrite s input >>= p.handle s).run := by
  rw [handle_signing, hv, SigningLayer.layer_eq_bind]
  rfl

/-- **Only what is signed is forwarded.** For every input, node and registry, the inner provider
receives some probes, each a single question in the caller's context, and what is forwarded behind
them:

* nothing of it sends a transaction;
* if signing fails, nothing is forwarded, and the error is the outcome;
* if it does not, exactly one input is forwarded, in which every part that sent a transaction now
  sends a payload that was signed for its argument and every other part is as it was;
* if nothing sends a transaction, there are no probes and the input is forwarded as it is. -/
theorem Provider.signing_forwards_signed (p : Provider σ) (registry : Registry) {s : Shape}
    {input : s.Input} (hv : s.isVacant input = false) {env env' : Env (Logged Handling σ)}
    {outcome : Except ProviderError s.Output}
    (hrun : ((p.recording.signing registry).handle s input).run env = (outcome, env')) :
    ∃ probes forwarded, env'.log = env.log ++ probes ++ forwarded ∧
      (∀ x ∈ probes, ∃ q answer, x.Asks (s.context? input) q answer) ∧
      (∀ x ∈ probes ++ forwarded, sendTransaction ∉ x.methods) ∧
      (∀ e, (((SigningLayer.mk p.recording registry).rewrite s input).run env).1 = .error e →
        forwarded = [] ∧ outcome = .error e) ∧
      (∀ input', (((SigningLayer.mk p.recording registry).rewrite s input).run env).1 = .ok input' →
        forwarded = [⟨s, input', outcome⟩] ∧
        s.Rewritten ((SigningLayer.mk p.recording registry).Signs (s.context? input)
          (Handling.Asks (s.context? input)) probes) input input') ∧
      (sendTransaction ∉ s.methods input → probes = [] ∧ forwarded = [⟨s, input, outcome⟩]) := by
  obtain ⟨probes, hlog, hasked, hrewritten⟩ := SigningLayer.probing_rewrite
    (l := ⟨p.recording, registry⟩) s input (Reader.tells_recording p (s.context? input)) env
  -- without anything to sign the layer does nothing, so there are no probes
  have hsame (hnone : sendTransaction ∉ s.methods input) :
      ((SigningLayer.mk p.recording registry).rewrite s input).run env = (.ok input, env) := by
    rw [SigningLayer.rewrite_eq_pure _ hnone]
    rfl
  have hprobes : ∀ x ∈ probes, sendTransaction ∉ x.methods := by
    intro x hx
    obtain ⟨q, answer, hask⟩ := hasked x hx
    exact hask.notMem_methods
  rw [p.recording.run_handle_signing registry hv] at hrun
  rcases hresult : ((SigningLayer.mk p.recording registry).rewrite s input).run env with ⟨r, env₁⟩
  rw [hresult] at hlog hrewritten
  cases r with
  | error e =>
    -- nothing is handed on
    rw [run_bind_of_error hresult] at hrun
    cases hrun
    refine ⟨probes, [], ?_, hasked, ?_, ?_, ?_, ?_⟩
    · rw [List.append_nil]
      exact hlog
    · rw [List.append_nil]
      exact hprobes
    · rintro _ ⟨⟩
      exact ⟨rfl, rfl⟩
    · intro input' h
      cases h
    · intro hnone
      rw [hsame hnone] at hresult
      cases hresult
  | ok input' =>
    -- the input is handed on, and the record has its outcome
    rw [run_bind_of_ok hresult] at hrun
    obtain ⟨_, hlog', rfl⟩ := p.adds_recording_handle s input' env₁
    have hall := hrewritten input' rfl
    rw [hrun] at hlog'
    refine ⟨probes, [⟨s, input', outcome⟩], ?_, hasked, ?_, ?_, ?_, ?_⟩
    · rw [← hlog]
      exact hlog'
    · intro x hx
      rcases List.mem_append.mp hx with hx | hx
      · exact hprobes x hx
      · rw [List.mem_singleton.mp hx]
        exact hall.notMem_methods
    · intro e h
      cases h
    · rintro _ ⟨⟩
      exact ⟨rfl, hall⟩
    · intro hnone
      rw [hsame hnone] at hresult
      cases hresult
      exact ⟨List.append_cancel_left (hlog.symm.trans (List.append_nil env.log).symm), rfl⟩

/-- Of a batch with two elements, the one that sends a transaction is forwarded signed. -/
theorem Provider.signing_forwards_signed_element :
    ∃ (outcome : Except ProviderError (List BatchElem)) (env' : Env (Logged Handling Nat))
      (probes : List Handling) (raw : Bytes),
      (((Provider.ofAnswers fun _ _ => .ok (.object [])).recording.signing
          (.sole PrivateKey.one.toSigner)).handle .batch
        [{ method := "eth_syncing", params := [] },
          { method := sendTransaction, params := [.transaction .settled] }]).run
        { node := ⟨[], 0⟩ } = (outcome, env') ∧
      env'.log = probes ++ [⟨.batch, [{ method := "eth_syncing", params := [] },
        { method := sendRawTransaction, params := [.string (Hex.marked raw)] }], outcome⟩] ∧
      ∀ x ∈ probes, ∃ q answer, x.Asks none q answer := by
  let node := Provider.ofAnswers fun _ _ => .ok (.object [])
  let registry := Registry.sole PrivateKey.one.toSigner
  let elems : List BatchElem := [{ method := "eth_syncing", params := [] },
    { method := sendTransaction, params := [.transaction .settled] }]
  obtain ⟨outcome, env', hrun⟩ : ∃ outcome env',
      ((node.recording.signing registry).handle .batch elems).run { node := ⟨[], 0⟩ }
        = (outcome, env') := ⟨_, _, rfl⟩
  obtain ⟨input', hinput⟩ : ∃ input',
      (((SigningLayer.mk node.recording registry).rewrite .batch elems).run
        { node := ⟨[], 0⟩ }).1 = .ok input' := ⟨_, rfl⟩
  have hv : Shape.batch.isVacant elems = false := rfl
  obtain ⟨probes, forwarded, hlog, hprobes, -, -, hok, -⟩ :=
    Provider.signing_forwards_signed node registry hv hrun
  obtain ⟨rfl, hrewritten⟩ := hok input' hinput
  -- the first element stays, and the second one is signed
  obtain ⟨first, rest, hfirst, hrest, rfl⟩ := List.forall₂_cons_left_iff.mp hrewritten
  obtain ⟨second, rest, hsecond, hnil, rfl⟩ := List.forall₂_cons_left_iff.mp hrest
  obtain rfl := List.forall₂_nil_left_iff.mp hnil
  rw [BatchElem.Rewritten, if_neg (by decide)] at hfirst
  rw [BatchElem.Rewritten, if_pos rfl] at hsecond
  obtain ⟨raw, -, rfl⟩ := hsecond
  refine ⟨outcome, env', probes, raw, hrun, ?_, hprobes⟩
  rw [hlog, hfirst]
  rfl

end EthClient
