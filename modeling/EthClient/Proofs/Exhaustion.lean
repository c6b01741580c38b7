import EthClient.Proofs.Alike
import EthClient.Proofs.Probes

/-! # Retrying once is enough

An attempt is **final** if none of its errors is worth another attempt (`Attempt.Final`). Whatever
is behind a layer that retries, what leaves the layer is final: an error that the policy refuses,
the cancellation by the caller, or the error that counts the attempts (**`Retry.final_run`**). And a
layer that retries in front of a final attempt makes this one attempt (**`Retry.run_of_final`**).

A provider is **settled** if all its attempts are final and it refuses a batch without elements
(`Provider.Settled`). A provider that retries is settled. One that signs in front of a settled one
is settled, too, because the error of a failed probe keeps its class
(**`Provider.Settled.signing`**).

* **`Retry.layers_do_not_multiply`**: retrying around a provider that retries changes nothing,
  whether there is a layer that signs in between or not. -/

namespace EthClient

variable {σ α β : Type} {s : Shape}

/-! ## Final attempts -/

/-- No error of the attempt is worth another one. -/
def Attempt.Final (act : Attempt σ α) : Prop :=
  ∀ env env' e, act.run env = (.error e, env') → e.isRetryable = false

namespace Attempt

/-- An error that is not worth another attempt. -/
theorem final_throw {e : ProviderError} (h : e.isRetryable = false) :
    Final (throw e : Attempt σ α) := by
  intro env env' e' hrun
  cases hrun
  exact h

/-- **One attempt after another** is final if both are. -/
theorem Final.bind {act : Attempt σ α} {f : α → Attempt σ β} (h : act.Final)
    (hf : ∀ a, (f a).Final) : Final (act >>= f) := by
  intro env env' e hrun
  rcases hact : act.run env with ⟨outcome, env₁⟩
  cases outcome with
  | ok a =>
    rw [run_bind_of_ok hact] at hrun
    exact hf a env₁ env' e hrun
  | error e' =>
    rw [run_bind_of_error hact] at hrun
    cases hrun
    exact h env env' e hact

end Attempt

namespace Retry

variable {r : Retry} {ctx : Option Context} {act : Attempt σ α} {left made : Nat}

/-- One round: an error with which it ends is final, if the errors of later rounds are. -/
theorem final_round (hr : r.policy = ProviderError.isRetryable)
    (hnext : ∀ k, left = k + 1 → Attempt.Final (ExceptT.mk (r.run ctx act k (made + 1)))) :
    Attempt.Final (ExceptT.mk (r.run ctx act left made)) := by
  intro env env' e hrun
  rw [ExceptT.run_mk] at hrun
  rcases hact : act.run env with ⟨outcome, env₁⟩
  cases outcome with
  | ok a =>
    rw [run_of_ok hact] at hrun
    cases hrun
  | error last =>
    rw [run_of_error hact] at hrun
    -- the ways on are those of the code, and each error among them is told by its constructor
    split at hrun
    · rename_i hrefused
      cases hrun
      rw [hr] at hrefused
      simpa using hrefused
    · split at hrun
      · cases hrun
        rfl
      · split at hrun
        · cases hrun
          rfl
        · rename_i hleft
          obtain ⟨k, rfl⟩ := Nat.exists_eq_add_one_of_ne_zero fun hz => hleft (.inl hz)
          split at hrun
          · rename_i env₂ _
            exact hnext k rfl env₂ env' e hrun
          · rename_i i env₂ _
            cases hrun
            cases i <;> rfl

/-- **What leaves the rounds is final**, whatever the attempts are. -/
theorem final_run (hr : r.policy = ProviderError.isRetryable) (ctx : Option Context)
    (act : Attempt σ α) (left made : Nat) :
    Attempt.Final (ExceptT.mk (r.run ctx act left made)) := by
  -- the attempts that are left decrease, and those that were made do not matter
  induction left generalizing made with
  | zero => exact final_round hr fun k hk => by cases hk
  | succ left ih => exact final_round hr fun k hk => by cases hk; exact ih _

/-- **In front of a final attempt** there is one round. -/
theorem run_of_final (hr : r.policy = ProviderError.isRetryable) (h : act.Final) :
    r.run ctx act left made = act.run := by
  funext env
  rcases hact : act.run env with ⟨outcome, env'⟩
  refine run_of_not_repeats hact ?_
  rw [repeats_iff]
  rintro ⟨e, rfl, hp⟩
  have hfinal : e.isRetryable = false := h env env' e hact
  rw [hr, hfinal] at hp
  cases hp

/-- What leaves the layer is final. -/
theorem final_layer (hr : r.policy = ProviderError.isRetryable) (next : Handler σ s)
    (input : s.Input) : (r.layer s next input).Final :=
  final_run hr _ _ _ _

/-- In front of a handler that is final for some input, the layer does what the handler does. -/
theorem layer_of_final (hr : r.policy = ProviderError.isRetryable) {next : Handler σ s}
    {input : s.Input} (h : (next input).Final) : r.layer s next input = next input :=
  run_of_final hr h

/-- It uses this handler once. -/
theorem log_layer_of_final (hr : r.policy = ProviderError.isRetryable) {next : Handler σ s}
    {input : s.Input} (h : (next input).Final) (env : Env (Logged (Use σ s) σ)) :
    ((r.layer s (Handler.observed next) input).run env).2.log
      = env.log ++ [.make next input env.erase] := by
  have hobserved : (Handler.observed next input).Final := by
    intro env env' e hrun
    obtain ⟨houtcome, -⟩ := Handler.erase_observed next input env
    rw [hrun] at houtcome
    exact h env.erase _ e (Prod.ext houtcome.symm rfl)
  rw [layer_of_final hr hobserved]
  rfl

end Retry

/-! ## Settled providers -/

/-- Probes whose failures are not worth another attempt do not account for an error that is. -/
theorem Accounts.not_retryable {X : Type}
    {asked : (q : Query) → Except ProviderError q.Answer → X → Prop} {c : ErrorClass}
    {probes : List X} (h : Accounts asked c probes)
    (hfinal : ∀ q e x, asked q (.error e) x → e.isRetryable = false) : c.retryable = false := by
  cases h with
  | own h => rfl
  | failed hpre hx => exact hfinal _ _ _ hx

/-- Nothing that goes wrong with the provider is worth another attempt. -/
structure Provider.Settled (p : Provider σ) : Prop where
  final : ∀ s input, (p.handle s input).Final
  vacant : ∀ s input, s.isVacant input = true → p.handle s input = throw .emptyBatch

namespace Provider

/-- A provider that retries is settled. -/
theorem settled_retrying (p : Provider σ) {r : Retry} (hr : r.policy = ProviderError.isRetryable) :
    (p.retrying r).Settled := by
  constructor
  · intro s input
    rw [handle_retrying]
    split
    · exact Attempt.final_throw rfl
    · exact Retry.final_layer hr _ _
  · intro s input hvacant
    rw [handle_retrying, if_pos hvacant]

/-- **Retrying changes nothing about a settled provider.** -/
theorem Settled.retrying_eq {p : Provider σ} (h : p.Settled) {r : Retry}
    (hr : r.policy = ProviderError.isRetryable) : p.retrying r = p := by
  have hhandle : (p.retrying r).handle = p.handle := by
    funext s input
    rw [handle_retrying]
    split
    · rename_i hvacant
      exact (h.vacant s input hvacant).symm
    · exact Retry.layer_of_final hr (h.final s input)
  have hfields : p.retrying r = { p with handle := (p.retrying r).handle } := rfl
  rw [hfields, hhandle]

/-- What a record of a settled provider holds of each call: its error is not worth another
attempt. -/
theorem Settled.adds_recording {p : Provider σ} (h : p.Settled) (ctx : Option Context) (c : Call) :
    Adds (p.recording.call ctx c).run fun outcome new => ∃ x : Handling, new = [x] ∧
      ∀ e, outcome = .error e → e.isRetryable = false := by
  intro env
  have hfinal (s : Shape) (input : s.Input) (e : ProviderError)
      (he : ((p.handle s input).run env.erase).1 = .error e) : e.isRetryable = false :=
    h.final s input env.erase _ e (Prod.ext he rfl)
  cases ctx with
  | none => exact ⟨_, rfl, _, rfl, hfinal .call c⟩
  | some ctx => exact ⟨_, rfl, _, rfl, hfinal .callContext (ctx, c)⟩

/-- **What cannot be signed in front of a settled provider** is not worth another attempt: either
all probes have passed, or the last one has failed with an error that is not. -/
theorem Settled.final_rewrite {p : Provider σ} (h : p.Settled) (registry : Registry) (s : Shape)
    (input : s.Input) : ((SigningLayer.mk p registry).rewrite s input).Final := by
  intro env env' e hrun
  let start : Env (Logged Handling σ) := env.withLog []
  obtain ⟨houtcome, -⟩ := SigningLayer.erase_rewrite_recording p registry s input start
  have hfailed : (((SigningLayer.mk p.recording registry).rewrite s input).run start).1
      = .error e := houtcome.trans (congrArg Prod.fst hrun)
  obtain ⟨probes, -, hexplained⟩ := SigningLayer.explains_rewrite
    (l := SigningLayer.mk p.recording registry) s input
    (Reader.tells_ofProvider (h.adds_recording (s.context? input))) start
  rw [hfailed] at hexplained
  refine Accounts.not_retryable hexplained ?_
  -- an answer that cannot be read is not worth another attempt, either
  rintro q failure x ⟨outcome, hx, hanswer⟩
  cases outcome with
  | error failure' =>
    cases hanswer
    exact hx _ rfl
  | ok v =>
    have hdecoded : ProviderError.ofDecoded (q.decoder.runJson v) = .error failure := hanswer.symm
    cases hread : q.decoder.runJson v with
    | ok answer =>
      rw [hread] at hdecoded
      cases hdecoded
    | error fault =>
      rw [hread] at hdecoded
      cases hdecoded
      rfl

/-- **Signing in front of a settled provider** is settled. -/
theorem Settled.signing {p : Provider σ} (h : p.Settled) (registry : Registry) :
    (p.signing registry).Settled := by
  constructor
  · intro s input
    rw [handle_signing]
    split
    · exact Attempt.final_throw rfl
    · rw [SigningLayer.layer_eq_bind]
      exact (h.final_rewrite registry s input).bind fun signed => h.final s signed
  · intro s input hvacant
    rw [handle_signing, if_pos hvacant]

end Provider

/-! ## Main result -/

namespace Retry

/-- **Layers that retry do not multiply.** Whatever is behind a layer that retries, and whatever is
asked for in whatever context, no error that leaves the layer is worth another attempt. So another
layer that retries in front of this one makes one pass: it uses what is behind it once, and outcome,
node and time are what they are without it. The same is true of providers, also if there is one that
signs between the two.

If it is a probe of a layer that signs whose attempts are exhausted, then the error with which it
leaves is not worth another attempt, either. -/
theorem layers_do_not_multiply (n interval n' interval' : Nat) :
    let inner := ofAttempts n interval ProviderError.isRetryable
    let outer := ofAttempts n' interval' ProviderError.isRetryable
    (∀ (s : Shape) (next : Handler σ s) (input : s.Input),
      (inner.layer s next input).Final ∧
      outer.layer s (inner.layer s next) input = inner.layer s next input ∧
      ∀ env, ((outer.layer s (Handler.observed (inner.layer s next)) input).run env).2.log
        = env.log ++ [.make (inner.layer s next) input env.erase]) ∧
    (∀ (p : Provider σ) (registry : Registry),
      (p.retrying inner).retrying outer = p.retrying inner ∧
      ((p.retrying inner).signing registry).retrying outer
        = (p.retrying inner).signing registry) ∧
    ∀ (p : Provider σ) (registry : Registry) (s : Shape) (next : Handler (Logged Handling σ) s)
      (input : s.Input) (env env' : Env (Logged Handling σ)) (e : ProviderError)
      (probes : List Handling) (made : Nat) (last : ProviderError),
      ((SigningLayer.mk p.recording registry).rewrite s input).run env = (.error e, env') →
      env'.log = env.log ++ probes →
      Handling.AbortedBy (s.context? input) probes (.retriesExhausted made last) →
      ((SigningLayer.mk p.recording registry).layer s next input).run env = (.error e, env') ∧
        e.isRetryable = false := by
  intro inner outer
  refine ⟨fun s next input => ?_, fun p registry => ?_, ?_⟩
  · have hfinal : (inner.layer s next input).Final := final_layer rfl next input
    exact ⟨hfinal, layer_of_final rfl hfinal, log_layer_of_final rfl hfinal⟩
  · have hsettled : (p.retrying inner).Settled := p.settled_retrying rfl
    exact ⟨hsettled.retrying_eq rfl, (hsettled.signing registry).retrying_eq rfl⟩
  · intro p registry s next input env env' e probes made last hrun hlog haborted
    obtain ⟨probes', hlog', haccounts⟩ := SigningLayer.exists_probes p registry hrun
    obtain rfl : probes' = probes := List.append_cancel_left (hlog'.symm.trans hlog)
    obtain ⟨-, hclass, -⟩ := Handling.errorClass_of_accounts haccounts
    exact ⟨SigningLayer.run_layer_of_error _ hrun next,
      congrArg ErrorClass.retryable (hclass _ haborted)⟩

/-- A node that is never reached is called three times by three attempts, also if four attempts are
made around them; and exhausted attempts are not worth another one after they were a probe. -/
theorem layers_do_not_multiply_dead :
    let dead := Provider.ofAnswers fun _ _ => .error (.transport "closed")
    let exhausted := Provider.ofAnswers fun _ _ =>
      .error (.retriesExhausted 3 (.transport "closed"))
    let inner := ofAttempts 3 5 ProviderError.isRetryable
    let outer := ofAttempts 4 7 ProviderError.isRetryable
    let sent : Call := ⟨sendTransaction, [.transaction .settled]⟩
    let twice := (((dead.retrying inner).retrying outer).handle .call sent).run { node := 0 }
    let signed := ((SigningLayer.mk exhausted.recording (.sole PrivateKey.one.toSigner)).rewrite
      .call sent).run { node := ⟨[], 0⟩ }
    (twice.1.isOk = false ∧ twice.2.node = 3 ∧ twice.2.now = 10) ∧
      ∃ e, signed.1 = .error e ∧ e.isRetryable = false := by
  intro dead exhausted inner outer sent twice signed
  obtain ⟨-, hproviders, hprobes⟩ := layers_do_not_multiply (σ := Nat) 3 5 4 7
  constructor
  · have htwice : twice = ((dead.retrying inner).handle .call sent).run { node := 0 } := by
      rw [← (hproviders dead .empty).1]
    rw [htwice]
    decide +kernel
  · obtain ⟨e, he⟩ : ∃ e, signed.1 = .error e := ⟨_, rfl⟩
    have hrun : signed = (.error e, signed.2) := Prod.ext he rfl
    -- the latest block is the first thing that is asked for
    have haborted : Handling.AbortedBy none signed.2.log
        (.retriesExhausted 3 (.transport "closed")) :=
      ⟨[], _, .blockByNumber .latest false, rfl, _, rfl, rfl⟩
    obtain ⟨-, hfinal⟩ := hprobes exhausted (.sole PrivateKey.one.toSigner) .call
      (exhausted.recording.handle .call) sent _ _ e _ 3 _ hrun rfl haborted
    exact ⟨e, he, hfinal⟩

end Retry

end EthClient
