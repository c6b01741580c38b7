import EthClient.Proofs.Pipeline
import EthClient.Proofs.Population
import EthClient.Proofs.Waiting

/-! # What the layers of a client add to a log

Timeouts, reports and pauses leave the node alone, so what is put behind a log is what the provider
beneath them puts there. Retrying repeats: what every attempt puts behind the log, if it is a
property that lists of entries keep when they are joined, holds of all attempts together
(**`Retry.adds_run`**). -/

namespace EthClient

variable {X σ α : Type}

/-! ## Waiting and spans -/

/-- A wait adds nothing. -/
theorem adds_wait (ctx : Option Context) (ms : Nat) :
    Adds (wait ctx ms : Action (Logged X σ) _) fun _ new => new = [] :=
  Adds.of_node_eq (node_wait ctx ms)

/-- Neither does cancelling a context. -/
theorem adds_cancel (ctx : Context) :
    Adds (ctx.cancel : Action (Logged X σ) Unit) fun _ new => new = [] := by
  refine Adds.of_node_eq fun env => ?_
  unfold Context.cancel
  cases ctx.scopes <;> rfl

/-- Something that is done afterwards adds nothing and keeps the result. -/
theorem Adds.before {act : Action (Logged X σ) α} {f : α → Action (Logged X σ) α}
    {post : α → List X → Prop} (h : Adds act post)
    (hf : ∀ a, Adds (f a) fun b new => b = a ∧ new = []) : Adds (act >>= f) post := by
  refine h.bind fun a new hpost => (hf a).mono ?_
  rintro _ _ ⟨rfl, rfl⟩
  rw [List.append_nil]
  exact hpost

/-- Such as an action whose own result is not looked at. -/
theorem Adds.keeping {β : Type} {act : Action (Logged X σ) β}
    (h : Adds act fun _ new => new = []) (a : α) :
    Adds (act >>= fun _ => Pure.pure a) fun b new => b = a ∧ new = [] :=
  h.after fun _ => Adds.pure ⟨rfl, rfl⟩

/-- A span adds what is done inside it. -/
theorem adds_inSpan {act : Action (Logged X σ) α} {post : α → List X → Prop} (span : Span)
    (h : Adds act post) : Adds (inSpan span act) post := by
  unfold inSpan
  refine adds_get.after fun outer => (Adds.of_node_eq fun _ => rfl).after fun _ => ?_
  exact h.before fun a => Adds.keeping (Adds.of_node_eq fun _ => rfl) a

/-! ## Layers -/

/-- **A time bound adds what is done within it**, in whatever context that is. -/
theorem adds_bounded {act : Context → Attempt (Logged X σ) α}
    {post : Except ProviderError α → List X → Prop} (ms : Nat)
    (h : ∀ ctx, Adds (act ctx).run post) : Adds (bounded ms act).run post := by
  refine (Adds.of_node_eq fun _ => rfl).after fun ctx => ?_
  exact (h ctx).before fun result => Adds.keeping (adds_cancel ctx) result

/-- **A layer of reports adds what is handed on.** -/
theorem adds_logging {s : Shape} {next : Handler (Logged X σ) s} {input : s.Input}
    {post : Except ProviderError s.Output → List X → Prop} (h : Adds (next input).run post) :
    Adds (logging s next input).run post := by
  refine adds_inSpan _ ((adds_report _).after fun _ => ?_)
  refine h.before fun result => ?_
  cases result <;> exact Adds.keeping (adds_report _) _

/-- A single call with a time bound is recorded as a single call in some context. -/
theorem Provider.adds_withTimeout_call (p : Provider σ) (ms : Nat) (ctx : Option Context)
    (c : Call) : Adds ((p.recording.withTimeout ms).call ctx c).run fun outcome new =>
      ∃ ctx', new = [Handling.single ctx' c outcome] := by
  cases ctx with
  | none =>
    exact adds_bounded ms fun ctx =>
      (p.adds_recording_call (some ctx) c).mono fun _ _ h => ⟨some ctx, h⟩
  | some ctx => exact (p.adds_recording_call (some ctx) c).mono fun _ _ h => ⟨some ctx, h⟩

/-- **A recorded provider with a time bound** that is asked has one entry for each question. -/
theorem Reader.tells_withTimeout (p : Provider σ) (ms : Nat) (ctx : Option Context) :
    (Reader.ofProvider (p.recording.withTimeout ms) ctx).Tells
      Handling.AsksSomehow := by
  have hcall : ∀ c, Adds ((p.recording.withTimeout ms).call ctx c).run fun outcome new =>
      ∃ x, new = [x] ∧ ∃ ctx', x = Handling.single ctx' c outcome := fun c =>
    (p.adds_withTimeout_call ms ctx c).mono fun _ _ ⟨ctx', h⟩ => ⟨_, h, ctx', rfl⟩
  refine (tells_ofProvider hcall).mono ?_
  rintro q answer x ⟨outcome, ⟨ctx', hx⟩, hanswer⟩
  exact ⟨ctx', outcome, hx, hanswer⟩

/-! ## Retrying -/

/-- One round: an attempt, and after an error that is worth it the rounds that are left. -/
theorem Retry.adds_round (r : Retry) (ctx : Option Context) {attempt : Attempt (Logged X σ) α}
    {good : List X → Prop} (hnil : good [])
    (happend : ∀ new more, good new → good more → good (new ++ more))
    (h : Adds attempt.run fun _ new => good new) {left made : Nat}
    (hnext : ∀ k, left = k + 1 →
      Adds (r.run ctx attempt k (made + 1)) fun _ new => good new) :
    Adds (r.run ctx attempt left made) fun _ new => good new := by
  unfold run
  refine h.bind fun outcome new hnew => ?_
  refine Adds.mono ?_ fun _ more hmore => happend new more hnew hmore
  cases outcome with
  | ok a => exact Adds.pure hnil
  | error e =>
    dsimp only
    split
    · -- the error is not worth another attempt
      exact Adds.pure hnil
    · refine adds_get.after fun env => ?_
      split
      · -- the caller has cancelled the call
        exact (adds_report _).after fun _ => Adds.pure hnil
      · cases left with
        | zero => exact (adds_report _).after fun _ => Adds.pure hnil
        | succ k =>
          refine adds_get.after fun env' => ?_
          split
          · -- the time of the call is up
            exact (adds_report _).after fun _ => Adds.pure hnil
          · -- only a pause that is not interrupted leads to the next round
            refine (adds_report _).after fun _ => (adds_wait _ _).after fun waited => ?_
            match waited with
            | .ok () => exact hnext k rfl
            | .error .cancelled => exact Adds.pure hnil
            | .error .deadlineExceeded => exact Adds.pure hnil

/-- **What holds of every attempt holds of all of them together**, if it holds of no entries and of
entries that are joined. -/
theorem Retry.adds_run (r : Retry) (ctx : Option Context) {attempt : Attempt (Logged X σ) α}
    {good : List X → Prop} (hnil : good [])
    (happend : ∀ new more, good new → good more → good (new ++ more))
    (h : Adds attempt.run fun _ new => good new) (left made : Nat) :
    Adds (r.run ctx attempt left made) fun _ new => good new := by
  -- the attempts that are left decrease, and those that were made do not matter
  induction left generalizing made with
  | zero => exact r.adds_round ctx hnil happend h fun k hk => by cases hk
  | succ left ih => exact r.adds_round ctx hnil happend h fun k hk => by cases hk; exact ih _

end EthClient
