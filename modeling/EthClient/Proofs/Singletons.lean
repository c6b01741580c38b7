import EthClient.Proofs.Alike
import EthClient.Proofs.Untyped
import EthClient.Transport.Scripted

/-! # Batches of one

An error answer of the node is the error of a single call, but in a batch it is part of a successful
outcome, in the slot of its element. Retrying and signing treat errors and successes differently, so
it has to be shown that a batch of one element still does what the single call does.

Which outcomes belong together is said by **`SameOutcome`**. A node gives such outcomes
(**`ScriptedNode.respondBatch_single`**), neither or both of them are repeated
(**`respects_sameOutcome`**), and from this all layers of a client keep them together
(**`Client.single_batch_agrees`**). The attempts of a client are counted with a record of what is
beneath its retrying (`Client.attempting`), which changes nothing else
(**`Client.erase_attempting`**). -/

namespace EthClient

/-! ## Outcomes that belong together -/

/-- The outcomes of a single call and of a batch of one: the same value, or an error answer in the
slot of the element, or the same error of both. An error answer can be the error of both only if it
was given to a question that was asked before. -/
inductive SameOutcome (probed : Prop) :
    Except ProviderError Json → Except ProviderError (List BatchElem) → Prop where
  | value {v : Json} {e : BatchElem} (hv : v.Ordered) (hr : e.result = some v)
    (he : e.error = none) : SameOutcome probed (.ok v) (.ok [e])
  | refused {err : RpcError} {e : BatchElem} (he : e.error = some err) :
    SameOutcome probed (.error (.rpc err)) (.ok [e])
  | failed {err : ProviderError} (h : (∃ answer, err = .rpc answer) → probed) :
    SameOutcome probed (.error err) (.error err)

namespace SameOutcome

variable {probed : Prop} {x : Except ProviderError Json}

/-- **The element of the batch, without a type, is the outcome of the call.** -/
theorem decode_eq {answered : List BatchElem} (h : SameOutcome probed x (.ok answered)) :
    ∃ e, answered = [e] ∧ e.decode Decoder.untyped = x := by
  cases h with
  | @value v e hv hr he =>
    have hread : Decoder.untyped.runJson v = .ok v := hv.runJson_untyped
    refine ⟨e, rfl, ?_⟩
    simp only [BatchElem.decode, he, hr, Option.getD_some, hread]
    rfl
  | @refused err e he =>
    refine ⟨e, rfl, ?_⟩
    simp only [BatchElem.decode, he]

/-- An error of the batch is the error of the call. -/
theorem eq_error {err : ProviderError} (h : SameOutcome probed x (.error err)) :
    x = .error err := by
  cases h with
  | failed => rfl

/-- An error answer is in the slot of the element, or was given to a question. -/
theorem refused_or_probed {answer : RpcError} {y : Except ProviderError (List BatchElem)}
    (h : SameOutcome probed (.error (.rpc answer)) y) :
    (∃ e, y = .ok [e] ∧ e.error = some answer) ∨ probed ∧ y = .error (.rpc answer) := by
  cases h with
  | refused he => exact .inl ⟨_, rfl, he⟩
  | failed hprobed => exact .inr ⟨hprobed ⟨answer, rfl⟩, rfl⟩

/-- Any error that is no error answer. -/
theorem of_ne_rpc {err : ProviderError} (h : ∀ answer, err ≠ .rpc answer) :
    SameOutcome probed (.error err) (.error err) :=
  .failed fun ⟨answer, heq⟩ => absurd heq (h answer)

end SameOutcome

/-- **Neither or both of them are repeated**: no error answer is worth another attempt. -/
theorem respects_sameOutcome (o : ClientOption) (probed : Prop) :
    o.retry.Respects (SameOutcome probed) where
  repeats x y h := by
    cases h with
    | value => exact .inl ⟨id, id⟩
    | @refused err e he =>
      -- an error answer is final, so the call is not made again, either
      have hfinal : ¬ o.retry.policy (.rpc err) = true := by
        simp [ClientOption.retry, Retry.ofAttempts, ProviderError.isRetryable]
      exact .inl ⟨hfinal, id⟩
    | @failed err h =>
      by_cases hp : o.retry.policy err = true
      · exact .inr ⟨err, hp, rfl, rfl⟩
      · exact .inl ⟨hp, hp⟩
  cancelled := .of_ne_rpc fun _ => ProviderError.noConfusion
  exhausted _ _ := .of_ne_rpc fun _ => ProviderError.noConfusion

/-! ## The node -/

namespace ScriptedNode

/-- The values that the node will answer with are ordered. -/
def Ordered (n : ScriptedNode) : Prop := ∀ method v, .value v ∈ n.queue method → v.Ordered

/-- They still are after a call. -/
theorem Ordered.respond {n : ScriptedNode} (h : n.Ordered) (c : Call) :
    (n.respond c).2.Ordered := by
  intro method v hv
  refine h method v ?_
  simp only [ScriptedNode.respond] at hv
  split at hv
  · exact List.mem_of_mem_tail hv
  · exact hv

/-- **A batch of one is answered as its call**, and the node is left the same. -/
theorem respondBatch_single {n : ScriptedNode} (h : n.Ordered) (e : BatchElem) (probed : Prop) :
    SameOutcome probed (n.respond e.toCall).1 (n.respondBatch [e]).1 ∧
      (n.respondBatch [e]).2 = (n.respond e.toCall).2 := by
  rcases hr : n.respond e.toCall with ⟨result, left⟩
  have hresult : outcome e.method (n.queue e.method).head? = result := congrArg Prod.fst hr
  have hbatch : n.respondBatch [e] = n.respondEach [e] := rfl
  rw [hbatch, respondEach, hr]
  -- call and batch take the same response, and only an error answer gets into the slot
  cases hq : (n.queue e.method).head? with
  | none =>
    rw [hq] at hresult
    subst hresult
    exact ⟨.of_ne_rpc fun _ => ProviderError.noConfusion, rfl⟩
  | some response =>
    rw [hq] at hresult
    subst hresult
    cases response with
    | value v => exact ⟨.value (h e.method v (List.mem_of_mem_head? hq)) rfl rfl, rfl⟩
    | error err => exact ⟨.refused rfl, rfl⟩
    | failure reason => exact ⟨.of_ne_rpc fun _ => ProviderError.noConfusion, rfl⟩

end ScriptedNode

/-! ## Environments side by side -/

namespace Env

/-- Two environments that are the same but for what was reported, at a node whose values are
ordered. -/
structure Peer (env env' : Env ScriptedNode) : Prop where
  now : env'.now = env.now
  cancelled : env'.cancelled = env.cancelled
  alarm : env'.alarm = env.alarm
  scopeCount : env'.scopeCount = env.scopeCount
  node : env'.node = env.node
  ordered : env.node.Ordered

/-- What was reported does not matter. -/
theorem blind_peer : Blind Peer :=
  fun _ _ _ _ _ _ h => ⟨h.now, h.cancelled, h.alarm, h.scopeCount, h.node, h.ordered⟩

/-- A context is over in both at once, and a wait in it ends the same way. -/
theorem together_peer (ctx : Option Context) : Context.Together Peer ctx ctx where
  cancelled env env' h := by
    have hsame : env'.isCancelled = env.isCancelled := by
      funext c
      rw [isCancelled, isCancelled, h.cancelled]
    rw [hsame]
  done env env' h := by
    have hsame : env'.isDone = env.isDone := by
      funext c
      rw [isDone, isDone, isCancelled, isCancelled, isExpired, isExpired, h.cancelled, h.now]
    rw [hsame]
  wait ms env env' h := by
    have hclock : env'.clock = env.clock := by rw [clock, clock, h.now, h.cancelled, h.alarm]
    rw [wait_eq_setClock, wait_eq_setClock ctx ms env', hclock]
    exact ⟨rfl, rfl, rfl, rfl, h.scopeCount, h.node, h.ordered⟩

end Env

section Exchange

variable {α α' : Type} {T : Except ProviderError α → Except ProviderError α' → Prop}

/-- A wait inside an attempt: what follows it, or the error of the interruption. -/
theorem run_waitIn_bind {σ : Type} (ctx : Option Context) (ms : Nat) (act : Attempt σ α) :
    (waitIn ctx ms >>= fun _ => act).run = wait ctx ms >>= fun
      | .ok () => act.run
      | .error i => pure (.error i.toProvider) := by
  funext env
  have hrun := run_waitIn ctx ms env
  rw [run_action_bind]
  cases hw : (wait ctx ms env).1 with
  | ok =>
    rw [hw] at hrun
    exact run_bind_of_ok hrun _
  | error i =>
    rw [hw] at hrun
    exact run_bind_of_error hrun _

/-- **Exchanges with the node are alike** if the steps of the node are. -/
theorem alike_exchange (ctx : Option Context) (ms : Nat)
    {step : ScriptedNode → Except ProviderError α × ScriptedNode}
    {step' : ScriptedNode → Except ProviderError α' × ScriptedNode}
    (hstep : ∀ n : ScriptedNode, n.Ordered →
      T (step n).1 (step' n).1 ∧ (step' n).2 = (step n).2 ∧ (step n).2.Ordered)
    (herr : ∀ i : Interruption, T (.error i.toProvider) (.error i.toProvider)) :
    Alike Env.Peer T (waitIn ctx ms >>= fun _ => ExceptT.mk (Env.atNode step)).run
      (waitIn ctx ms >>= fun _ => ExceptT.mk (Env.atNode step')).run := by
  rw [run_waitIn_bind, run_waitIn_bind]
  refine ((Env.together_peer ctx).wait ms).bind_eq fun waited => ?_
  -- an interrupted wait does not reach the node
  cases waited with
  | error i => exact .pure (herr i)
  | ok =>
    intro env env' h
    obtain ⟨hT, hleft, hordered⟩ := hstep env.node h.ordered
    have hrun : (ExceptT.mk (Env.atNode step')).run env'
        = ((step' env.node).1, { env' with node := (step' env.node).2 }) := by
      rw [← h.node]
      rfl
    dsimp only
    rw [hrun]
    exact ⟨hT, h.now, h.cancelled, h.alarm, h.scopeCount, hleft, hordered⟩

/-- **A time bound is alike with what is done within it.** -/
theorem alike_within {act : Context → Attempt ScriptedNode α}
    {act' : Context → Attempt ScriptedNode α'} (ms : Nat)
    (h : ∀ ctx, Alike Env.Peer T (act ctx).run (act' ctx).run) :
    Alike Env.Peer T (bounded ms act).run (bounded ms act').run := by
  -- equally many scopes were made on both sides, so the new ones have the same number
  have hopen : Alike Env.Peer Eq (Context.unbounded.withTimeout ms)
      (Context.unbounded.withTimeout ms) := by
    intro env env' h
    have hctx : ((Context.unbounded.withTimeout ms : Action ScriptedNode Context) env').1
        = ((Context.unbounded.withTimeout ms : Action ScriptedNode Context) env).1 := by
      change Context.mk _ _ = Context.mk _ _
      rw [h.now, h.scopeCount]
    exact ⟨hctx.symm, h.now, h.cancelled, h.alarm, congrArg (· + 1) h.scopeCount, h.node,
      h.ordered⟩
  have hcancel (ctx : Context) : Alike Env.Peer Eq ctx.cancel ctx.cancel := by
    intro env env' h
    unfold Context.cancel
    cases ctx.scopes with
    | nil => exact ⟨rfl, h⟩
    | cons scope _ =>
      exact ⟨rfl, h.now, congrArg (scope :: ·) h.cancelled, h.alarm, h.scopeCount, h.node,
        h.ordered⟩
  refine hopen.bind_eq fun ctx => (h ctx).bind fun r r' hT => ?_
  exact (hcancel ctx).bind_eq fun _ => .pure hT

end Exchange

/-! ## Clients -/

namespace Client

/-- A client with a record of its attempts: each of them is one use of what is beneath its
retrying. -/
def attempting {σ : Type} (transport : Provider σ) (o : ClientOption) :
    Provider (Logged Handling σ) :=
  (beneath transport o).recording.retrying o.retry

/-- **The record changes nothing**: outcome and environment are those of the client. -/
theorem erase_attempting {σ : Type} (transport : Provider σ) (o : ClientOption) (s : Shape)
    (input : s.Input) (env : Env (Logged Handling σ)) :
    let p := (ofTransport transport o).toProvider
    (((attempting transport o).handle s input).run env).1
        = ((p.handle s input).run env.erase).1 ∧
      (((attempting transport o).handle s input).run env).2.erase
        = ((p.handle s input).run env.erase).2 := by
  intro p
  rw [handle_ofTransport_eq_retrying]
  exact (beneath transport o).erase_retrying_recording o.retry s input env

variable (latency : Nat) (o : ClientOption) (ctx : Option Context)

/-- The transport with its timeout answers a batch of one as its call. -/
theorem alike_timed (probed : Prop) (e : BatchElem) :
    let timed := (Provider.scripted latency).withTimeout o.requestTimeout.ticks
    Alike Env.Peer (SameOutcome probed) (timed.call ctx e.toCall).run
      (timed.batch ctx [e]).run := by
  have hexchange (ctx : Context) : Alike Env.Peer (SameOutcome probed)
      (waitIn (some ctx) latency >>= fun _ =>
        ExceptT.mk (Env.atNode fun n : ScriptedNode => n.respond e.toCall)).run
      (waitIn (some ctx) latency >>= fun _ =>
        ExceptT.mk (Env.atNode fun n : ScriptedNode => n.respondBatch [e])).run := by
    refine alike_exchange (some ctx) latency (fun n hn => ?_) fun i => ?_
    · obtain ⟨hsame, hleft⟩ := ScriptedNode.respondBatch_single hn e probed
      exact ⟨hsame, hleft, hn.respond e.toCall⟩
    · cases i <;> exact .of_ne_rpc fun _ => ProviderError.noConfusion
  cases ctx with
  | none => exact alike_within o.requestTimeout.ticks hexchange
  | some ctx => exact hexchange ctx

/-- So it answers every call as itself. -/
theorem alike_timed_self (c : Call) :
    let timed := (Provider.scripted latency).withTimeout o.requestTimeout.ticks
    Alike Env.Peer Eq (timed.call ctx c).run (timed.call ctx c).run := by
  have hexchange (ctx : Context) : Alike Env.Peer Eq
      (waitIn (some ctx) latency >>= fun _ =>
        ExceptT.mk (Env.atNode fun n : ScriptedNode => n.respond c)).run
      (waitIn (some ctx) latency >>= fun _ =>
        ExceptT.mk (Env.atNode fun n : ScriptedNode => n.respond c)).run :=
    alike_exchange (some ctx) latency (fun n hn => ⟨rfl, rfl, hn.respond c⟩) fun _ => rfl
  cases ctx with
  | none => exact alike_within o.requestTimeout.ticks hexchange
  | some ctx => exact hexchange ctx

end Client

/-! ## Signing -/

namespace SigningLayer

variable {σ α α' : Type} (l : SigningLayer σ) (ctx : Option Context) (e : BatchElem)

/-- **A batch of one is signed as its call.** -/
theorem batch_single : l.batch ctx [e] = l.call ctx e.toCall >>= fun c =>
    pure [{ e with method := c.method, params := c.params }] := by
  rw [batch_eq_mapM, List.mapM_cons, List.mapM_nil, element]
  simp

/-- What is made of the signed call belongs to what is made of the signed batch, and only a
transaction can fail to be signed. -/
theorem alike_single {R : Env σ → Env σ → Prop} {Q : Except ProviderError α →
    Except ProviderError α' → Prop} (f : Call → α) (f' : List BatchElem → α')
    (hcall : Alike R Eq (l.call ctx e.toCall).run (l.call ctx e.toCall).run)
    (hok : ∀ signed : BatchElem, Q (.ok (f signed.toCall)) (.ok (f' [signed])))
    (herr : e.method = sendTransaction → ∀ err, Q (.error err) (.error err)) :
    Alike R Q (l.call ctx e.toCall >>= fun c => pure (f c)).run
      (l.batch ctx [e] >>= fun elems => pure (f' elems)).run := by
  rw [batch_single, bind_assoc]
  by_cases hm : e.method = sendTransaction
  · refine hcall.bindOk (fun c => ?_) (herr hm)
    rw [pure_bind]
    exact .pure (hok { e with method := c.method, params := c.params })
  · -- the call is handed on as it is, so nothing can fail
    have hsame : l.call ctx e.toCall = pure e.toCall := by
      have hmethod : ¬ (e.toCall.method == sendTransaction) = true :=
        fun h => hm (beq_iff_eq.mp h)
      rw [call, signCall, if_neg hmethod]
      rfl
    rw [hsame, pure_bind, pure_bind, pure_bind]
    exact .pure (hok e)

end SigningLayer

/-! ## Main result -/

namespace Client

variable (latency : Nat) (o : ClientOption) (ctx : Option Context)

/-- Whether the client asks questions for signing before it makes a call of some method. -/
def Probes (o : ClientOption) (method : String) : Prop :=
  o.registry.isSome = true ∧ method = sendTransaction

/-- **What is beneath the retrying** answers a batch of one as its call. -/
theorem alike_beneath_single (e : BatchElem) :
    let p := beneath (.scripted latency) o
    Alike Env.Peer (SameOutcome (Probes o e.method)) (p.call ctx e.toCall).run
      (p.batch ctx [e]).run := by
  intro p
  -- an error answer to a question ends the call and the batch with the same error
  have herr (registry : Registry) (hreg : o.registry = some registry)
      (hm : e.method = sendTransaction) (err : ProviderError) :
      SameOutcome (Probes o e.method) (.error err) (.error err) :=
    .failed fun _ => ⟨by rw [hreg]; rfl, hm⟩
  have hcall (registry : Registry) (c : Call) := SigningLayer.alike_call registry
    (Reader.agree_ofProvider (alike_timed_self latency o ctx))
    (fun e => Env.blind_peer.alike_report e e) c
  cases ctx with
  | none =>
    -- signing keeps what belongs together: a call, and the batch of the element it is made from
    let I : Call → List BatchElem → Prop := fun c elems => ∃ e, c = e.toCall ∧ elems = [e]
    refine alike_beneath (I := I) _ o Env.blind_peer ?_ ⟨e, rfl, rfl⟩ fun registry hreg => ?_
    · rintro _ _ ⟨e', rfl, rfl⟩
      exact alike_timed latency o none _ e'
    · intro l
      let Q := @Handed .call .batch I (SameOutcome (Probes o e.method))
      have hsigned : Alike Env.Peer Q (l.call none e.toCall >>= fun c => pure (id c)).run
          (l.batch none [e] >>= fun elems => pure (id elems)).run :=
        l.alike_single none e id id (hcall registry e.toCall) (fun signed => .ok ⟨signed, rfl, rfl⟩)
          fun hm err => .error (herr registry hreg hm err)
      have hplain : l.rewrite .call e.toCall = l.call none e.toCall >>= fun c => pure (id c) :=
        (bind_pure _).symm
      have hbatch : l.rewrite .batch [e] = l.batch none [e] >>= fun elems => pure (id elems) :=
        (bind_pure _).symm
      rw [hplain, hbatch]
      exact hsigned
  | some ctx =>
    let I : Context × Call → Context × List BatchElem → Prop := fun x y =>
      ∃ e, x = (ctx, e.toCall) ∧ y = (ctx, [e])
    refine alike_beneath (I := I) _ o Env.blind_peer ?_ ⟨e, rfl, rfl⟩ fun registry hreg => ?_
    · rintro _ _ ⟨e', rfl, rfl⟩
      exact alike_timed latency o (some ctx) _ e'
    · intro l
      let Q := @Handed .callContext .batchContext I (SameOutcome (Probes o e.method))
      have hsigned : Alike Env.Peer Q (l.call (some ctx) e.toCall >>= fun c => pure (ctx, c)).run
          (l.batch (some ctx) [e] >>= fun elems => pure (ctx, elems)).run :=
        l.alike_single (some ctx) e (fun c => (ctx, c)) (fun elems => (ctx, elems))
          (hcall registry e.toCall) (fun signed => .ok ⟨signed, rfl, rfl⟩)
          fun hm err => .error (herr registry hreg hm err)
      exact hsigned

/-- **So does the client**, in as many attempts. -/
theorem alike_attempting (e : BatchElem) :
    let p := attempting (.scripted latency) o
    Alike (Beside Env.Peer) (SameOutcome (Probes o e.method)) (p.call ctx e.toCall).run
      (p.batch ctx [e]).run := by
  intro p
  have hbeneath := alike_beneath_single latency o ctx e
  have hblind := Env.blind_peer.beside (X := Handling) (Y := Handling)
  have hreport (event : Event) := hblind.alike_report event event
  have hrespects := respects_sameOutcome o (Probes o e.method)
  have hempty : SameOutcome (Probes o e.method) (.error .emptyBatch) (.error .emptyBatch) :=
    .of_ne_rpc fun _ => ProviderError.noConfusion
  have hctx := (Env.together_peer ctx).beside (X := Handling) (Y := Handling)
  cases ctx with
  | none =>
    exact Provider.alike_retrying o.retry hreport rfl hctx hrespects hempty
      (Provider.alike_recording hbeneath)
  | some ctx =>
    exact Provider.alike_retrying o.retry hreport rfl hctx hrespects hempty
      (Provider.alike_recording hbeneath)

/-- **A batch of one does what the single call does.** A client of any kind makes a call to a node
with any responses, with or without a context, and makes it as a batch of one element:

* if the batch has an outcome, it is one element, which is the outcome of the call when it is read
  without a type; if the batch fails, the call fails with the same error;
* an error answer to the call is the error of the element, unless the node gave it to a question for
  signing, which fails the batch with this answer;
* the node is asked the same and has the same responses left, and the same time goes by;
* there are as many attempts. -/
theorem single_batch_agrees (e : BatchElem) {env : Env ScriptedNode}
    (hnode : env.node.Ordered) :
    let p := (ofTransport (.scripted latency) o).toProvider
    let recorded := attempting (.scripted latency) o
    let alone := (p.call ctx e.toCall).run env
    let batch := (p.batch ctx [e]).run env
    (∀ answered, batch.1 = .ok answered →
      ∃ e', answered = [e'] ∧ e'.decode Decoder.untyped = alone.1) ∧
    (∀ err, batch.1 = .error err → alone.1 = .error err) ∧
    (∀ answer, alone.1 = .error (.rpc answer) →
      (∃ e', batch.1 = .ok [e'] ∧ e'.error = some answer) ∨
        Probes o e.method ∧ batch.1 = .error (.rpc answer)) ∧
    batch.2.node = alone.2.node ∧ batch.2.now = alone.2.now ∧
    ((recorded.batch ctx [e]).run (env.withLog [])).2.log.length
      = ((recorded.call ctx e.toCall).run (env.withLog [])).2.log.length := by
  intro p recorded alone batch
  let start : Env (Logged Handling ScriptedNode) := env.withLog []
  have hpeer : Beside Env.Peer start start := ⟨⟨rfl, rfl, rfl, rfl, rfl, hnode⟩, rfl⟩
  obtain ⟨hsame, hleft, hlength⟩ := alike_attempting latency o ctx e start start hpeer
  -- without the log, both runs are those of the client
  have halone : ((recorded.call ctx e.toCall).run start).1 = alone.1 ∧
      ((recorded.call ctx e.toCall).run start).2.erase = alone.2 := by
    cases ctx <;> exact erase_attempting _ o _ _ _
  have hbatch : ((recorded.batch ctx [e]).run start).1 = batch.1 ∧
      ((recorded.batch ctx [e]).run start).2.erase = batch.2 := by
    cases ctx <;> exact erase_attempting _ o _ _ _
  rw [halone.1, hbatch.1] at hsame
  rw [halone.2, hbatch.2] at hleft
  refine ⟨fun answered hok => ?_, fun err herr => ?_, fun answer hrefused => ?_, hleft.node,
    hleft.now, hlength.symm⟩
  · rw [hok] at hsame
    exact hsame.decode_eq
  · rw [herr] at hsame
    exact hsame.eq_error
  · rw [hrefused] at hsame
    exact hsame.refused_or_probed

/-- After a failure and an error answer, the second of two attempts settles the call with the error
and the batch with the element; what was in the slots of the element before is gone. -/
theorem single_batch_agrees_refused :
    let o : ClientOption := { retryCount := 3, retryInterval := 3, requestTimeout := 10 }
    let node : ScriptedNode :=
      { queue := fun _ => [.failure "closed", .error ⟨-32000, "not ready", none⟩] }
    let e : BatchElem := { method := "eth_chainId", params := [], result := some (.bool true) }
    let start : Env ScriptedNode := { node }
    let p := (ofTransport (.scripted 5) o).toProvider
    let recorded := attempting (.scripted 5) o
    let alone := (p.call none e.toCall).run start
    let batch := (p.batch none [e]).run start
    alone.1.isOk = false ∧
      (∃ e', batch.1 = .ok [e'] ∧ e'.decode Decoder.untyped = alone.1) ∧
      alone.2.now = 13 ∧ batch.2.now = 13 ∧
      ((recorded.call none e.toCall).run (start.withLog [])).2.log.length = 2 ∧
      ((recorded.batch none [e]).run (start.withLog [])).2.log.length = 2 := by
  intro o node e start p recorded alone batch
  have hnode : start.node.Ordered := by
    intro method v hv
    have hresponses : Response.value v
        ∈ [Response.failure "closed", .error ⟨-32000, "not ready", none⟩] := hv
    simp at hresponses
  obtain ⟨hok, -, -, -, hnow, hattempts⟩ := single_batch_agrees 5 o none e hnode
  have htime : alone.2.now = 13 := by decide +kernel
  have hcount : ((recorded.call none e.toCall).run (start.withLog [])).2.log.length = 2 := by
    decide +kernel
  have hsettled : batch.1.isOk = true := by decide +kernel
  refine ⟨by decide +kernel, ?_, htime, hnow.trans htime, hcount, hattempts.trans hcount⟩
  cases hb : batch.1 with
  | error err =>
    rw [hb] at hsettled
    cases hsettled
  | ok answered =>
    obtain ⟨e', rfl, he'⟩ := hok answered hb
    exact ⟨e', rfl, he'⟩

end Client

end EthClient
