import EthClient.Proofs.Alike
import EthClient.Transport.Scripted

/-! # Calls in a context that lasts

A call without a context is made in a context of its own at the transport, which is over when the
timeout is, and the layers before the transport know of none. A call in a context keeps this one
everywhere. If the node answers within the timeout, and nothing ends the context, both should come
to the same. They do if timers tell the time of the answer from the timeout (`Duration.Told`): an
answer at the millisecond of the deadline comes too late for a call without a context only.

`Env.Lasting` says that nothing ends a context: it has no deadline, it is not cancelled, and no
alarm is set on a scope of it. Two environments are **twins** (`Env.Twin`) if they are the same but
for scopes that do not matter: time, alarm and node are. A call that is made in twins, without a
context in the one and within the context in the other, has the same outcome and leaves twins. This
is shown for one wait (**`Env.Twin.elapse`**), for one exchange with the node
(**`alike_bounded`**), and for all layers of a client
(**`Client.lasting_context_makes_no_difference`**). -/

namespace EthClient

variable {σ : Type}

/-! ## Scopes -/

namespace Env

/-- Only scopes that were made are cancelled, now or by the alarm. -/
structure ScopesMade (env : Env σ) : Prop where
  cancelled : ∀ scope ∈ env.cancelled, scope < env.scopeCount
  alarm : ∀ instant scope, env.alarm = some (instant, scope) → scope < env.scopeCount

/-- The environment in which one more scope was made. -/
def opened (env : Env σ) : Env σ := { env with scopeCount := env.scopeCount + 1 }

/-- Nothing ends the context. -/
structure Lasting (env : Env σ) (ctx : Context) : Prop where
  deadline : ctx.deadline = none
  live : env.isCancelled ctx = false
  alarm : ∀ instant scope, env.alarm = some (instant, scope) → scope ∉ ctx.scopes

/-- A context that lasts is not over. -/
theorem Lasting.isDone {env : Env σ} {ctx : Context} (h : env.Lasting ctx) :
    env.isDone ctx = false := by
  simp [Env.isDone, isExpired, h.live, h.deadline]

/-- Nothing interrupts a wait in it. -/
theorem Lasting.spares {env : Env σ} {ctx : Context} (h : env.Lasting ctx) (ms : Nat) :
    env.Spares (some ctx) ms where
  live := h.live
  deadline d hd := by simp [h.deadline] at hd
  alarm instant scope halarm c hc := by
    cases hc
    exact h.alarm instant scope halarm

/-- Nothing interrupts a wait without a context. -/
theorem spares_none (env : Env σ) (ms : Nat) : env.Spares none ms where
  live := rfl
  deadline _ hd := by cases hd
  alarm _ _ _ _ hc := by cases hc

/-! ## Time goes by -/

/-- Either nothing but the time changes, or the alarm goes off. -/
theorem elapse_cases (ms : Nat) (env : Env σ) :
    env.elapse ms = { env with now := env.now + ms } ∨
      ∃ instant scope, env.alarm = some (instant, scope) ∧
        env.elapse ms = { env.cancelScope scope with alarm := none, now := env.now + ms } := by
  unfold elapse
  by_cases hms : ms = 0
  · -- a wait of no length does not set off an alarm, even one that is due
    rw [if_pos hms, hms]
    exact .inl rfl
  · rw [if_neg hms]
    dsimp only
    cases halarm : env.alarm with
    | none => exact .inl rfl
    | some alarm =>
      obtain ⟨instant, scope⟩ := alarm
      dsimp only
      split
      · exact .inr ⟨instant, scope, rfl, rfl⟩
      · exact .inl rfl

/-- The node is left alone. -/
@[simp] theorem node_elapse (ms : Nat) (env : Env σ) : (env.elapse ms).node = env.node := by
  rcases env.elapse_cases ms with h | ⟨_, _, _, h⟩
  · rw [h]
  · rw [h]
    rfl

/-- No scope is made. -/
@[simp] theorem scopeCount_elapse (ms : Nat) (env : Env σ) :
    (env.elapse ms).scopeCount = env.scopeCount := by
  rcases env.elapse_cases ms with h | ⟨_, _, _, h⟩
  · rw [h]
  · rw [h]
    rfl

/-- The time goes by. -/
@[simp] theorem now_elapse (ms : Nat) (env : Env σ) : (env.elapse ms).now = env.now + ms := by
  rcases env.elapse_cases ms with h | ⟨_, _, _, h⟩ <;> rw [h]

/-- The alarm depends on when it was set, and on the time. -/
theorem alarm_elapse {τ : Type} {env : Env σ} {env' : Env τ} (hnow : env'.now = env.now)
    (halarm : env'.alarm = env.alarm) (ms : Nat) :
    (env'.elapse ms).alarm = (env.elapse ms).alarm := by
  unfold elapse
  by_cases hms : ms = 0
  · rw [if_pos hms, if_pos hms, halarm]
  · rw [if_neg hms, if_neg hms, halarm, hnow]
    dsimp only
    cases env.alarm with
    | none => rfl
    | some alarm =>
      obtain ⟨instant, scope⟩ := alarm
      dsimp only
      split <;> rfl

/-- Still only scopes that were made are cancelled. -/
theorem ScopesMade.elapse {env : Env σ} (h : env.ScopesMade) (ms : Nat) :
    (env.elapse ms).ScopesMade := by
  rcases env.elapse_cases ms with helapse | ⟨instant, scope, halarm, helapse⟩
  · rw [helapse]
    exact ⟨h.cancelled, h.alarm⟩
  · rw [helapse]
    refine ⟨fun x hx => ?_, fun _ _ hnone => by cases hnone⟩
    rcases List.mem_cons.mp hx with rfl | hx
    · exact h.alarm instant x halarm
    · exact h.cancelled x hx

/-- The same after a new scope was made. -/
theorem ScopesMade.opened {env : Env σ} (h : env.ScopesMade) : env.opened.ScopesMade :=
  ⟨fun x hx => Nat.lt_succ_of_lt (h.cancelled x hx),
    fun i x hx => Nat.lt_succ_of_lt (h.alarm i x hx)⟩

/-- And after one that was made was cancelled. -/
theorem ScopesMade.cancelScope {env : Env σ} (h : env.ScopesMade) {scope : Nat}
    (hscope : scope < env.scopeCount) : (env.cancelScope scope).ScopesMade := by
  refine ⟨fun x hx => ?_, h.alarm⟩
  rcases List.mem_cons.mp hx with rfl | hx
  · exact hscope
  · exact h.cancelled x hx

/-- Still nothing ends the context. -/
theorem Lasting.elapse {env : Env σ} {ctx : Context} (h : env.Lasting ctx) (ms : Nat) :
    (env.elapse ms).Lasting ctx := by
  rcases env.elapse_cases ms with helapse | ⟨instant, scope, halarm, helapse⟩
  · rw [helapse]
    exact ⟨h.deadline, h.live, h.alarm⟩
  · rw [helapse]
    refine ⟨h.deadline, ?_, fun _ _ hnone => by cases hnone⟩
    exact (env.isCancelled_cancelScope (h.alarm instant scope halarm)).trans h.live

/-! ## Twins -/

/-- Two environments of which the second one has a context that lasts, and which are the same but
for scopes and reports. -/
structure Twin (ctx : Context) (env env' : Env σ) : Prop where
  now : env'.now = env.now
  alarm : env'.alarm = env.alarm
  node : env'.node = env.node
  made : env.ScopesMade
  lasting : env'.Lasting ctx

/-- What was reported does not matter. -/
theorem blind_twin (ctx : Context) : Blind (Twin ctx : Env σ → Env σ → Prop) :=
  fun _ _ _ _ _ _ h => ⟨h.now, h.alarm, h.node, ⟨h.made.cancelled, h.made.alarm⟩,
    ⟨h.lasting.deadline, h.lasting.live, h.lasting.alarm⟩⟩

/-- **Twins stay twins** while the time goes by. -/
theorem Twin.elapse {ctx : Context} {env env' : Env σ} (h : Twin ctx env env') (ms : Nat) :
    Twin ctx (env.elapse ms) (env'.elapse ms) where
  now := by rw [now_elapse, now_elapse, h.now]
  alarm := alarm_elapse h.now h.alarm ms
  node := by rw [node_elapse, node_elapse, h.node]
  made := h.made.elapse ms
  lasting := h.lasting.elapse ms

/-- Without a context and in one that lasts, the same calls go on. -/
theorem together_twin (ctx : Context) :
    Context.Together (Twin ctx : Env σ → Env σ → Prop) none (some ctx) where
  cancelled _ _ h := h.lasting.live.symm
  done _ _ h := h.lasting.isDone.symm
  wait ms env env' h := by
    rw [wait_eq_elapse (env.spares_none ms), wait_eq_elapse (h.lasting.spares ms)]
    exact ⟨rfl, h.elapse ms⟩

end Env

/-! ## One exchange with the node -/

variable {α : Type}

/-- An exchange that is not interrupted: the time goes by, and then the node takes its step. -/
theorem run_waitIn_atNode {ctx : Option Context} {ms : Nat} {env : Env σ} (h : env.Spares ctx ms)
    (step : σ → Except ProviderError α × σ) :
    (waitIn ctx ms >>= fun _ => ExceptT.mk (Env.atNode step)).run env
      = ((step env.node).1, { env.elapse ms with node := (step env.node).2 }) := by
  have hwait := run_waitIn_of_ok (wait_eq_elapse h)
  rw [run_bind_of_ok hwait, ← env.node_elapse ms]
  rfl

/-- The context that is made for something that may take `timeout` milliseconds. -/
def Env.newContext (env : Env σ) (timeout : Nat) : Context :=
  ⟨[env.scopeCount], some (env.now + timeout)⟩

/-- What is bounded is done in a new context, which is cancelled behind it. -/
theorem run_bounded (timeout : Nat) (act : Context → Attempt σ α) (env : Env σ) :
    (bounded timeout act).run env
      = (((act (env.newContext timeout)).run env.opened).1,
        ((act (env.newContext timeout)).run env.opened).2.cancelScope env.scopeCount) := rfl

/-- A new context is not cancelled, now or by the alarm. -/
theorem Env.ScopesMade.live_new {env : Env σ} (h : env.ScopesMade) (timeout : Nat) :
    env.opened.isCancelled (env.newContext timeout) = false ∧
      ∀ instant scope, env.opened.alarm = some (instant, scope) →
        ∀ c ∈ some (env.newContext timeout), scope ∉ c.scopes := by
  constructor
  · -- a new scope is none of those that were made before
    have hnew : env.scopeCount ∉ env.cancelled := fun hmem => by
      have hlt := h.cancelled _ hmem
      omega
    simp [isCancelled, newContext, Env.opened, hnew]
  · rintro instant scope halarm c hc
    cases hc
    have hlt := h.alarm instant scope halarm
    simp only [newContext, List.mem_singleton]
    omega

/-- In a new context with a deadline after the end, a wait is not interrupted. -/
theorem Env.ScopesMade.spares_new {env : Env σ} (h : env.ScopesMade) {ms timeout : Nat}
    (hms : ms < timeout) : env.opened.Spares (some (env.newContext timeout)) ms where
  live := (h.live_new timeout).1
  deadline d hd := by
    cases hd
    exact Nat.add_lt_add_left hms _
  alarm := (h.live_new timeout).2

/-- **An exchange within a timeout that is long enough** is not interrupted, and leaves a scope that
is cancelled. -/
theorem run_bounded_atNode {env : Env σ} (h : env.ScopesMade) {latency timeout : Nat}
    (hl : latency < timeout) (step : σ → Except ProviderError α × σ) :
    (bounded timeout fun c => waitIn (some c) latency >>= fun _ => ExceptT.mk (Env.atNode step)).run
        env
      = ((step env.node).1, ({ env.opened.elapse latency with
          node := (step env.node).2 } : Env σ).cancelScope env.scopeCount) := by
  rw [run_bounded, run_waitIn_atNode (h.spares_new hl) step]
  rfl

/-- The scope that was made for it is the one that is cancelled. -/
theorem Env.ScopesMade.after_bounded {env : Env σ} (h : env.ScopesMade) (ms : Nat) :
    ((env.opened.elapse ms).cancelScope env.scopeCount).ScopesMade := by
  refine (h.opened.elapse ms).cancelScope ?_
  rw [Env.scopeCount_elapse]
  exact Nat.lt_succ_self _

/-- **Such an exchange** is alike with one in a context that lasts. -/
theorem alike_bounded (ctx : Context) {latency timeout : Nat} (hl : latency < timeout)
    (step : σ → Except ProviderError α × σ) :
    Alike (Env.Twin ctx) Eq
      (bounded timeout fun c => waitIn (some c) latency >>= fun _ =>
        ExceptT.mk (Env.atNode step)).run
      (waitIn (some ctx) latency >>= fun _ => ExceptT.mk (Env.atNode step)).run := by
  intro env env' h
  have htwin : Env.Twin ctx env.opened env' := ⟨h.now, h.alarm, h.node, h.made.opened, h.lasting⟩
  rw [run_bounded_atNode h.made hl, run_waitIn_atNode (h.lasting.spares latency) step, h.node]
  have hafter := htwin.elapse latency
  have hmade := h.made.after_bounded latency
  exact ⟨rfl, hafter.now, hafter.alarm, rfl, ⟨hmade.cancelled, hmade.alarm⟩,
    ⟨hafter.lasting.deadline, hafter.lasting.live, hafter.lasting.alarm⟩⟩

/-! ## Clients -/

namespace Client

variable {latency : Nat} {o : ClientOption} (hl : latency < o.requestTimeout.ticks)

include hl

/-- The transport with its timeout answers a call alike without a context and in one that lasts. -/
theorem alike_timed_call (ctx : Context) (c : Call) :
    let timed := (Provider.scripted latency).withTimeout o.requestTimeout.ticks
    Alike (Env.Twin ctx) Eq (timed.call none c).run (timed.call (some ctx) c).run :=
  alike_bounded ctx hl fun n : ScriptedNode => n.respond c

/-- And it answers a batch so. -/
theorem alike_timed_batch (ctx : Context) (elems : List BatchElem) :
    let timed := (Provider.scripted latency).withTimeout o.requestTimeout.ticks
    Alike (Env.Twin ctx) Eq (timed.batch none elems).run (timed.batch (some ctx) elems).run :=
  alike_bounded ctx hl fun n : ScriptedNode => n.respondBatch elems

/-- So the questions for signing are answered alike. -/
theorem agree_timed (ctx : Context) :
    let timed := (Provider.scripted latency).withTimeout o.requestTimeout.ticks
    Reader.Agree (Env.Twin ctx) (.ofProvider timed none) (.ofProvider timed (some ctx)) :=
  Reader.agree_ofProvider (alike_timed_call hl ctx)

/-- **The client answers calls alike**, however often it retries and whatever it asks for
signing. -/
theorem alike_call (ctx : Context) (c : Call) :
    let p := (ofTransport (.scripted latency) o).toProvider
    Alike (Env.Twin ctx) Eq (p.call none c).run (p.call (some ctx) c).run := by
  intro p
  have hblind : Blind (Env.Twin ctx : Env ScriptedNode → _ → Prop) := Env.blind_twin ctx
  rw [Provider.call, Provider.call, handle_ofTransport_eq_retrying]
  refine Provider.alike_retrying o.retry (fun e => hblind.alike_report e e) rfl
    (Env.together_twin ctx) o.retry.respects_eq rfl
    (alike_beneath (I := fun c input => input = (ctx, c)) _ o hblind ?_ rfl fun registry _ => ?_)
  · rintro c _ rfl
    exact alike_timed_call hl ctx c
  · -- the signed call goes on in the context of the caller, if there is one
    intro l
    have hplain : l.rewrite .call c = l.call none c >>= fun c => pure c := (bind_pure _).symm
    rw [hplain]
    exact (SigningLayer.alike_call registry (agree_timed hl ctx)
      (fun e => hblind.alike_report e e) c).bindOk (fun _ => .pure (.ok rfl)) fun _ => .error rfl

/-- **So it does with batches.** -/
theorem alike_batch (ctx : Context) (elems : List BatchElem) :
    let p := (ofTransport (.scripted latency) o).toProvider
    Alike (Env.Twin ctx) Eq (p.batch none elems).run (p.batch (some ctx) elems).run := by
  intro p
  have hblind : Blind (Env.Twin ctx : Env ScriptedNode → _ → Prop) := Env.blind_twin ctx
  rw [Provider.batch, Provider.batch, handle_ofTransport_eq_retrying]
  refine Provider.alike_retrying o.retry (fun e => hblind.alike_report e e) rfl
    (Env.together_twin ctx) o.retry.respects_eq rfl
    (alike_beneath (I := fun elems input => input = (ctx, elems)) _ o hblind ?_ rfl
      fun registry _ => ?_)
  · rintro elems _ rfl
    exact alike_timed_batch hl ctx elems
  · intro l
    have hplain : l.rewrite .batch elems = l.batch none elems >>= fun elems => pure elems :=
      (bind_pure _).symm
    rw [hplain]
    exact (SigningLayer.alike_batch registry (agree_timed hl ctx)
      (fun e => hblind.alike_report e e) elems).bindOk (fun _ => .pure (.ok rfl))
      fun _ => .error rfl

end Client

end EthClient
