import EthClient.Proofs.Contexts

/-! # Attempts whose time is up

The timeout of a client bounds the attempts of a call one by one. When the time of an attempt is up,
the attempt has either been answered or has not reached the node at all.

* An action **lasts** some milliseconds (`Action.Lasts`) if it lets this time go by, comes to a
  known result and leaves everything else as it was (`Env.Later`). There is a rule for each way of
  putting actions together.
* If the node answers too late, an attempt lasts until its deadline (**`lasts_bounded`**), and a
  call uses up its attempts with the pauses between them (**`Retry.lasts_run`**).
* If the node answers in time, the attempt is alike with one at a node that answers at once
  (**`alike_bounded_prompt`**).

**`Client.timeouts_are_per_attempt`** puts the two together for calls and batches that are not
signed. -/

namespace EthClient

variable {σ α β : Type}

/-! ## Actions that last -/

/-- Some milliseconds later everything is as it was, as far as the node and new contexts can
tell. -/
structure Env.Later (ms : Nat) (env env' : Env σ) : Prop where
  now : env'.now = env.now + ms
  node : env'.node = env.node
  made : env'.ScopesMade

/-- One time after the other. -/
theorem Env.Later.trans {env env' env'' : Env σ} {a b : Nat} (h : env.Later a env')
    (h' : env'.Later b env'') : env.Later (a + b) env'' where
  now := by rw [h'.now, h.now, Nat.add_assoc]
  node := h'.node.trans h.node
  made := h'.made

/-- The action lets some milliseconds go by and comes to this result. -/
def Action.Lasts (ms : Nat) (a : α) (act : Action σ α) : Prop :=
  ∀ env, env.ScopesMade → (act env).1 = a ∧ env.Later ms (act env).2

namespace Action.Lasts

variable {a : α} {b : β} {act : Action σ α} {f : α → Action σ β} {ms ms' : Nat}

/-- What it comes to and what it leaves. -/
theorem exists_env (h : Lasts ms a act) {env : Env σ} (hmade : env.ScopesMade) :
    ∃ env', act env = (a, env') ∧ env.Later ms env' :=
  ⟨_, Prod.ext (h env hmade).1 rfl, (h env hmade).2⟩

/-- A value takes no time. -/
theorem pure : Lasts 0 a (pure a : Action σ α) := fun _ hmade => ⟨rfl, rfl, rfl, hmade⟩

/-- **One action after the other** takes the time of both. -/
theorem bind (h : Lasts ms a act) (hf : Lasts ms' b (f a)) : Lasts (ms + ms') b (act >>= f) := by
  intro env hmade
  obtain ⟨env', hact, hlater⟩ := h.exists_env hmade
  obtain ⟨hb, hlater'⟩ := hf env' hlater.made
  rw [run_action_bind, hact]
  exact ⟨hb, hlater.trans hlater'⟩

/-- Behind something that takes no time. -/
theorem after (h : Lasts 0 a act) (hf : Lasts ms b (f a)) : Lasts ms b (act >>= f) := by
  simpa using h.bind hf

/-- In front of something that takes no time. -/
theorem before (h : Lasts ms a act) (hf : Lasts 0 b (f a)) : Lasts ms b (act >>= f) := h.bind hf

/-- A report takes no time. -/
theorem report (e : Event) : Lasts 0 () (EthClient.report e : Action σ Unit) :=
  fun _ hmade => ⟨rfl, rfl, rfl, ⟨hmade.cancelled, hmade.alarm⟩⟩

/-- Nor does a span. -/
theorem inSpan (span : Span) (h : Lasts ms a act) : Lasts ms a (EthClient.inSpan span act) := by
  intro env hmade
  obtain ⟨ha, hnow, hnode, hleft⟩ :=
    h { env with spans := env.spans ++ [span] } ⟨hmade.cancelled, hmade.alarm⟩
  exact ⟨ha, hnow, hnode, ⟨hleft.cancelled, hleft.alarm⟩⟩

/-- A pause without a context takes its time. -/
theorem wait (ms : Nat) : Lasts ms (.ok ()) (EthClient.wait none ms : Action σ _) := by
  intro env hmade
  rw [wait_eq_elapse (env.spares_none ms)]
  exact ⟨rfl, env.now_elapse ms, env.node_elapse ms, hmade.elapse ms⟩

/-- **A layer of reports** takes the time of what it hands on. -/
theorem logging {s : Shape} {next : Handler σ s} {input : s.Input} {e : ProviderError}
    (h : Lasts ms (.error e) (next input).run) :
    Lasts ms (.error e) (EthClient.logging s next input).run := by
  refine inSpan _ ((report _).after (h.before ?_))
  exact (report (.failed e)).after pure

end Action.Lasts

/-! ## Attempts that time out -/

/-- A wait in a new context ends with the context, if it is not shorter. -/
theorem Env.ScopesMade.wait_new {env : Env σ} (h : env.ScopesMade) {ms timeout : Nat}
    (hms : timeout ≤ ms) :
    wait (some (env.newContext timeout)) ms env.opened
      = (.error .deadlineExceeded, env.opened.elapse timeout) := by
  obtain ⟨hlive, halarm⟩ := h.live_new timeout
  by_cases ht : timeout = 0
  · -- the context is over when it is made
    have hexpired : env.opened.isExpired (env.newContext timeout) = true := by
      simp [isExpired, newContext, Env.opened, ht]
    unfold wait
    rw [Option.any_some, hlive, if_neg Bool.false_ne_true, Option.any_some, if_pos hexpired, ht]
    rfl
  · have hlater : ¬ env.now + timeout ≤ env.now := by omega
    have hdone : (some (env.newContext timeout)).any env.opened.isDone = false := by
      rw [Option.any_some, isDone, hlive]
      simp [isExpired, newContext, Env.opened, hlater]
    rw [wait_of_live hdone halarm]
    simp [waitResult, waitEnd, newContext, Env.opened, hms]

/-- **An attempt at a node that answers too late** lasts until its deadline, whatever would
follow. -/
theorem lasts_bounded {latency timeout : Nat} (hl : timeout ≤ latency) (rest : Attempt σ α) :
    Action.Lasts timeout (.error .deadlineExceeded)
      (bounded timeout fun c => waitIn (some c) latency >>= fun _ => rest).run := by
  intro env hmade
  have hwait : (waitIn (some (env.newContext timeout)) latency).run env.opened
      = (.error .deadlineExceeded, env.opened.elapse timeout) := by
    rw [run_waitIn, hmade.wait_new hl]
    rfl
  rw [run_bounded, run_bind_of_error hwait]
  exact ⟨rfl, env.opened.now_elapse timeout, env.opened.node_elapse timeout,
    hmade.after_bounded timeout⟩

/-- **A call all of whose attempts fail in the same way** takes their time and that of the pauses
between them, and ends when its attempts are used up. -/
theorem Retry.lasts_run {r : Retry} {act : Attempt σ α} {e : ProviderError} {ms : Nat}
    (hp : r.policy e = true) (h : Action.Lasts ms (.error e) act.run) (left made : Nat) :
    Action.Lasts ((left + 1) * ms + left * r.interval)
      (.error (.retriesExhausted (made + left + 1) e)) (r.run none act left made) := by
  -- the attempts that are left decrease, and those that were made are counted
  induction left generalizing made with
  | zero =>
    intro env hmade
    obtain ⟨env', hact, hlater⟩ := h.exists_env hmade
    obtain ⟨-, hreported⟩ := Action.Lasts.report (.givingUp (made + 1) e) env' hlater.made
    rw [run_of_error hact, hp, if_neg (by decide), if_neg (by simp), if_pos (.inl rfl)]
    have htime : (0 + 1) * ms + 0 * r.interval = ms + 0 := by omega
    exact ⟨rfl, htime ▸ hlater.trans hreported⟩
  | succ left ih =>
    intro env hmade
    obtain ⟨env', hact, hlater⟩ := h.exists_env hmade
    have hpausing : Action.Lasts r.interval (.ok ()) (r.pause none (made + 1) e : Action σ _) :=
      (Action.Lasts.report _).after (.wait r.interval)
    obtain ⟨env'', hpause, hpaused⟩ := hpausing.exists_env hlater.made
    obtain ⟨hresult, hleft⟩ := ih (made + 1) env'' hpaused.made
    rw [run_of_error hact, hp, if_neg (by decide), if_neg (by simp), if_neg (by simp), hpause]
    have hcount : made + (left + 1) + 1 = made + 1 + left + 1 := by omega
    have htime : (left + 1 + 1) * ms + (left + 1) * r.interval
        = ms + r.interval + ((left + 1) * ms + left * r.interval) := by
      simp only [Nat.add_mul, Nat.one_mul]
      omega
    rw [hcount, htime]
    exact ⟨hresult, (hlater.trans hpaused).trans hleft⟩

/-! ## Attempts that are answered in time -/

/-- Two environments with the same node, in the first of which new contexts can be made. -/
structure Env.SameNode (env env' : Env σ) : Prop where
  node : env'.node = env.node
  made : env.ScopesMade

/-- What was reported does not matter. -/
theorem Env.blind_sameNode : Blind (SameNode : Env σ → Env σ → Prop) :=
  fun _ _ _ _ _ _ h => ⟨h.node, ⟨h.made.cancelled, h.made.alarm⟩⟩

/-- Nor does the time, as long as there is no context. -/
theorem Env.together_sameNode :
    Context.Together (SameNode : Env σ → Env σ → Prop) none none where
  cancelled _ _ _ := rfl
  done _ _ _ := rfl
  wait ms env env' h := by
    rw [wait_eq_elapse (env.spares_none ms), wait_eq_elapse (env'.spares_none ms)]
    exact ⟨rfl, by rw [node_elapse, node_elapse, h.node], h.made.elapse ms⟩

/-- **An attempt at a node that answers in time** is alike with one at a node that answers at
once. -/
theorem alike_bounded_prompt {latency timeout : Nat} (hl : latency < timeout)
    (step : σ → Except ProviderError α × σ) :
    Alike Env.SameNode Eq
      (bounded timeout fun c => waitIn (some c) latency >>= fun _ =>
        ExceptT.mk (Env.atNode step)).run
      (waitIn none 0 >>= fun _ => ExceptT.mk (Env.atNode step)).run := by
  intro env env' h
  rw [run_bounded_atNode h.made hl, run_waitIn_atNode (env'.spares_none 0) step, h.node]
  have hmade := h.made.after_bounded latency
  exact ⟨rfl, rfl, ⟨hmade.cancelled, hmade.alarm⟩⟩

/-! ## Clients -/

namespace Client

variable {o : ClientOption} {s : Shape} {input : s.Input}

/-- What sends no transaction is handed on through the layers of a client as it is. -/
theorem handle_layered_of_unsigned (inner : Provider σ)
    (h : o.registry.isSome → sendTransaction ∉ s.methods input) :
    (layered inner o).toProvider.handle s input
      = if s.isVacant input then throw .emptyBatch
        else o.retry.layer s
          (if o.logging then logging s (inner.handle s) else inner.handle s) input := by
  have hsigned (registry : Registry) (hreg : o.registry = some registry) (next : Handler σ s) :
      (SigningLayer.mk inner registry).layer s next input = next input := by
    rw [SigningLayer.layer_eq_bind, SigningLayer.rewrite_eq_pure _ (h (by simp [hreg])), pure_bind]
  rw [handle_layered]
  dsimp only
  split
  · rfl
  · cases hreg : o.registry with
    | none => rfl
    | some registry => simp only [Retry.layer, hsigned registry hreg]

/-- **What a client makes of a call at a node that answers too late.** -/
theorem lasts_late {latency : Nat} (hl : o.requestTimeout.ticks ≤ latency)
    (hplain : s.context? input = none) (hasks : s.isVacant input = false)
    (hunsigned : o.registry.isSome → sendTransaction ∉ s.methods input) :
    let n := max o.retryCount 1
    Action.Lasts (n * o.requestTimeout.ticks + (n - 1) * o.retryInterval.ticks)
      (.error (.retriesExhausted n .deadlineExceeded))
      ((ofTransport (.scripted latency) o).toProvider.handle s input).run := by
  have htimed : Action.Lasts o.requestTimeout.ticks (.error .deadlineExceeded)
      (((Provider.scripted latency).withTimeout o.requestTimeout.ticks).handle s input).run := by
    cases s with
    | call => exact lasts_bounded hl _
    | batch => exact lasts_bounded hl _
    | callContext | batchContext => cases hplain
  have hreported : Action.Lasts o.requestTimeout.ticks (.error .deadlineExceeded)
      ((if o.logging then
          logging s (((Provider.scripted latency).withTimeout o.requestTimeout.ticks).handle s)
        else ((Provider.scripted latency).withTimeout o.requestTimeout.ticks).handle s)
          input).run := by
    split
    · exact htimed.logging
    · exact htimed
  intro n
  have hone : n - 1 + 1 = n := Nat.sub_add_cancel (Nat.le_max_right _ _)
  have hrun := Retry.lasts_run (r := o.retry) rfl hreported (n - 1) 0
  rw [hone, Nat.zero_add, hone] at hrun
  rw [ofTransport_eq_layered, handle_layered_of_unsigned _ hunsigned, hasks,
    if_neg Bool.false_ne_true, Retry.layer, hplain]
  exact hrun

/-- **What it makes of one at a node that answers in time.** -/
theorem alike_prompt {latency : Nat} (hl : latency < o.requestTimeout.ticks)
    (hplain : s.context? input = none)
    (hunsigned : o.registry.isSome → sendTransaction ∉ s.methods input) :
    Alike Env.SameNode Eq ((ofTransport (.scripted latency) o).toProvider.handle s input).run
      ((layered (.scripted 0) o).toProvider.handle s input).run := by
  have hblind : Blind (Env.SameNode : Env ScriptedNode → _ → Prop) := Env.blind_sameNode
  have htimed : Alike Env.SameNode Eq
      (((Provider.scripted latency).withTimeout o.requestTimeout.ticks).handle s input).run
      ((Provider.scripted 0).handle s input).run := by
    cases s with
    | call => exact alike_bounded_prompt hl fun n : ScriptedNode => n.respond input
    | batch => exact alike_bounded_prompt hl fun n : ScriptedNode => n.respondBatch input
    | callContext | batchContext => cases hplain
  rw [ofTransport_eq_layered, handle_layered_of_unsigned _ hunsigned,
    handle_layered_of_unsigned _ hunsigned]
  split
  · exact .pure rfl
  · rw [Retry.layer, Retry.layer, hplain]
    refine Retry.alike_run (fun e => hblind.alike_report e e) Env.together_sameNode
      o.retry.respects_eq ?_ _ _
    split
    · exact hblind.alike_logging htimed
    · exact htimed

/-! ## Main result -/

/-- **Each attempt has the timeout of its own.** Let a client make a call or a batch without a
context that sends no transaction to be signed, at a node that answers after some time.

* If the timeout is not longer than this, or timers do not tell the two apart, all attempts end at
  their deadlines, and the call with them when they are used up: after as many timeouts as there are
  attempts and the pauses between them, as the timer takes them. The node is left as it was: nothing
  is on record, and no response is taken.
* If the timeout is longer and told from it, outcome and node are as if the node answered at once
  and there were no timeout.
* A batch without elements is refused at once in either case. -/
theorem timeouts_are_per_attempt (latency : Duration) (o : ClientOption) {s : Shape}
    {input : s.Input} (hplain : s.context? input = none)
    (hunsigned : o.registry.isSome → sendTransaction ∉ s.methods input)
    {env : Env ScriptedNode} (hmade : env.ScopesMade) :
    let timed := ((ofTransport (.scripted latency.ticks) o).toProvider.handle s input).run env
    let untimed := ((layered (.scripted 0) o).toProvider.handle s input).run env
    let timeout := o.requestTimeout
    let n := max o.retryCount 1
    (timeout.nanos ≤ latency.nanos ∨ ¬ latency.Told timeout → s.isVacant input = false →
      timed.1 = .error (.retriesExhausted n .deadlineExceeded) ∧
      timed.2.now = env.now + (n * timeout.ticks + (n - 1) * o.retryInterval.ticks) ∧
      timed.2.node = env.node) ∧
    (latency.nanos < timeout.nanos ∧ latency.Told timeout →
      timed.1 = untimed.1 ∧ timed.2.node = untimed.2.node) ∧
    (s.isVacant input = true → timed = (.error .emptyBatch, env)) := by
  intro timed untimed timeout n
  refine ⟨fun hl hasks => ?_, fun hl => ?_, fun hvacant => ?_⟩
  · have hticks : timeout.ticks ≤ latency.ticks :=
      hl.elim Duration.ticks_mono fun hsame => Nat.le_of_eq (not_not.mp hsame).symm
    obtain ⟨houtcome, hlater⟩ := lasts_late hticks hplain hasks hunsigned env hmade
    exact ⟨houtcome, hlater.now, hlater.node⟩
  · have hticks : latency.ticks < timeout.ticks := hl.2.ticks_lt hl.1
    obtain ⟨houtcome, hsame⟩ := alike_prompt hticks hplain hunsigned env env ⟨rfl, hmade⟩
    exact ⟨houtcome, hsame.node.symm⟩
  · have hrefused : (ofTransport (.scripted latency.ticks) o).toProvider.handle s input
        = throw .emptyBatch := by
      rw [ofTransport_eq_layered, handle_layered, if_pos hvacant]
    exact congrArg (fun act : Attempt ScriptedNode s.Output => act.run env) hrefused

/-- A node that answers at the very deadline answers too late, three times. One that is a
millisecond faster is reached: its first answer is a failure and its second one a value. -/
theorem timeouts_are_per_attempt_tie :
    let o : ClientOption :=
      { retryCount := 3, retryInterval := 100, requestTimeout := 1000, registry := some .empty }
    let asked : Call := ⟨"eth_chainId", []⟩
    let node : ScriptedNode := { queue := fun _ => [.failure "closed", .value .null] }
    let env : Env ScriptedNode := { node }
    let run (latency : Duration) :=
      ((ofTransport (.scripted latency.ticks) o).toProvider.handle .call asked).run env
    (Shape.call.context? asked = none ∧ sendTransaction ∉ Shape.call.methods asked ∧
      env.ScopesMade) ∧
    (o.requestTimeout.nanos ≤ (1000 : Duration).nanos ∧ Shape.call.isVacant asked = false ∧
      (run 1000).1 = .error (.retriesExhausted 3 .deadlineExceeded) ∧ (run 1000).2.now = 3200 ∧
      (run 1000).2.node = node) ∧
    ((999 : Duration).nanos < o.requestTimeout.nanos ∧ Duration.Told 999 o.requestTimeout) ∧
      (run 999).1.isOk = true ∧
      (run 999).2.node.requests.map (·.method) = ["eth_chainId", "eth_chainId"] := by
  intro o asked node env run
  have hunsigned : sendTransaction ∉ Shape.call.methods asked := by decide
  have hmade : env.ScopesMade := ⟨nofun, nofun⟩
  have hplain : Shape.call.context? asked = none := rfl
  obtain ⟨hlate, -⟩ := timeouts_are_per_attempt 1000 o hplain (fun _ => hunsigned) hmade
  obtain ⟨-, hprompt, -⟩ := timeouts_are_per_attempt 999 o hplain (fun _ => hunsigned) hmade
  have hshorter : (999 : Duration).nanos < o.requestTimeout.nanos := by decide
  have htold : Duration.Told 999 o.requestTimeout := Duration.told_ofMillis hshorter
  obtain ⟨hfailed, hnow, hleft⟩ := hlate (.inl (Nat.le_refl _)) rfl
  obtain ⟨houtcome, hnode⟩ := hprompt ⟨hshorter, htold⟩
  refine ⟨⟨hplain, hunsigned, hmade⟩,
    ⟨Nat.le_refl _, rfl, hfailed, hnow.trans (by decide), hleft⟩, ⟨hshorter, htold⟩, ?_, ?_⟩
  · rw [houtcome]
    decide +kernel
  · rw [hnode]
    decide +kernel

/-- **Where a timeout is not told from a latency.** A batch without elements is refused at once,
although the node would answer too late. And a node that answers after 1.2 milliseconds does not
come before a timeout of 1.7 milliseconds, since both are up at the second millisecond: three
attempts take six milliseconds in all and expire, while the node has a value for them. -/
theorem timeouts_come_in_milliseconds :
    let asked : Call := ⟨"eth_chainId", []⟩
    let env : Env ScriptedNode := { node := { queue := fun _ => [.value .null] } }
    let late : ClientOption := { retryCount := 2, retryInterval := 5, requestTimeout := 10 }
    let vacant := ((ofTransport (.scripted (10 : Duration).ticks) late).toProvider.handle .batch
      []).run env
    let latency : Duration := ⟨1200000, by decide⟩
    let o : ClientOption :=
      { retryCount := 3, retryInterval := 0, requestTimeout := ⟨1700000, by decide⟩ }
    let timed := ((ofTransport (.scripted latency.ticks) o).toProvider.handle .call asked).run env
    let untimed := ((layered (.scripted 0) o).toProvider.handle .call asked).run env
    (vacant.1 = .error .emptyBatch ∧ vacant.2.now = 0) ∧
    latency.nanos < o.requestTimeout.nanos ∧
      timed.1 = .error (.retriesExhausted 3 .deadlineExceeded) ∧ timed.2.now = 6 ∧
      untimed.1.isOk = true := by
  intro asked env late vacant latency o timed untimed
  have hticks : o.requestTimeout.ticks ≤ latency.ticks := by decide
  have hplain : Shape.call.context? asked = none := rfl
  have hmade : env.ScopesMade := ⟨nofun, nofun⟩
  obtain ⟨hfailed, hlater⟩ := lasts_late hticks hplain rfl nofun env hmade
  exact ⟨⟨rfl, rfl⟩, by decide, hfailed, hlater.now.trans (by decide), by decide +kernel⟩

end Client

end EthClient
