import EthClient.Proofs.Record

/-! # How a wait ends

A wait is over at once, or the alarm cancels it, or it comes to its end or to the deadline of its
context. `Waits` tells these ways apart, and **`waits`** says that there is no other one. From it:

* **`wait_eq_ok`**: after a wait that nothing interrupted, its time has gone by and the context is
  not over;
* **`wait_eq_error`**: a wait was interrupted by a cancellation if the context is cancelled
  afterwards, and by the deadline if it is not;
* **`wait_eq_elapse`**: a wait that neither a cancellation nor the deadline interrupts lets the time
  go by, whether or not it is in a context;
* **`wait_eq_setClock`**: a wait looks at the time, the cancelled scopes and the alarm, and changes
  nothing else; so the node is left alone (**`node_wait`**), and so is a log beside it
  (**`wait_withLog`**). -/

namespace EthClient

variable {X σ : Type}

/-! ## The ways of a wait -/

/-- How a wait goes: it is over at once, it is cancelled by the alarm, or it comes to its end, with
or without a cancellation that does not concern the context. -/
inductive Waits (ctx : Option Context) (ms : Nat) (env : Env σ) :
    Except Interruption Unit → Env σ → Prop where
  | cancelled (hc : ctx.any env.isCancelled = true) : Waits ctx ms env (.error .cancelled) env
  | expired (hc : ctx.any env.isCancelled = false) (he : ctx.any env.isExpired = true) :
    Waits ctx ms env (.error .deadlineExceeded) env
  | immediate (hc : ctx.any env.isCancelled = false) (he : ctx.any env.isExpired = false)
    (hms : ms = 0) : Waits ctx ms env (.ok ()) env
  | alarmed {instant scope : Nat} (hc : ctx.any (env.cancelScope scope).isCancelled = true) :
    Waits ctx ms env (.error .cancelled)
      { env.cancelScope scope with alarm := none, now := max instant env.now }
  | finished {env₁ env' : Env σ} {result : Except Interruption Unit}
    (hsame : env₁ = env ∨ ∃ scope, env₁ = { env.cancelScope scope with alarm := none })
    (hc : ctx.any env₁.isCancelled = false)
    (hf : env₁.finish ctx (env.now + ms) = (result, env')) : Waits ctx ms env result env'

/-- **A wait goes in one of these ways.** -/
theorem waits (ctx : Option Context) (ms : Nat) (env : Env σ) :
    Waits ctx ms env (wait ctx ms env).1 (wait ctx ms env).2 := by
  unfold wait
  by_cases hc : ctx.any env.isCancelled = true
  · rw [if_pos hc]
    exact .cancelled hc
  · rw [if_neg hc]
    rw [Bool.not_eq_true] at hc
    by_cases he : ctx.any env.isExpired = true
    · rw [if_pos he]
      exact .expired hc he
    · rw [if_neg he]
      rw [Bool.not_eq_true] at he
      by_cases hz : (ms == 0) = true
      · rw [if_pos hz]
        exact .immediate hc he (beq_iff_eq.mp hz)
      · rw [if_neg hz]
        dsimp only
        -- without an alarm the wait ends by itself; with one, the alarm may come first
        split
        · exact .finished (.inl rfl) hc rfl
        · split
          · split
            · exact .alarmed ‹_›
            · exact .finished (.inr ⟨_, rfl⟩) ((Bool.not_eq_true _).mp ‹_›) rfl
          · exact .finished (.inl rfl) hc rfl

/-- A wait that has come to something went in one of these ways. -/
theorem waits_of_eq {ctx : Option Context} {ms : Nat} {env env' : Env σ}
    {result : Except Interruption Unit} (h : wait ctx ms env = (result, env')) :
    Waits ctx ms env result env' := by
  have hwaits := waits ctx ms env
  rw [h] at hwaits
  exact hwaits

/-! ## The end of a wait -/

namespace Env

/-- If the deadline does not end it before, a wait ends at its end. -/
theorem finish_eq_ok {ctx : Option Context} {stop : Nat} {env env' : Env σ}
    (h : env.finish ctx stop = (.ok (), env')) :
    env' = { env with now := stop } ∧ ctx.any env'.isExpired = false := by
  unfold finish at h
  rcases ctx with _ | ⟨scopes, _ | d⟩
  · cases h
    exact ⟨rfl, rfl⟩
  · cases h
    exact ⟨rfl, rfl⟩
  · by_cases hd : d ≤ stop
    · simp only [Option.bind_some, if_pos hd] at h
      cases h
    · simp only [Option.bind_some, if_neg hd] at h
      cases h
      exact ⟨rfl, decide_eq_false hd⟩

/-- If it does, nothing has cancelled the wait. -/
theorem finish_eq_error {ctx : Option Context} {stop : Nat} {env env' : Env σ}
    {i : Interruption} (h : env.finish ctx stop = (.error i, env')) :
    i = .deadlineExceeded ∧ env'.isCancelled = env.isCancelled := by
  unfold finish at h
  split at h
  · split at h
    · cases h
      exact ⟨rfl, rfl⟩
    · cases h
  · cases h

/-- A context is over if it is cancelled or its time is up. -/
theorem any_isDone (ctx : Option Context) (env : Env σ) :
    ctx.any env.isDone = (ctx.any env.isCancelled || ctx.any env.isExpired) := by
  cases ctx <;> rfl

end Env

/-- **After a wait that nothing interrupted** its time has gone by, and the context is not over. -/
theorem wait_eq_ok {ctx : Option Context} {ms : Nat} {env env' : Env σ}
    (h : wait ctx ms env = (.ok (), env')) :
    env'.now = env.now + ms ∧ ctx.any env'.isDone = false := by
  rw [Env.any_isDone, Bool.or_eq_false_iff]
  cases waits_of_eq h with
  | immediate hc he hms => exact ⟨by rw [hms, Nat.add_zero], hc, he⟩
  | finished _ hc hf =>
    obtain ⟨rfl, he⟩ := Env.finish_eq_ok hf
    exact ⟨rfl, hc, he⟩

/-- **An interrupted wait was cancelled if the context is cancelled**, and otherwise the deadline
has come. -/
theorem wait_eq_error {ctx : Option Context} {ms : Nat} {env env' : Env σ} {i : Interruption}
    (h : wait ctx ms env = (.error i, env')) :
    ctx.any env'.isCancelled = true ↔ i = .cancelled := by
  cases waits_of_eq h with
  | cancelled hc => exact ⟨fun _ => rfl, fun _ => hc⟩
  | expired hc _ =>
    rw [hc]
    exact ⟨nofun, nofun⟩
  | alarmed hc => exact ⟨fun _ => rfl, fun _ => hc⟩
  | finished _ hc hf =>
    obtain ⟨rfl, hsame⟩ := Env.finish_eq_error hf
    rw [hsame, hc]
    exact ⟨nofun, nofun⟩

/-- Without a context nothing interrupts a wait. -/
theorem wait_none (ms : Nat) (env : Env σ) : (wait none ms env).1 = .ok () := by
  rcases hw : wait none ms env with ⟨result, env'⟩
  cases waits_of_eq hw with
  | cancelled hc => cases hc
  | expired _ he => cases he
  | immediate => rfl
  | alarmed hc => cases hc
  | finished _ _ hf =>
    cases hf
    rfl

/-- A wait inside an attempt fails with the error of the interruption. -/
theorem run_waitIn (ctx : Option Context) (ms : Nat) (env : Env σ) :
    (waitIn ctx ms).run env
      = ((wait ctx ms env).1.mapError Interruption.toProvider, (wait ctx ms env).2) := by
  rw [waitIn, ExceptT.run_mk, run_action_bind]
  cases (wait ctx ms env).1 <;> rfl

/-- So it goes on if it was not interrupted. -/
theorem run_waitIn_of_ok {ctx : Option Context} {ms : Nat} {env env' : Env σ}
    (h : wait ctx ms env = (.ok (), env')) : (waitIn ctx ms).run env = (.ok (), env') := by
  rw [run_waitIn, h]
  rfl

/-! ## Waits that nothing interrupts -/

namespace Env

/-- Neither a cancellation nor the deadline interrupts a wait in the context. -/
structure Spares (env : Env σ) (ctx : Option Context) (ms : Nat) : Prop where
  live : ctx.any env.isCancelled = false
  deadline : ∀ d ∈ ctx.bind (·.deadline), env.now + ms < d
  alarm : ∀ instant scope, env.alarm = some (instant, scope) → ∀ c ∈ ctx, scope ∉ c.scopes

/-- The environment after some time, in which the alarm has gone off if it was set for before. -/
def elapse (ms : Nat) (env : Env σ) : Env σ :=
  if ms = 0 then env
  else
    let stop := env.now + ms
    match env.alarm with
    | none => { env with now := stop }
    | some (instant, scope) =>
      if instant < stop then { env.cancelScope scope with alarm := none, now := stop }
      else { env with now := stop }

/-- Only the contexts in a scope are cancelled with it. -/
theorem isCancelled_cancelScope (env : Env σ) {scope : Nat} {ctx : Context}
    (h : scope ∉ ctx.scopes) : (env.cancelScope scope).isCancelled ctx = env.isCancelled ctx := by
  rw [Bool.eq_iff_iff, isCancelled, isCancelled, List.any_eq_true, List.any_eq_true]
  refine exists_congr fun x => and_congr_right fun hx => ?_
  have hne : x ≠ scope := fun heq => h (heq ▸ hx)
  simp [cancelScope, hne]

/-- What a wait that nothing cancels comes to. -/
def waitResult (ctx : Option Context) (stop : Nat) : Except Interruption Unit :=
  if (ctx.bind (·.deadline)).any (· ≤ stop) then .error .deadlineExceeded else .ok ()

/-- It ends at its end, or at the deadline if that does not come later. -/
theorem finish_eq (ctx : Option Context) (stop : Nat) (env : Env σ) :
    env.finish ctx stop = (waitResult ctx stop, { env with now := waitEnd ctx stop }) := by
  unfold finish waitEnd waitResult
  cases ctx.bind (·.deadline) with
  | none => rfl
  | some d =>
    by_cases hd : d ≤ stop
    · simp [hd]
    · simp [hd, Nat.min_eq_right (Nat.le_of_not_le hd)]

/-- With a deadline that comes later, it ends at its end. -/
theorem wait_before_deadline {ctx : Option Context} {stop : Nat}
    (h : ∀ d ∈ ctx.bind (·.deadline), stop < d) :
    waitResult ctx stop = .ok () ∧ waitEnd ctx stop = stop := by
  unfold waitResult waitEnd
  cases hd : ctx.bind (·.deadline) with
  | none => exact ⟨rfl, rfl⟩
  | some d =>
    have hlt : stop < d := h d hd
    simp [Nat.not_le.mpr hlt, Nat.min_eq_right (Nat.le_of_lt hlt)]

end Env

/-- **A wait in a context that is not over and that nothing cancels** lets the time go by up to its
end, or up to the deadline. -/
theorem wait_of_live {ctx : Option Context} {env : Env σ} (hlive : ctx.any env.isDone = false)
    (halarm : ∀ instant scope, env.alarm = some (instant, scope) → ∀ c ∈ ctx, scope ∉ c.scopes)
    (ms : Nat) :
    wait ctx ms env = (Env.waitResult ctx (env.now + ms),
      env.elapse (Env.waitEnd ctx (env.now + ms) - env.now)) := by
  rw [Env.any_isDone, Bool.or_eq_false_iff] at hlive
  obtain ⟨hcancelled, hexpired⟩ := hlive
  have hlater : ∀ d ∈ ctx.bind (·.deadline), env.now < d := by
    rintro d hd
    obtain ⟨c, rfl, hc⟩ := Option.bind_eq_some_iff.mp hd
    simpa [Env.isExpired, hc] using hexpired
  unfold wait
  rw [hcancelled, hexpired, if_neg Bool.false_ne_true, if_neg Bool.false_ne_true]
  by_cases hms : ms = 0
  · obtain ⟨hresult, hend⟩ := Env.wait_before_deadline hlater
    rw [if_pos (beq_iff_eq.mpr hms), hms, Nat.add_zero, hresult, hend, Nat.sub_self]
    rfl
  · have hend : env.now < Env.waitEnd ctx (env.now + ms) := by
      unfold Env.waitEnd
      split
      · rename_i d hd
        have hlt := hlater d hd
        omega
      · omega
    have hstop : env.now + (Env.waitEnd ctx (env.now + ms) - env.now)
        = Env.waitEnd ctx (env.now + ms) := by omega
    rw [if_neg fun hz => hms (beq_iff_eq.mp hz), Env.elapse,
      if_neg (Nat.sub_ne_zero_of_lt hend), hstop]
    dsimp only
    rw [env.finish_eq]
    rcases hset : env.alarm with _ | ⟨instant, scope⟩
    · rfl
    · dsimp only
      by_cases hi : instant < Env.waitEnd ctx (env.now + ms)
      · -- the alarm goes off, and it is not about the context
        let env₁ : Env σ := { env.cancelScope scope with alarm := none }
        have hsame : ctx.any env₁.isCancelled = false := by
          cases ctx with
          | none => rfl
          | some c =>
            have hscope := env.isCancelled_cancelScope (halarm instant scope hset c rfl)
            exact hscope.trans hcancelled
        rw [if_pos hi, if_pos hi, if_neg (by rw [hsame]; exact Bool.false_ne_true)]
        exact env₁.finish_eq ctx _
      · rw [if_neg hi, if_neg hi]

/-- **A wait that nothing interrupts** lets the time go by, in whatever context it is. -/
theorem wait_eq_elapse {ctx : Option Context} {ms : Nat} {env : Env σ} (h : env.Spares ctx ms) :
    wait ctx ms env = (.ok (), env.elapse ms) := by
  have hexpired : ctx.any env.isExpired = false := by
    cases ctx with
    | none => rfl
    | some c =>
      cases hd : c.deadline with
      | none => simp [Env.isExpired, hd]
      | some d =>
        have hlt := h.deadline d (by simp [hd])
        simp only [Option.any_some, Env.isExpired, hd, decide_eq_false_iff_not]
        omega
  have hlive : ctx.any env.isDone = false := by
    rw [Env.any_isDone, h.live, hexpired]
    rfl
  obtain ⟨hresult, hend⟩ := Env.wait_before_deadline h.deadline
  rw [wait_of_live hlive h.alarm, hresult, hend, Nat.add_sub_cancel_left]

/-! ## What a wait leaves alone -/

/-- What a wait looks at: the time, the cancelled scopes and the alarm. -/
def Env.clock (env : Env σ) : Env Unit :=
  { now := env.now, cancelled := env.cancelled, alarm := env.alarm, node := () }

/-- The environment when all of this has changed. -/
def Env.setClock (env : Env σ) (clock : Env Unit) : Env σ :=
  { env with now := clock.now, cancelled := clock.cancelled, alarm := clock.alarm }

/-- A wait that nothing cancels looks at nothing else. -/
theorem Env.finish_eq_setClock (ctx : Option Context) (stop : Nat) (env : Env σ) :
    env.finish ctx stop
      = ((env.clock.finish ctx stop).1, env.setClock (env.clock.finish ctx stop).2) := by
  unfold finish
  split
  · split <;> rfl
  · rfl

/-- **No wait looks at anything else, or changes it.** -/
theorem wait_eq_setClock (ctx : Option Context) (ms : Nat) (env : Env σ) :
    wait ctx ms env = ((wait ctx ms env.clock).1, env.setClock (wait ctx ms env.clock).2) := by
  have hcancelled : env.clock.isCancelled = env.isCancelled := rfl
  have hexpired : env.clock.isExpired = env.isExpired := rfl
  have halarm : env.clock.alarm = env.alarm := rfl
  have hnow : env.clock.now = env.now := rfl
  unfold wait
  rw [hcancelled, hexpired, halarm, hnow]
  split
  · rfl
  · split
    · rfl
    · split
      · rfl
      · dsimp only
        split
        · exact env.finish_eq_setClock ctx _
        · rename_i instant scope _
          split
          · -- the alarm comes first, and the wait goes on if it does not concern the context
            let env₁ : Env σ := { env.cancelScope scope with alarm := none }
            have hrung : ({ env.clock.cancelScope scope with alarm := none } : Env Unit).isCancelled
                = env₁.isCancelled := rfl
            rw [hrung]
            split
            · rfl
            · exact env₁.finish_eq_setClock ctx _
          · exact env.finish_eq_setClock ctx _

/-- **Waiting leaves the node alone.** -/
theorem node_wait (ctx : Option Context) (ms : Nat) (env : Env σ) :
    (wait ctx ms env).2.node = env.node := by
  rw [wait_eq_setClock]
  rfl

/-- The environment with a log beside the state of the node. -/
def Env.withLog (env : Env σ) (log : List X) : Env (Logged X σ) :=
  { env with node := ⟨log, env.node⟩ }

/-- **A wait ends beside a log as it does alone.** -/
theorem wait_withLog (ctx : Option Context) (ms : Nat) (env : Env σ) (log : List X) :
    wait ctx ms (env.withLog log) = ((wait ctx ms env).1, (wait ctx ms env).2.withLog log) := by
  rw [wait_eq_setClock, wait_eq_setClock ctx ms env]
  rfl

end EthClient
