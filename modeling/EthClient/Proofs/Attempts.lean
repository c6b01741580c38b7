import EthClient.Proofs.Waiting
import EthClient.Provider.Retry

/-! # The attempts of a call

A layer that retries is told by the attempts that it makes. `Handler.observed` keeps a record of
every use of the handler behind the layer, and `Retry.attempt` are the uses that there would be if
attempts were made one after the other without an end, each of them behind the pause after the one
before.

What follows an attempt is one of five things (`Retry.Round`, **`Retry.exists_round`**), and a call
goes from round to round until there is an outcome (**`Retry.exists_rounds`**). So the record has
the first of these attempts, and the outcome is read off the last of them:

* **`Retry.layer_repeats_until_settled`**: without a context, attempts are made until one of them
  settles the call or no further one is allowed;
* **`Retry.layer_stops_with_context`**: with a context, no attempt begins when the context is over,
  and the outcome tells whether the caller has cancelled it. -/

namespace EthClient

variable {σ α : Type} {s : Shape}

/-! ## Uses of a handler -/

/-- One use of a handler: what it was given, and what it made of an environment. -/
structure Use (σ : Type) (s : Shape) where
  input : s.Input
  before : Env σ
  outcome : Except ProviderError s.Output
  after : Env σ

/-- The use of a handler for an input in an environment. -/
def Use.make (next : Handler σ s) (input : s.Input) (env : Env σ) : Use σ s where
  input
  before := env
  outcome := ((next input).run env).1
  after := ((next input).run env).2

/-- The handler with a record of every use of it. -/
def Handler.observed (next : Handler σ s) : Handler (Logged (Use σ s) σ) s := fun input =>
  ExceptT.mk fun env =>
    let use := Use.make next input env.erase
    (use.outcome, use.after.withLog (env.log ++ [use]))

/-- **A record changes nothing else**: outcome and environment are those of the handler. -/
theorem Handler.erase_observed (next : Handler σ s) (input : s.Input)
    (env : Env (Logged (Use σ s) σ)) :
    ((Handler.observed next input).run env).1 = ((next input).run env.erase).1 ∧
      ((Handler.observed next input).run env).2.erase = ((next input).run env.erase).2 :=
  ⟨rfl, rfl⟩

/-! ## One round -/

/-- What becomes of a call when the pause after an attempt that failed was interrupted. -/
def Interruption.verdict (made : Nat) (e : ProviderError) : Interruption → ProviderError
  | .cancelled => .cancelled
  | .deadlineExceeded => .retriesExhausted made e

namespace Retry

/-- Whether the policy asks for another attempt. -/
def Repeats (r : Retry) : Except ProviderError α → Prop
  | .ok _ => False
  | .error e => r.policy e = true

/-- So it does after the errors that are worth it. -/
theorem repeats_iff {r : Retry} {outcome : Except ProviderError α} :
    r.Repeats outcome ↔ ∃ e, outcome = .error e ∧ r.policy e = true := by
  cases outcome with
  | ok a => exact ⟨False.elim, by rintro ⟨e, he, -⟩; cases he⟩
  | error e => exact ⟨fun hp => ⟨e, rfl, hp⟩, by rintro ⟨e', he, hp⟩; cases he; exact hp⟩

/-- The pause after the `made`-th attempt, which failed. -/
def pause (r : Retry) (ctx : Option Context) (made : Nat) (e : ProviderError) :
    Action σ (Except Interruption Unit) := do
  report (.retrying made r.interval e)
  wait ctx r.interval

section Run

variable {r : Retry} {ctx : Option Context} {act : Attempt σ α} {left made : Nat}
variable {env env' : Env σ} {e : ProviderError}

/-- A value is the outcome. -/
theorem run_of_ok {a : α} (h : act.run env = (.ok a, env')) :
    r.run ctx act left made env = (.ok a, env') := by
  unfold run
  rw [run_action_bind, h]
  rfl

/-- **What follows an error**: it is the outcome, or the call was cancelled, or the attempts or the
time are used up, or there is a pause and another attempt unless the pause is interrupted. -/
theorem run_of_error (h : act.run env = (.error e, env')) :
    r.run ctx act left made env
      = if !r.policy e then (.error e, env')
        else if ctx.any env'.isCancelled then
          (.error .cancelled, (report (.callerCancelled (made + 1) e) env').2)
        else if left = 0 ∨ ctx.any env'.isDone then
          (.error (.retriesExhausted (made + 1) e), (report (.givingUp (made + 1) e) env').2)
        else match r.pause ctx (made + 1) e env' with
          | (.ok (), env'') => r.run ctx act (left - 1) (made + 1) env''
          | (.error i, env'') => (.error (i.verdict (made + 1) e), env'') := by
  have hget : (get : Action σ (Env σ)) env' = (env', env') := rfl
  conv => lhs; unfold run
  rw [run_action_bind, h]
  dsimp only
  split
  · rfl
  · rw [run_action_bind, hget]
    split
    · rfl
    · cases left with
      | zero => rfl
      | succ left =>
        dsimp only
        rw [run_action_bind, hget]
        by_cases hd : ctx.any env'.isDone = true
        · rw [if_pos hd, if_pos (.inr hd)]
          rfl
        · rw [if_neg hd, if_neg (by simp [hd])]
          rcases hw : r.pause ctx (made + 1) e env' with ⟨waited, env''⟩
          have hwait : wait ctx r.interval (report (.retrying (made + 1) r.interval e) env').2
              = (waited, env'') := hw
          rw [run_action_bind, run_action_bind, hwait]
          match waited with
          | .ok () => rfl
          | .error .cancelled => rfl
          | .error .deadlineExceeded => rfl

/-- So an outcome that is not repeated is the one of the call. -/
theorem run_of_not_repeats {outcome : Except ProviderError α} (h : act.run env = (outcome, env'))
    (hs : ¬ r.Repeats outcome) : r.run ctx act left made env = (outcome, env') := by
  cases outcome with
  | ok a => exact run_of_ok h
  | error e =>
    have hp : ¬ r.policy e = true := hs
    rw [run_of_error h, if_pos (by simpa using hp)]

end Run

/-- What follows an attempt after which `left` further ones are allowed and before which `made` were
made: an outcome, or else another attempt in the environment that is left. -/
inductive Round (r : Retry) (ctx : Option Context) (left made : Nat) (u : Use σ s) :
    Option (Except ProviderError s.Output) → Env σ → Prop where
  | settled (hs : ¬ r.Repeats u.outcome) : Round r ctx left made u (some u.outcome) u.after
  | cancelled {e : ProviderError} (he : u.outcome = .error e) (hp : r.policy e = true)
    (hc : ctx.any u.after.isCancelled = true) :
    Round r ctx left made u (some (.error .cancelled))
      (report (.callerCancelled (made + 1) e) u.after).2
  | exhausted {e : ProviderError} (he : u.outcome = .error e) (hp : r.policy e = true)
    (hc : ctx.any u.after.isCancelled = false)
    (hd : left = 0 ∨ ctx.any u.after.isDone = true) :
    Round r ctx left made u (some (.error (.retriesExhausted (made + 1) e)))
      (report (.givingUp (made + 1) e) u.after).2
  | interrupted {e : ProviderError} {i : Interruption} {env' : Env σ}
    (he : u.outcome = .error e) (hp : r.policy e = true) (hleft : left ≠ 0)
    (hd : ctx.any u.after.isDone = false)
    (hw : r.pause ctx (made + 1) e u.after = (.error i, env')) :
    Round r ctx left made u (some (.error (i.verdict (made + 1) e))) env'
  | resumed {e : ProviderError} {env' : Env σ} (he : u.outcome = .error e)
    (hp : r.policy e = true) (hleft : left ≠ 0) (hd : ctx.any u.after.isDone = false)
    (hw : r.pause ctx (made + 1) e u.after = (.ok (), env')) : Round r ctx left made u none env'

variable (r : Retry) (ctx : Option Context) (next : Handler σ s) (input : s.Input)

/-- The pause goes on beside a log as it does alone. -/
theorem pause_withLog {X : Type} (made : Nat) (e : ProviderError) (env : Env σ) (log : List X) :
    r.pause ctx made e (env.withLog log)
      = ((r.pause ctx made e env).1, (r.pause ctx made e env).2.withLog log) :=
  wait_withLog ctx r.interval (report (.retrying made r.interval e) env).2 log

/-- **One round** of attempts: one attempt is made and recorded, and what follows it is one of these
things. -/
theorem exists_round (left made : Nat) (env : Env σ) (log : List (Use σ s)) :
    ∃ verdict env', r.Round ctx left made (.make next input env) verdict env' ∧
      r.run ctx (Handler.observed next input) left made (env.withLog log)
        = match verdict with
          | some outcome => (outcome, env'.withLog (log ++ [.make next input env]))
          | none => r.run ctx (Handler.observed next input) (left - 1) (made + 1)
              (env'.withLog (log ++ [.make next input env])) := by
  let u := Use.make next input env
  have hrun : (Handler.observed next input).run (env.withLog log)
      = (u.outcome, u.after.withLog (log ++ [u])) := rfl
  by_cases hs : r.Repeats u.outcome
  · -- the cases are those of the code: nothing that it looks at is changed by the log
    obtain ⟨e, ho, hp⟩ := repeats_iff.mp hs
    rw [ho] at hrun
    rw [run_of_error hrun, if_neg (by rw [hp]; decide)]
    by_cases hc : ctx.any u.after.isCancelled = true
    · exact ⟨_, _, .cancelled ho hp hc, if_pos hc⟩
    · have hcancelled : ¬ ctx.any (u.after.withLog (log ++ [u])).isCancelled = true := hc
      rw [if_neg hcancelled]
      rw [Bool.not_eq_true] at hc
      by_cases hd : left = 0 ∨ ctx.any u.after.isDone = true
      · exact ⟨_, _, .exhausted ho hp hc hd, if_pos hd⟩
      · have hdone : ¬ (left = 0 ∨ ctx.any (u.after.withLog (log ++ [u])).isDone = true) := hd
        rw [if_neg hdone, pause_withLog]
        obtain ⟨hleft, hd⟩ := not_or.mp hd
        rw [Bool.not_eq_true] at hd
        rcases hw : r.pause ctx (made + 1) e u.after with ⟨waited, env'⟩
        cases waited with
        | ok => exact ⟨_, _, .resumed ho hp hleft hd hw, rfl⟩
        | error i => exact ⟨_, _, .interrupted ho hp hleft hd hw, rfl⟩
  · exact ⟨_, _, .settled hs, run_of_not_repeats hrun hs⟩

/-! ## All rounds -/

/-- Where another attempt after one that failed begins: behind the pause. -/
def resumption (made : Nat) (u : Use σ s) : Env σ :=
  match u.outcome with
  | .ok _ => u.after
  | .error e => (r.pause ctx made e u.after).2

/-- The attempts that would be made one after the other, each of them behind the pause after the one
before; `made` were made before the first of them. -/
def attempt (made : Nat) (env : Env σ) : Nat → Use σ s
  | 0 => .make next input env
  | i + 1 => .make next input (r.resumption ctx (made + i + 1) (attempt made env i))

/-- The attempts after the first one are those that begin behind the pause after it. -/
theorem attempt_succ (made : Nat) (env : Env σ) (i : Nat) :
    r.attempt ctx next input made env (i + 1)
      = r.attempt ctx next input (made + 1)
          (r.resumption ctx (made + 1) (.make next input env)) i := by
  induction i with
  | zero => rfl
  | succ i ih =>
    rw [attempt, ih, attempt]
    congr 2
    omega

variable {r ctx next input}

/-- Another attempt begins behind the pause. -/
theorem Round.resumption_eq {left made : Nat} {u : Use σ s} {env' : Env σ}
    (h : r.Round ctx left made u none env') : env' = r.resumption ctx (made + 1) u := by
  cases h with
  | resumed he _ _ _ hw =>
    rw [resumption, he]
    exact (congrArg Prod.snd hw).symm

variable (r ctx next input)

/-- **All rounds**: attempts are made and recorded as long as a round asks for another one, and the
outcome is the one of the first round that does not. -/
theorem exists_rounds (left made : Nat) (env : Env σ) (log : List (Use σ s)) :
    ∃ k outcome env', k ≤ left ∧
      (∀ i < k, r.Round ctx (left - i) (made + i) (r.attempt ctx next input made env i) none
        (r.attempt ctx next input made env (i + 1)).before) ∧
      r.Round ctx (left - k) (made + k) (r.attempt ctx next input made env k) (some outcome) env' ∧
      r.run ctx (Handler.observed next input) left made (env.withLog log)
        = (outcome, env'.withLog
            (log ++ (List.range (k + 1)).map (r.attempt ctx next input made env))) := by
  -- the attempts that are left decrease, and those that were made are only counted
  induction left generalizing made env log with
  | zero =>
    obtain ⟨verdict, env', hround, hrun⟩ := r.exists_round ctx next input 0 made env log
    cases verdict with
    | some outcome => exact ⟨0, outcome, env', Nat.le_refl 0, nofun, hround, hrun⟩
    | none =>
      cases hround with
      | resumed _ _ hleft => exact absurd rfl hleft
  | succ left ih =>
    obtain ⟨verdict, env', hround, hrun⟩ := r.exists_round ctx next input (left + 1) made env log
    cases verdict with
    | some outcome => exact ⟨0, outcome, env', Nat.zero_le _, nofun, hround, hrun⟩
    | none =>
      -- the attempts of the rounds that are left are the further ones of these
      obtain rfl := hround.resumption_eq
      obtain ⟨k, outcome, env'', hk, hrounds, hlast, hrest⟩ :=
        ih (made + 1) (r.resumption ctx (made + 1) (.make next input env))
          (log ++ [.make next input env])
      have hshift : r.attempt ctx next input (made + 1)
          (r.resumption ctx (made + 1) (.make next input env))
            = r.attempt ctx next input made env ∘ Nat.succ :=
        funext fun i => (r.attempt_succ ctx next input made env i).symm
      rw [hshift] at hrounds hlast hrest
      refine ⟨k + 1, outcome, env'', by omega, fun i hi => ?_, ?_, ?_⟩
      · cases i with
        | zero => exact hround
        | succ i =>
          have hi := hrounds i (by omega)
          rw [show left + 1 - (i + 1) = left - i by omega,
            show made + (i + 1) = made + 1 + i by omega]
          exact hi
      · rw [show left + 1 - (k + 1) = left - k by omega,
          show made + (k + 1) = made + 1 + k by omega]
        exact hlast
      · rw [hrun]
        dsimp only
        rw [Nat.add_sub_cancel, hrest, @List.range_succ_eq_map (k + 1), List.map_cons,
          List.map_map, List.append_assoc]
        rfl

variable {ctx input}

/-- **The rounds of a call**: the record has the attempts up to the first one after which there is
an outcome. -/
theorem exists_rounds_layer (hctx : s.context? input = ctx) (env : Env (Logged (Use σ s) σ)) :
    let u := r.attempt ctx next input 0 env.erase
    ∃ k < r.maxAttempts, ∃ outcome env',
      (∀ i < k, r.Round ctx (r.maxAttempts - 1 - i) i (u i) none (u (i + 1)).before) ∧
      r.Round ctx (r.maxAttempts - 1 - k) k (u k) (some outcome) env' ∧
      (r.layer s (Handler.observed next) input).run env
        = (outcome, env'.withLog (env.log ++ (List.range (k + 1)).map u)) := by
  intro u
  have hpos := r.one_le
  obtain ⟨k, outcome, env', hk, hrounds, hlast, hrun⟩ := r.exists_rounds ctx next input
    (r.maxAttempts - 1) 0 env.erase env.log
  simp only [Nat.zero_add] at hrounds hlast
  refine ⟨k, by omega, outcome, env', hrounds, hlast, ?_⟩
  rw [layer, hctx]
  exact hrun

variable {r next}

/-- Every attempt is a use of the handler for the input of the caller. -/
theorem attempt_eq_make (made : Nat) (env : Env σ) (i : Nat) :
    r.attempt ctx next input made env i
      = .make next input (r.attempt ctx next input made env i).before := by
  cases i <;> rfl

/-- The attempt after one that failed begins behind the pause. -/
theorem before_attempt_succ {made : Nat} {env : Env σ} {i : Nat} {e : ProviderError}
    (h : (r.attempt ctx next input made env i).outcome = .error e) :
    (r.attempt ctx next input made env (i + 1)).before
      = (r.pause ctx (made + i + 1) e (r.attempt ctx next input made env i).after).2 := by
  change r.resumption ctx (made + i + 1) _ = _
  rw [resumption, h]

/-- Another attempt follows one that the policy repeats. -/
theorem Round.repeats {left made : Nat} {u : Use σ s} {env' : Env σ}
    (h : r.Round ctx left made u none env') : r.Repeats u.outcome := by
  cases h with
  | resumed he hp =>
    rw [he]
    exact hp

/-! ## Calls without a context -/

/-- **Without a context** attempts are made until one of them is not repeated, whose outcome it is
then, or until no further one is allowed. -/
theorem exists_attempts_plain (next : Handler σ s) {input : s.Input}
    (hctx : s.context? input = none) (env : Env (Logged (Use σ s) σ)) :
    let u := r.attempt none next input 0 env.erase
    ∃ k < r.maxAttempts, (∀ i < k, r.Repeats (u i).outcome) ∧
      ∃ outcome env', (r.layer s (Handler.observed next) input).run env
          = (outcome, env'.withLog (env.log ++ (List.range (k + 1)).map u)) ∧
        (¬ r.Repeats (u k).outcome ∧ outcome = (u k).outcome ∧ env' = (u k).after ∨
          k + 1 = r.maxAttempts ∧ ∃ e, (u k).outcome = .error e ∧ r.policy e = true ∧
            outcome = .error (.retriesExhausted (k + 1) e) ∧
            env' = (report (.givingUp (k + 1) e) (u k).after).2) := by
  intro u
  obtain ⟨k, hk, outcome, env', hrounds, hlast, hrun⟩ := r.exists_rounds_layer next hctx env
  refine ⟨k, hk, fun i hi => (hrounds i hi).repeats, outcome, env', hrun, ?_⟩
  cases hlast with
  | settled hs => exact .inl ⟨hs, rfl, rfl⟩
  | cancelled _ _ hc => cases hc
  | @exhausted e he hp _ hd =>
    have hleft : r.maxAttempts - 1 - k = 0 := hd.resolve_right nofun
    exact .inr ⟨by omega, e, he, hp, rfl, rfl⟩
  | @interrupted e i _ _ _ _ _ hw =>
    -- nothing interrupts the pause
    have hnone := wait_none r.interval (report (.retrying (k + 1) r.interval e) (u k).after).2
    cases hnone.symm.trans (congrArg Prod.fst hw)

/-- **A call without a context is made until an attempt settles it.** Whatever is behind the layer,
let `u` be the attempts that would be made one after the other. They are given what the caller gave,
the first one begins at once, and after one that failed the next one begins behind one pause, at the
end of the interval. Of them the layer makes:

* those up to the first one that succeeds or fails with an error that the policy refuses, if the
  attempts that are allowed reach it, and it hands the outcome of this one on;
* otherwise all that are allowed, at least one, and the outcome carries their number and the last
  error.

Nothing comes after the last attempt, so there is one pause less than attempts. -/
theorem layer_repeats_until_settled (n interval : Nat) (policy : ProviderError → Bool)
    (next : Handler σ s) {input : s.Input} (hctx : s.context? input = none)
    (env : Env (Logged (Use σ s) σ)) :
    let r := ofAttempts n interval policy
    let u := r.attempt none next input 0 env.erase
    (u 0).before = env.erase ∧ (∀ i, u i = .make next input (u i).before) ∧
      (∀ i e, (u i).outcome = .error e →
        (u (i + 1)).before = (r.pause none (i + 1) e (u i).after).2 ∧
        (u (i + 1)).before.now = (u i).after.now + interval) ∧
      (∀ k < max n 1, (∀ i < k, r.Repeats (u i).outcome) → ¬ r.Repeats (u k).outcome →
        (r.layer s (Handler.observed next) input).run env
          = ((u k).outcome,
            (u k).after.withLog (env.log ++ (List.range (k + 1)).map u))) ∧
      ((∀ i < max n 1, r.Repeats (u i).outcome) →
        ∃ e, (u (max n 1 - 1)).outcome = .error e ∧
          (r.layer s (Handler.observed next) input).run env
            = (.error (.retriesExhausted (max n 1) e),
              (report (.givingUp (max n 1) e) (u (max n 1 - 1)).after).2.withLog
                (env.log ++ (List.range (max n 1)).map u))) := by
  intro r u
  have hmax : r.maxAttempts = max n 1 := rfl
  obtain ⟨k, hk, hrepeats, outcome, env', hrun, hend⟩ := r.exists_attempts_plain next hctx env
  rw [hmax] at hk hend
  refine ⟨rfl, fun i => attempt_eq_make 0 env.erase i, fun i e he => ?_, fun j hj hbefore hs => ?_,
    fun hall => ?_⟩
  · have hbefore := before_attempt_succ he
    rw [Nat.zero_add] at hbefore
    refine ⟨hbefore, ?_⟩
    rw [hbefore]
    exact (wait_eq_ok (Prod.ext (wait_none interval _) rfl)).1
  · -- the last attempt is the first one that is not repeated
    obtain rfl : k = j := by
      rcases Nat.lt_trichotomy k j with hlt | heq | hgt
      · rcases hend with ⟨hsettled, -⟩ | ⟨hlast, -⟩
        · exact absurd (hbefore k hlt) hsettled
        · omega
      · exact heq
      · exact absurd (hrepeats j hgt) hs
    rcases hend with ⟨-, rfl, rfl⟩ | ⟨-, e, he, hp, -⟩
    · exact hrun
    · refine absurd ?_ hs
      rw [he]
      exact hp
  · rcases hend with ⟨hsettled, -⟩ | ⟨hlast, e, he, -, rfl, rfl⟩
    · exact absurd (hall k hk) hsettled
    · rw [← hlast, Nat.add_sub_cancel]
      exact ⟨e, he, hrun⟩

/-- A node that fails once is asked twice, the second time when the interval is over; a node that
fails always is asked once if no number of attempts is given. -/
theorem layer_repeats_until_settled_flaky :
    let flaky := Provider.ofAnswers fun asked _ =>
      if asked = 0 then .error (.transport "closed") else .ok .null
    let dead := Provider.ofAnswers fun _ _ => .error (.transport "closed")
    let asked : Call := ⟨"eth_chainId", []⟩
    (∃ env', ((ofAttempts 3 5 ProviderError.isRetryable).layer .call
        (Handler.observed (flaky.handle .call)) asked).run { node := ⟨[], 0⟩ } = (.ok .null, env') ∧
      env'.log.length = 2 ∧ env'.now = 5) ∧
    (∃ env', ((ofAttempts 0 5 ProviderError.isRetryable).layer .call
        (Handler.observed (dead.handle .call)) asked).run { node := ⟨[], 0⟩ }
          = (.error (.retriesExhausted 1 (.transport "closed")), env') ∧
      env'.log.length = 1 ∧ env'.now = 0) := by
  intro flaky dead asked
  constructor
  · obtain ⟨-, -, -, hfirst, -⟩ := layer_repeats_until_settled 3 5 ProviderError.isRetryable
      (flaky.handle .call) (show Shape.call.context? asked = none from rfl) { node := ⟨[], 0⟩ }
    have hbefore : ∀ i < 1, (ofAttempts 3 5 ProviderError.isRetryable).Repeats
        ((ofAttempts 3 5 ProviderError.isRetryable).attempt none (flaky.handle .call) asked 0
          { node := 0 } i).outcome := by
      intro i hi
      obtain rfl : i = 0 := by omega
      rfl
    exact ⟨_, hfirst 1 (by decide) hbefore id, rfl, rfl⟩
  · obtain ⟨-, -, -, -, hall⟩ := layer_repeats_until_settled 0 5 ProviderError.isRetryable
      (dead.handle .call) (show Shape.call.context? asked = none from rfl) { node := ⟨[], 0⟩ }
    obtain ⟨e, he, hrun⟩ := hall fun i hi => by
      obtain rfl : i = 0 := by omega
      rfl
    cases he
    exact ⟨_, hrun, rfl, rfl⟩

/-! ## Calls with a context -/

/-- The caller has cancelled the context when the error of the `made`-th attempt was seen, or in the
pause behind this attempt, if there is one. -/
def CancelledAfter (r : Retry) (ctx : Context) (made : Nat) (e : ProviderError) (u : Use σ s) :
    Prop :=
  u.after.isCancelled ctx = true ∨
    made < r.maxAttempts ∧ u.after.isDone ctx = false ∧
      (r.pause (some ctx) made e u.after).1 = .error .cancelled

/-- An outcome that is not repeated is the one of the call. -/
theorem Round.eq_of_not_repeats {left made : Nat} {u : Use σ s}
    {outcome : Except ProviderError s.Output} {env' : Env σ}
    (h : r.Round ctx left made u (some outcome) env') (hs : ¬ r.Repeats u.outcome) :
    outcome = u.outcome := by
  cases h with
  | settled => rfl
  | cancelled he hp | exhausted he hp | interrupted he hp =>
    rw [he] at hs
    exact absurd hp hs

/-- **What becomes of a call when its last attempt could have been repeated**: it is cancelled with
its context, and otherwise its attempts or its time are used up. -/
theorem Round.cancelled_or_exhausted {ctx : Context} {left made : Nat} {u : Use σ s}
    {outcome : Except ProviderError s.Output} {env' : Env σ}
    (h : r.Round (some ctx) left made u (some outcome) env')
    (hleft : made + left + 1 = r.maxAttempts) {e : ProviderError} (he : u.outcome = .error e)
    (hp : r.policy e = true) :
    r.CancelledAfter ctx (made + 1) e u ∧ env'.isCancelled ctx = true ∧
        outcome = .error .cancelled ∨
      ¬ r.CancelledAfter ctx (made + 1) e u ∧ env'.isCancelled ctx = false ∧
        outcome = .error (.retriesExhausted (made + 1) e) ∧
        (made + 1 = r.maxAttempts ∨ u.after.isExpired ctx = true ∨
          (r.pause (some ctx) (made + 1) e u.after).1 = .error .deadlineExceeded) := by
  cases h with
  | settled hs =>
    rw [he] at hs
    exact absurd hp hs
  | cancelled _ _ hc => exact .inl ⟨.inl hc, hc, rfl⟩
  | exhausted he' _ hc hd =>
    obtain rfl := Except.error.inj (he'.symm.trans he)
    have hc : u.after.isCancelled ctx = false := hc
    refine .inr ⟨?_, hc, rfl, ?_⟩
    · rintro (h | ⟨hmade, hdone, -⟩)
      · rw [hc] at h
        cases h
      · -- there was no pause
        rcases hd with rfl | hd
        · omega
        · cases hdone.symm.trans hd
    · rcases hd with rfl | hd
      · exact .inl hleft
      · have hd : (u.after.isCancelled ctx || u.after.isExpired ctx) = true := hd
        rw [hc, Bool.false_or] at hd
        exact .inr (.inl hd)
  | @interrupted _ i _ he' _ hne hd hw =>
    obtain rfl := Except.error.inj (he'.symm.trans he)
    have hcancelled := wait_eq_error hw
    cases i with
    | cancelled => exact .inl ⟨.inr ⟨by omega, hd, by rw [hw]⟩, hcancelled.mpr rfl, rfl⟩
    | deadlineExceeded =>
      have hkept : env'.isCancelled ctx = false := by
        simpa using hcancelled
      refine .inr ⟨?_, hkept, rfl, .inr (.inr (by rw [hw]))⟩
      rintro (h | ⟨-, -, h⟩)
      · have hc : (u.after.isCancelled ctx || u.after.isExpired ctx) = false := hd
        rw [h] at hc
        cases hc
      · rw [hw] at h
        cases h

/-- **A call with a context is repeated while the context lasts.** Whatever is behind the layer, let
`u` be the attempts that would be made one after the other. They are given what the caller gave, and
the first one begins at once. The layer makes some of them, as many as are allowed at most:

* every further attempt begins at the end of the interval, when the context is neither cancelled nor
  past its deadline;
* a value of the last attempt, or an error of it that the policy refuses, is the outcome;
* if the policy would repeat the last error and the caller has cancelled the context by the end, the
  outcome is that the call was cancelled;
* if the policy would repeat it and the caller has not, no further attempt is allowed or the
  deadline has come or comes in the pause, and the outcome carries the number of attempts and the
  error of the last one. -/
theorem layer_stops_with_context (n interval : Nat) (policy : ProviderError → Bool)
    (next : Handler σ s) {input : s.Input} {ctx : Context} (hctx : s.context? input = some ctx)
    (env : Env (Logged (Use σ s) σ)) :
    let r := ofAttempts n interval policy
    let u := r.attempt (some ctx) next input 0 env.erase
    (u 0).before = env.erase ∧ (∀ i, u i = .make next input (u i).before) ∧
      ∃ k < max n 1, ∃ outcome env',
        (r.layer s (Handler.observed next) input).run env = (outcome, env') ∧
        env'.log = env.log ++ (List.range (k + 1)).map u ∧
        (∀ i < k, r.Repeats (u i).outcome ∧ (u (i + 1)).before.isDone ctx = false ∧
          (u (i + 1)).before.now = (u i).after.now + interval) ∧
        (¬ r.Repeats (u k).outcome → outcome = (u k).outcome) ∧
        (∀ e, (u k).outcome = .error e → policy e = true →
          r.CancelledAfter ctx (k + 1) e (u k) ∧ env'.isCancelled ctx = true ∧
              outcome = .error .cancelled ∨
            ¬ r.CancelledAfter ctx (k + 1) e (u k) ∧ env'.isCancelled ctx = false ∧
              outcome = .error (.retriesExhausted (k + 1) e) ∧
              (k + 1 = max n 1 ∨ (u k).after.isExpired ctx = true ∨
                (r.pause (some ctx) (k + 1) e (u k).after).1 = .error .deadlineExceeded)) := by
  intro r u
  have hmax : r.maxAttempts = max n 1 := rfl
  refine ⟨rfl, fun i => attempt_eq_make 0 env.erase i, ?_⟩
  obtain ⟨k, hk, outcome, env', hrounds, hlast, hrun⟩ := r.exists_rounds_layer next hctx env
  refine ⟨k, hk, outcome, _, hrun, rfl, fun i hi => ?_, hlast.eq_of_not_repeats,
    fun e he hp => hlast.cancelled_or_exhausted (by omega) he hp⟩
  have hround := hrounds i hi
  refine ⟨hround.repeats, ?_⟩
  cases hround with
  | resumed _ _ _ _ hw =>
    -- a pause that is not interrupted ends with the context still open
    obtain ⟨hnow, hdone⟩ := wait_eq_ok hw
    exact ⟨hdone, hnow⟩

/-- A node that fails always is asked at the beginning and after the interval, and the deadline ends
the pause after that. -/
theorem layer_stops_with_context_deadline :
    let dead := Provider.ofAnswers fun _ _ => .error (.transport "closed")
    let ctx : Context := ⟨[], some 7⟩
    let asked : Call := ⟨"eth_chainId", []⟩
    ∃ env', ((ofAttempts 3 5 ProviderError.isRetryable).layer .callContext
        (Handler.observed (dead.handle .callContext)) (ctx, asked)).run { node := ⟨[], 0⟩ }
          = (.error (.retriesExhausted 2 (.transport "closed")), env') ∧
      env'.log.map (·.before.now) = [0, 5] ∧ env'.isCancelled ctx = false := by
  intro dead ctx asked
  obtain ⟨-, -, k, -, outcome, env', hrun, hlog, -, -, hend⟩ :=
    layer_stops_with_context 3 5 ProviderError.isRetryable (dead.handle .callContext)
      (show Shape.callContext.context? (ctx, asked) = some ctx from rfl) { node := ⟨[], 0⟩ }
  have hruns : (((ofAttempts 3 5 ProviderError.isRetryable).layer .callContext
      (Handler.observed (dead.handle .callContext)) (ctx, asked)).run
        { node := ⟨[], 0⟩ }).2.log.map (·.before.now) = [0, 5] := by decide +kernel
  have hnow : env'.log.map (·.before.now) = [0, 5] := by
    rw [hrun] at hruns
    exact hruns
  -- the second attempt is the last one
  obtain rfl : k = 1 := by
    have hcount : (env'.log.map (·.before.now)).length = 2 := congrArg List.length hnow
    rw [hlog, List.length_map, List.length_append, List.length_map, List.length_range] at hcount
    have hnone : (Env.log { node := ⟨[], 0⟩ } : List (Use Nat .callContext)).length = 0 := rfl
    omega
  rcases hend (.transport "closed") rfl rfl with ⟨-, hcancelled, -⟩ | ⟨-, hkept, rfl, -⟩
  · -- nothing is ever cancelled
    have hnone : env'.isCancelled ctx = false := rfl
    cases hnone.symm.trans hcancelled
  · exact ⟨env', hrun, hnow, hkept⟩

end Retry

end EthClient
