import EthClient.Proofs.Nonces

/-! # Signing in place

A call or a batch that is signed in place comes back also after an error. What it is then is told by
what was finished before the error:

* a call is changed when its payload is there, so after an error it is what it was
  (**`SigningLayer.run_signInPlace`**);
* a batch is changed element by element, so after an error it is signed up to the element that
  failed and untouched from there on (**`SigningLayer.exists_halt`**).

A batch that was left in this state can be handed in again: the elements that were signed do not
send a transaction any more, so signing passes over them and goes on where it had stopped
(**`SigningLayer.signBatch_append`**). But it is not the batch that was handed in first
(**`SigningLayer.signBatch_leaves_signed`**).

* **`SigningLayer.inPlace_stops_at_failure`** is about both, calls and batches. -/

namespace EthClient

variable {σ : Type}

/-- An action before a computation that changes something changes nothing but the environment. -/
theorem run_lift_bind {ρ ε α β : Type} {act : Action σ α} {a : α} {env env' : Env σ}
    (h : act env = (a, env')) (f : α → ExceptT ε (StateT ρ (StateM (Env σ))) β) (c : ρ) :
    ((liftM act : ExceptT ε (StateT ρ (StateM (Env σ))) α) >>= f).run.run c env
      = (f a).run.run c env' := by
  have hrun : ((liftM act : ExceptT ε (StateT ρ (StateM (Env σ))) α) >>= f).run.run c env
      = (f (act env).1).run.run c (act env).2 := rfl
  rw [hrun, h]

namespace SigningLayer

variable {l : SigningLayer σ} {ctx : Option Context}

/-! ## One call -/

/-- **A call in place** becomes the signed call, and stays what it was if it cannot be signed. -/
theorem run_signInPlace (l : SigningLayer σ) (ctx : Option Context) (c : Call) (env : Env σ) :
    (l.signInPlace ctx).run.run c env
      = match (l.signCall ctx c).run env with
        | (.ok signed, env') => ((.ok (), signed), env')
        | (.error e, env') => ((.error e, c), env') := by
  rw [signInPlace, signCall, run_get_bind]
  by_cases hm : (c.method == sendTransaction) = true
  · rw [if_pos hm, if_pos hm]
    rcases hparams : (l.signParams ctx c.params).run env with ⟨r, env'⟩
    rw [run_lift_bind hparams]
    -- the call is changed only when its new parameters are there
    cases r with
    | error e =>
      rw [run_bind_of_error hparams]
      rfl
    | ok params =>
      rw [run_bind_of_ok hparams]
      rfl
  · rw [if_neg hm, if_neg hm]
    rfl

/-- The payload is one that signing comes to for these parameters. -/
def Produces (l : SigningLayer σ) (ctx : Option Context) (params : List Param) (raw : Bytes) :
    Prop :=
  ∃ env env', (l.signParams ctx params).run env = (.ok [.string (Hex.marked raw)], env')

/-- What is signed is always sent as one payload. -/
theorem exists_produces {params params' : List Param} {env env' : Env σ}
    (h : (l.signParams ctx params).run env = (.ok params', env')) :
    ∃ raw, l.Produces ctx params raw ∧ params' = [.string (Hex.marked raw)] := by
  have hpayload : ∃ raw, params' = [.string (Hex.marked raw)] := by
    unfold signParams at h
    cases harg : argument params with
    | error e =>
      rw [harg] at h
      cases h
    | ok args =>
      rw [harg] at h
      dsimp only at h
      rcases hraw : (l.signTransaction ctx args).run env with ⟨r, env₁⟩
      cases r with
      | error e =>
        rw [run_bind_of_error hraw] at h
        cases h
      | ok raw =>
        rw [run_bind_of_ok hraw] at h
        cases h
        exact ⟨raw, rfl⟩
  obtain ⟨raw, rfl⟩ := hpayload
  exact ⟨raw, ⟨env, env', h⟩, rfl⟩

/-! ## Batches -/

/-- An element that sends no transaction is passed over. -/
theorem run_signBatch_of_ne {e : BatchElem} (h : e.method ≠ sendTransaction)
    {rest left : List BatchElem} {r : Except SigningError Unit} {env env' : Env σ}
    (hrest : l.signBatch ctx rest env = ((r, left), env')) :
    l.signBatch ctx (e :: rest) env = ((r, e :: left), env') := by
  rw [signBatch, if_neg fun hm => h (beq_iff_eq.mp hm), run_action_bind, hrest]
  rfl

/-- An element that cannot be signed ends the batch, with nothing changed from there on. -/
theorem run_signBatch_of_error {e : BatchElem} (h : e.method = sendTransaction)
    {rest : List BatchElem} {err : SigningError} {env env' : Env σ}
    (hparams : (l.signParams ctx e.params).run env = (.error err, env')) :
    l.signBatch ctx (e :: rest) env = ((.error err, e :: rest), env') := by
  rw [signBatch, if_pos (beq_iff_eq.mpr h), run_action_bind, hparams]
  rfl

/-- An element that is signed is changed, whatever becomes of the rest. -/
theorem run_signBatch_of_ok {e : BatchElem} (h : e.method = sendTransaction)
    {rest left : List BatchElem} {params : List Param} {r : Except SigningError Unit}
    {env env' env'' : Env σ} (hparams : (l.signParams ctx e.params).run env = (.ok params, env'))
    (hrest : l.signBatch ctx rest env' = ((r, left), env'')) :
    l.signBatch ctx (e :: rest) env
      = ((r, { e with method := sendRawTransaction, params } :: left), env'') := by
  rw [signBatch, if_pos (beq_iff_eq.mpr h), run_action_bind, hparams]
  dsimp only
  rw [run_action_bind, hrest]
  rfl

/-- **Elements that send nothing are passed over**, and signing goes on behind them. -/
theorem signBatch_append {pre : List BatchElem} (h : sendTransaction ∉ pre.map (·.method))
    (rest : List BatchElem) (env : Env σ) :
    l.signBatch ctx (pre ++ rest) env
      = (((l.signBatch ctx rest env).1.1, pre ++ (l.signBatch ctx rest env).1.2),
        (l.signBatch ctx rest env).2) := by
  induction pre with
  | nil => rfl
  | cons e pre ih =>
    rw [List.map_cons, List.mem_cons, not_or] at h
    exact run_signBatch_of_ne (Ne.symm h.1) (ih h.2)

/-- How a batch is left behind by an error: some elements were passed and are signed now if they
sent a transaction, and the next one could not be signed. From this one on nothing has changed. -/
structure Halt (l : SigningLayer σ) (ctx : Option Context) (elems left : List BatchElem)
    (err : SigningError) (env env' : Env σ) (passed signed rest : List BatchElem)
    (failing : BatchElem) (mid : Env σ) : Prop where
  before : elems = passed ++ failing :: rest
  after : left = signed ++ failing :: rest
  sends : failing.method = sendTransaction
  /-- Without what follows, signing would have succeeded. -/
  passes : l.signBatch ctx passed env = ((.ok (), signed), mid)
  fails : (l.signParams ctx failing.params).run mid = (.error err, env')
  rewritten : List.Forall₂ (BatchElem.Rewritten (l.Produces ctx)) passed signed

/-- One more element that was passed before it. -/
theorem Halt.cons {elems left passed signed rest : List BatchElem} {err : SigningError}
    {env env₁ env' mid : Env σ} {failing e e' : BatchElem}
    (h : l.Halt ctx elems left err env₁ env' passed signed rest failing mid)
    (helem : BatchElem.Rewritten (l.Produces ctx) e e')
    (hpasses : l.signBatch ctx (e :: passed) env = ((.ok (), e' :: signed), mid)) :
    l.Halt ctx (e :: elems) (e' :: left) err env env' (e :: passed) (e' :: signed) rest failing
      mid where
  before := by rw [h.before, List.cons_append]
  after := by rw [h.after, List.cons_append]
  sends := h.sends
  passes := hpasses
  fails := h.fails
  rewritten := .cons helem h.rewritten

/-- **A batch with an error is left behind in this way.** -/
theorem exists_halt {elems left : List BatchElem} {err : SigningError} {env env' : Env σ}
    (h : l.signBatch ctx elems env = ((.error err, left), env')) :
    ∃ passed signed rest failing mid,
      l.Halt ctx elems left err env env' passed signed rest failing mid := by
  induction elems generalizing left env with
  | nil => cases h
  | cons e elems ih =>
    by_cases hm : e.method = sendTransaction
    · rcases hparams : (l.signParams ctx e.params).run env with ⟨r, env₁⟩
      cases r with
      | error err' =>
        -- nothing was passed, and the first element is the one that failed
        rw [run_signBatch_of_error hm hparams] at h
        cases h
        exact ⟨[], [], elems, e, env, rfl, rfl, hm, rfl, hparams, .nil⟩
      | ok params =>
        rcases hrest : l.signBatch ctx elems env₁ with ⟨⟨r, left'⟩, env₂⟩
        rw [run_signBatch_of_ok hm hparams hrest] at h
        cases h
        obtain ⟨passed, signed, rest, failing, mid, hhalt⟩ := ih hrest
        obtain ⟨raw, hraw, rfl⟩ := exists_produces hparams
        have helem : BatchElem.Rewritten (l.Produces ctx) e
            { e with method := sendRawTransaction, params := [.string (Hex.marked raw)] } := by
          rw [BatchElem.Rewritten, if_pos hm]
          exact ⟨raw, hraw, rfl⟩
        exact ⟨_, _, rest, failing, mid,
          hhalt.cons helem (run_signBatch_of_ok hm hparams hhalt.passes)⟩
    · rcases hrest : l.signBatch ctx elems env with ⟨⟨r, left'⟩, env₁⟩
      rw [run_signBatch_of_ne hm hrest] at h
      cases h
      obtain ⟨passed, signed, rest, failing, mid, hhalt⟩ := ih hrest
      have helem : BatchElem.Rewritten (l.Produces ctx) e e := by
        rw [BatchElem.Rewritten, if_neg hm]
      exact ⟨_, _, rest, failing, mid, hhalt.cons helem (run_signBatch_of_ne hm hhalt.passes)⟩

namespace Halt

variable {elems left passed signed rest : List BatchElem} {err : SigningError}
variable {env env' mid : Env σ} {failing : BatchElem}

/-- What was passed sends no transaction any more. -/
theorem notMem_signed (h : l.Halt ctx elems left err env env' passed signed rest failing mid) :
    sendTransaction ∉ signed.map (·.method) := by
  have hrewritten : Shape.batch.Rewritten (l.Produces ctx) passed signed := h.rewritten
  exact hrewritten.notMem_methods

/-- **The batch is what it was** exactly if nothing had been signed before the error. -/
theorem eq_iff (h : l.Halt ctx elems left err env env' passed signed rest failing mid) :
    left = elems ↔ sendTransaction ∉ passed.map (·.method) := by
  constructor
  · intro heq
    rw [h.before, h.after, List.append_left_inj] at heq
    rw [← heq]
    exact h.notMem_signed
  · intro hnone
    have hsame := h.passes
    rw [l.signBatch_eq_pure ctx hnone] at hsame
    cases hsame
    rw [h.before, h.after]

end Halt

/-- **Signing in place stops at the failure.** After an error a call is exactly what it was. A batch
falls into three parts then: elements that were passed, the one that could not be signed, which
sends a transaction, and the rest.

* The failing element and the rest are exactly what they were. Of the elements that were passed,
  those that sent a transaction send a payload that was signed for it, with their slots kept, and
  the other ones are what they were.
* So the batch is what it was exactly if no element that was passed sent a transaction.
* Handed in again, in whatever environment, the batch is signed from the failing element on, and
  the elements that were passed stay as they are. -/
theorem inPlace_stops_at_failure (l : SigningLayer σ) (ctx : Option Context) :
    (∀ (c c' : Call) (err : SigningError) (env env' : Env σ),
      (l.signInPlace ctx).run.run c env = ((.error err, c'), env') → c' = c) ∧
    ∀ (elems left : List BatchElem) (err : SigningError) (env env' : Env σ),
      l.signBatch ctx elems env = ((.error err, left), env') →
      ∃ passed signed rest failing mid,
        l.Halt ctx elems left err env env' passed signed rest failing mid ∧
        (left = elems ↔ sendTransaction ∉ passed.map (·.method)) ∧
        ∀ again : Env σ, l.signBatch ctx left again
          = (((l.signBatch ctx (failing :: rest) again).1.1,
              signed ++ (l.signBatch ctx (failing :: rest) again).1.2),
            (l.signBatch ctx (failing :: rest) again).2) := by
  constructor
  · intro c c' err env env' h
    rw [l.run_signInPlace ctx c env] at h
    rcases hsign : (l.signCall ctx c).run env with ⟨r, env₁⟩
    rw [hsign] at h
    cases r with
    | ok signed => cases h
    | error e =>
      cases h
      rfl
  · intro elems left err env env' h
    obtain ⟨passed, signed, rest, failing, mid, hhalt⟩ := exists_halt h
    refine ⟨passed, signed, rest, failing, mid, hhalt, hhalt.eq_iff, fun again => ?_⟩
    rw [hhalt.after]
    exact signBatch_append hhalt.notMem_signed (failing :: rest) again

/-- A batch with a transaction for the only signer, and behind it one that no arguments are given
for. -/
def halfSigned : List BatchElem :=
  [{ method := sendTransaction, params := [.transaction .settled] },
    { method := sendTransaction, params := [] }]

/-- A layer with one signer, in front of a node that tells of an empty block. -/
def uniform : SigningLayer Nat :=
  ⟨Provider.ofAnswers fun _ _ => .ok (.object []), .sole .uniform⟩

/-- **A batch with an error is not what it was**: its first element is signed already. -/
theorem signBatch_leaves_signed :
    ∃ left env', uniform.signBatch none halfSigned { node := 0 }
        = ((.error .missingArgument, left), env') ∧ left ≠ halfSigned := by
  refine ⟨_, _, rfl, fun h => ?_⟩
  have hmethods := congrArg (List.map (·.method)) h
  have hhead : sendRawTransaction = sendTransaction := (List.cons.inj hmethods).1
  exact absurd hhead (by decide)

/-- This batch is left behind with its first element signed and its second one as it was, and so it
is whenever it is handed in again. A call without arguments is left as it was, too. -/
theorem inPlace_stops_at_failure_second :
    (∃ left env', uniform.signBatch none halfSigned { node := 0 }
        = ((.error .missingArgument, left), env') ∧
      left.map (·.method) = [sendRawTransaction, sendTransaction] ∧
      ∀ again, uniform.signBatch none left again = ((.error .missingArgument, left), again)) ∧
    ∃ c' env', (uniform.signInPlace none).run.run ⟨sendTransaction, []⟩ { node := 0 }
        = ((.error .missingArgument, c'), env') ∧ c' = ⟨sendTransaction, []⟩ := by
  obtain ⟨hcall, hbatch⟩ := inPlace_stops_at_failure uniform none
  constructor
  · rcases hrun : uniform.signBatch none halfSigned { node := 0 } with ⟨⟨r, left⟩, env'⟩
    obtain rfl : r = .error .missingArgument := congrArg (·.1.1) hrun.symm
    have hmethods : left.map (·.method) = [sendRawTransaction, sendTransaction] :=
      congrArg (·.1.2.map (·.method)) hrun.symm
    obtain ⟨passed, signed, rest, failing, mid, hhalt, hsame, hagain⟩ := hbatch _ _ _ _ _ hrun
    refine ⟨left, env', rfl, hmethods, ?_⟩
    match passed, hhalt, hsame with
    | [], hhalt, hsame =>
      -- then nothing would have been signed
      rw [hsame.mpr List.not_mem_nil] at hmethods
      exact absurd (List.cons.inj hmethods).1 (by decide)
    | [e], hhalt, hsame =>
      -- the element that fails is the one without arguments, and it fails again at once
      obtain ⟨rfl, rfl⟩ := List.cons.inj (List.cons.inj hhalt.before).2
      intro again
      rw [hagain again, hhalt.after]
      rfl
    | e :: e' :: passed, hhalt, hsame =>
      have hlength := congrArg List.length hhalt.before
      simp [halfSigned] at hlength
  · exact ⟨_, _, rfl, hcall ⟨sendTransaction, []⟩ _ _ { node := 0 } _ rfl⟩

end SigningLayer

end EthClient
