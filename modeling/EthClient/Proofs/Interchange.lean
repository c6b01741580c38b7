import EthClient.Proofs.Arguments
import EthClient.Proofs.Forwarding
import EthClient.Proofs.Outcome

/-! # Typed and untyped arguments are interchangeable

The first argument of a call that sends a transaction is an object or arguments that need no
decoding. A signing layer looks at nothing of it but the arguments it stands for
(`StandsFor`), so one form can be put in the place of the other (`Shape.Retyped`), and an
object that stands for none is refused before anything is asked (`Call.Refused`).

* **`SigningLayer.batch_eq_mapM`**: a batch is signed call by call;
* **`SigningLayer.rewrite_congr`**: both forms are made into the same input;
* **`Provider.signing_takes_both_forms`**: what a provider that signs does with either form. -/

namespace EthClient

variable {σ : Type}

/-! ## Two forms of an input -/

/-- The first of some parameters is an object that is read as these arguments. -/
def StandsFor (params : List Param) (args : TransactionArgs) : Prop :=
  ∃ members rest, params = .json (.object members) :: rest ∧
    TransactionArgs.decoder.runJson (.object members) = .ok args

/-- The parameters begin with the same arguments, once as an object and once typed. What follows is
not looked at. -/
def SameArguments (params params' : List Param) : Prop :=
  ∃ args rest, StandsFor params args ∧ params' = .transaction args :: rest

/-- The calls are equal, or send the same transaction with arguments in both forms. -/
def Call.Retyped (c c' : Call) : Prop :=
  c' = c ∨ c.method = sendTransaction ∧ c'.method = sendTransaction ∧
    SameArguments c.params c'.params

/-- The elements are equal but for the form of their arguments. -/
def BatchElem.Retyped (e e' : BatchElem) : Prop :=
  e' = { e with params := e'.params } ∧ e.toCall.Retyped e'.toCall

/-- The inputs are equal but for the form of the arguments in some of their parts. -/
def Shape.Retyped : (s : Shape) → s.Input → s.Input → Prop
  | .call, c, c' => c.Retyped c'
  | .callContext, (ctx, c), (ctx', c') => ctx' = ctx ∧ c.Retyped c'
  | .batch, elems, elems' => List.Forall₂ BatchElem.Retyped elems elems'
  | .batchContext, (ctx, elems), (ctx', elems') =>
    ctx' = ctx ∧ List.Forall₂ BatchElem.Retyped elems elems'

/-- The call sends a transaction with an object that cannot be read. -/
def Call.Refused (fault : Fault) (c : Call) : Prop :=
  c.method = sendTransaction ∧ ∃ members rest, c.params = .json (.object members) :: rest ∧
    TransactionArgs.decoder.runJson (.object members) = .error fault

namespace SigningLayer

variable (l : SigningLayer σ) (ctx : Option Context)

/-! ## One call -/

/-- The layer takes the same arguments from both forms. -/
theorem argument_congr {params params' : List Param} (h : SameArguments params params') :
    argument params = argument params' := by
  obtain ⟨args, rest, ⟨members, rest', rfl, hread⟩, rfl⟩ := h
  have hobject : argument (.json (.object members) :: rest') = .ok args := by
    rw [argument, hread]
  exact hobject

/-- **Both forms of a call become the same call.** -/
theorem call_congr {c c' : Call} (h : c.Retyped c') : l.call ctx c = l.call ctx c' := by
  rcases h with rfl | ⟨hm, hm', hparams⟩
  · rfl
  · rw [call, call, signCall, signCall, if_pos (beq_iff_eq.mpr hm), if_pos (beq_iff_eq.mpr hm'),
      signParams, signParams, argument_congr hparams]

/-- **A call with an object that cannot be read is refused**, and nothing is done. -/
theorem call_of_refused {fault : Fault} {c : Call} (h : c.Refused fault) :
    l.call ctx c = throw (.layer (.signing (.invalidArgument fault))) := by
  obtain ⟨hm, members, rest, hparams, hread⟩ := h
  have hargument : argument c.params = .error (.invalidArgument fault) := by
    rw [hparams, argument, hread]
  rw [call, signCall, if_pos (beq_iff_eq.mpr hm), signParams, hargument]
  rfl

/-- What is made of a call is the outcome of signing it. -/
theorem run_call {c : Call} {env env' : Env σ} {r : Except SigningError Call}
    (h : (l.signCall ctx c).run env = (r, env')) :
    (l.call ctx c).run env = (r.mapError SigningError.toProvider, env') := by
  rw [call, ExceptT.run_mk, run_action_bind, h]
  cases r <;> rfl

/-! ## Batches -/

/-- An element with its call signed. -/
def element (e : BatchElem) : Attempt σ BatchElem := do
  let c ← l.call ctx e.toCall
  return { e with method := c.method, params := c.params }

/-- A batch is handed on if all of it was signed. -/
theorem run_batch {elems signed : List BatchElem} {env env' : Env σ}
    {r : Except SigningError Unit} (h : l.signBatch ctx elems env = ((r, signed), env')) :
    (l.batch ctx elems).run env
      = ((r.map fun _ => signed).mapError SigningError.toProvider, env') := by
  rw [batch, ExceptT.run_mk, run_action_bind, h]
  cases r <;> rfl

/-- The first call of a batch is signed, and behind it the rest. -/
theorem signBatch_cons (e : BatchElem) (rest : List BatchElem) :
    l.signBatch ctx (e :: rest) = (l.signCall ctx e.toCall).run >>= fun
      | .error err => pure (.error err, e :: rest)
      | .ok c => l.signBatch ctx rest >>= fun p =>
        pure (p.1, { e with method := c.method, params := c.params } :: p.2) := by
  rw [signBatch, signCall]
  by_cases hm : e.method = sendTransaction
  · have hm' : (e.toCall.method == sendTransaction) = true := beq_iff_eq.mpr hm
    rw [if_pos (beq_iff_eq.mpr hm), if_pos hm']
    funext env
    rw [run_action_bind, run_action_bind]
    rcases hparams : (l.signParams ctx e.toCall.params).run env with ⟨r, env'⟩
    have hparams' : (l.signParams ctx e.params).run env = (r, env') := hparams
    cases r with
    | error err =>
      rw [hparams', run_bind_of_error hparams]
    | ok params =>
      rw [hparams', run_bind_of_ok hparams]
      rfl
  · have hm' : ¬ (e.toCall.method == sendTransaction) = true := fun h => hm (beq_iff_eq.mp h)
    rw [if_neg fun h => hm (beq_iff_eq.mp h), if_neg hm']
    rfl

/-- **A batch is signed call by call**, up to the first error. -/
theorem batch_eq_mapM (elems : List BatchElem) :
    l.batch ctx elems = elems.mapM (l.element ctx) := by
  induction elems with
  | nil => rfl
  | cons e rest ih =>
    rw [List.mapM_cons, ← ih]
    funext env
    change (l.batch ctx (e :: rest)).run env
      = (l.element ctx e >>= fun e' => l.batch ctx rest >>= fun rest' => pure (e' :: rest')).run env
    have hcons : l.signBatch ctx (e :: rest) env = _ := congrFun (l.signBatch_cons ctx e rest) env
    rw [run_action_bind] at hcons
    rcases hcall : (l.signCall ctx e.toCall).run env with ⟨r, env₁⟩
    rw [hcall] at hcons
    have hrun := l.run_call ctx hcall
    cases r with
    | error err =>
      -- the rest is not looked at, and the elements signed so far are given up with the batch
      have helement : (l.element ctx e).run env = (.error err.toProvider, env₁) :=
        run_bind_of_error hrun _
      rw [run_bind_of_error helement]
      exact l.run_batch ctx hcons
    | ok c =>
      have helement : (l.element ctx e).run env
          = (.ok { e with method := c.method, params := c.params }, env₁) :=
        run_bind_of_ok hrun _
      rw [run_bind_of_ok helement]
      rcases hrest : l.signBatch ctx rest env₁ with ⟨⟨r, signed⟩, env₂⟩
      dsimp only at hcons
      rw [run_action_bind, hrest] at hcons
      have hbatch := l.run_batch ctx hrest
      cases r with
      | error err =>
        rw [run_bind_of_error hbatch]
        exact l.run_batch ctx hcons
      | ok _ =>
        rw [run_bind_of_ok hbatch]
        exact l.run_batch ctx hcons

/-- Both forms of an element become the same element. -/
theorem element_congr {e e' : BatchElem} (h : e.Retyped e') :
    l.element ctx e = l.element ctx e' := by
  obtain ⟨he, hcall⟩ := h
  rw [element, element, l.call_congr ctx hcall, he]

/-- **Both forms of an input are made into the same input.** -/
theorem rewrite_congr {s : Shape} {input input' : s.Input} (h : s.Retyped input input') :
    l.rewrite s input = l.rewrite s input' := by
  have hbatch (ctx : Option Context) {elems elems' : List BatchElem}
      (h : List.Forall₂ BatchElem.Retyped elems elems') :
      l.batch ctx elems = l.batch ctx elems' := by
    rw [batch_eq_mapM, batch_eq_mapM]
    induction h with
    | nil => rfl
    | cons he _ ih => rw [List.mapM_cons, List.mapM_cons, l.element_congr ctx he, ih]
  cases s with
  | call => exact l.call_congr none h
  | batch => exact hbatch none h
  | callContext =>
    obtain ⟨ctx, c⟩ := input
    obtain ⟨ctx', c'⟩ := input'
    obtain ⟨rfl, hc⟩ := h
    rw [rewrite, rewrite, l.call_congr (some ctx') hc]
  | batchContext =>
    obtain ⟨ctx, elems⟩ := input
    obtain ⟨ctx', elems'⟩ := input'
    obtain ⟨rfl, helems⟩ := h
    rw [rewrite, rewrite, hbatch (some ctx') helems]

/-- **An element with an object that cannot be read ends the batch** where the elements before it
have left off. -/
theorem run_batch_of_refused {fault : Fault} {e : BatchElem} (h : e.toCall.Refused fault)
    (pre post : List BatchElem) (env : Env σ) :
    (l.batch ctx (pre ++ e :: post)).run env
      = (((l.batch ctx pre).run env).1.bind fun _ =>
          .error (.layer (.signing (.invalidArgument fault))),
        ((l.batch ctx pre).run env).2) := by
  have helement : l.element ctx e = throw (.layer (.signing (.invalidArgument fault))) := by
    rw [element, l.call_of_refused ctx h]
    rfl
  rw [batch_eq_mapM, batch_eq_mapM, List.mapM_append, List.mapM_cons, helement]
  rcases hpre : (pre.mapM (l.element ctx)).run env with ⟨r, env'⟩
  cases r with
  | error err =>
    rw [run_bind_of_error hpre]
    rfl
  | ok signed =>
    rw [run_bind_of_ok hpre]
    rfl

end SigningLayer

/-! ## Providers that sign -/

namespace Provider

variable (p : Provider σ) (registry : Registry)

/-- **Both forms are answered alike.** -/
theorem handle_signing_congr {s : Shape} {input input' : s.Input} (h : s.Retyped input input') :
    (p.signing registry).handle s input = (p.signing registry).handle s input' := by
  have hvacant : s.isVacant input = s.isVacant input' := by
    have hempty {elems elems' : List BatchElem} (h : List.Forall₂ BatchElem.Retyped elems elems') :
        elems.isEmpty = elems'.isEmpty := by
      cases h <;> rfl
    cases s with
    | call => rfl
    | callContext => rfl
    | batch => exact hempty h
    | batchContext => exact hempty h.2
  rw [handle_signing, handle_signing, SigningLayer.layer_eq_bind, SigningLayer.layer_eq_bind,
    hvacant, SigningLayer.rewrite_congr _ h]

/-- A call that is refused is refused at once. -/
theorem run_signing_call_of_refused {fault : Fault} {c : Call} (h : c.Refused fault)
    (ctx : Option Context) (env : Env σ) :
    ((p.signing registry).call ctx c).run env
      = (.error (.layer (.signing (.invalidArgument fault))), env) := by
  cases ctx with
  | none =>
    have hv : Shape.call.isVacant c = false := rfl
    rw [call, p.run_handle_signing registry hv, SigningLayer.rewrite,
      SigningLayer.call_of_refused _ none h]
    rfl
  | some ctx =>
    have hv : Shape.callContext.isVacant (ctx, c) = false := rfl
    rw [call, p.run_handle_signing registry hv, SigningLayer.rewrite,
      SigningLayer.call_of_refused _ (some ctx) h]
    rfl

/-- A batch that cannot be signed is handed on to nobody. -/
theorem run_signing_batch_of_error {ctx : Option Context} {elems : List BatchElem}
    (hne : elems ≠ []) {env env' : Env σ} {err : ProviderError}
    (h : ((SigningLayer.mk p registry).batch ctx elems).run env = (.error err, env')) :
    ((p.signing registry).batch ctx elems).run env = (.error err, env') := by
  cases ctx with
  | none =>
    have hv : Shape.batch.isVacant elems = false := by simpa [Shape.isVacant] using hne
    rw [batch, p.run_handle_signing registry hv, SigningLayer.rewrite]
    exact run_bind_of_error h _
  | some ctx =>
    have hv : Shape.batchContext.isVacant (ctx, elems) = false := by
      simpa [Shape.isVacant] using hne
    rw [batch, p.run_handle_signing registry hv, SigningLayer.rewrite]
    exact run_bind_of_error (run_bind_of_error h _) _

/-- Neither is a batch with an element that is refused. -/
theorem run_signing_batch_of_refused {fault : Fault} {e : BatchElem} (h : e.toCall.Refused fault)
    (ctx : Option Context) (pre post : List BatchElem) (env : Env σ) :
    ((p.signing registry).batch ctx (pre ++ e :: post)).run env
      = ((((SigningLayer.mk p registry).batch ctx pre).run env).1.bind fun _ =>
          .error (.layer (.signing (.invalidArgument fault))),
        (((SigningLayer.mk p registry).batch ctx pre).run env).2) := by
  have hrefused := (SigningLayer.mk p registry).run_batch_of_refused ctx h pre post env
  have hne : pre ++ e :: post ≠ [] := by simp
  rcases hpre : ((SigningLayer.mk p registry).batch ctx pre).run env with ⟨r, env'⟩
  rw [hpre] at hrefused
  cases r with
  | ok signed => exact p.run_signing_batch_of_error registry hne hrefused
  | error err => exact p.run_signing_batch_of_error registry hne hrefused

/-- **Typed and untyped arguments are interchangeable** for a provider that signs, in every shape,
for every registry, and whatever the node answers:

* inputs that differ only in the form of their arguments have the same outcome and leave the same
  requests at the inner provider;
* the value of typed arguments is an object that is read as these arguments;
* a call with an object that cannot be read is refused, and nothing is asked or forwarded;
* in a batch, such an element is refused where the elements before it have left off, so nothing is
  asked for it and nothing is forwarded; if none of them sends a transaction, nothing is asked. -/
theorem signing_takes_both_forms :
    (∀ (s : Shape) (input input' : s.Input), s.Retyped input input' →
      ∀ env : Env (Logged Handling σ), ((p.recording.signing registry).handle s input).run env
        = ((p.recording.signing registry).handle s input').run env) ∧
    (∀ (args : TransactionArgs) (rest rest' : List Param),
      SameArguments (.json (Param.transaction args).toJson :: rest) (.transaction args :: rest')) ∧
    (∀ (ctx : Option Context) (c : Call) (fault : Fault), c.Refused fault →
      ∀ env : Env (Logged Handling σ), ((p.recording.signing registry).call ctx c).run env
        = (.error (.layer (.signing (.invalidArgument fault))), env)) ∧
    (∀ (ctx : Option Context) (pre post : List BatchElem) (e : BatchElem) (fault : Fault),
      e.toCall.Refused fault → ∀ env : Env (Logged Handling σ),
        ((p.recording.signing registry).batch ctx (pre ++ e :: post)).run env
          = ((((SigningLayer.mk p.recording registry).batch ctx pre).run env).1.bind fun _ =>
              .error (.layer (.signing (.invalidArgument fault))),
            (((SigningLayer.mk p.recording registry).batch ctx pre).run env).2) ∧
        (sendTransaction ∉ pre.map (·.method) →
          ((p.recording.signing registry).batch ctx (pre ++ e :: post)).run env
            = (.error (.layer (.signing (.invalidArgument fault))), env))) := by
  refine ⟨fun s input input' h env => ?_, fun args rest rest' => ?_, fun ctx c fault h env => ?_,
    fun ctx pre post e fault h env => ⟨?_, fun hpre => ?_⟩⟩
  · rw [p.recording.handle_signing_congr registry h]
  · obtain ⟨⟨members, hobject⟩, hread⟩ := args.runJson_toJson
    refine ⟨args, rest', ⟨members, rest, ?_, by rw [← hobject]; exact hread⟩, rfl⟩
    rw [Param.toJson, hobject]
  · exact p.recording.run_signing_call_of_refused registry h ctx env
  · exact p.recording.run_signing_batch_of_refused registry h ctx pre post env
  · -- nothing is done for elements that do not send
    have hbatch : ((SigningLayer.mk p.recording registry).batch ctx pre).run env
        = (.ok pre, env) := by
      rw [SigningLayer.batch, SigningLayer.signBatch_eq_pure _ ctx hpre]
      rfl
    rw [p.recording.run_signing_batch_of_refused registry h ctx pre post env, hbatch]
    rfl

/-- Settled arguments are sent in both forms alike, and an object with a truth value for its gas is
refused. -/
theorem signing_takes_both_forms_settled :
    let node := (Provider.ofAnswers fun _ _ => .ok (.object [])).recording.signing
      (.sole PrivateKey.one.toSigner)
    let untyped : Call := ⟨sendTransaction, [.json (Param.transaction .settled).toJson]⟩
    let typed : Call := ⟨sendTransaction, [.transaction .settled]⟩
    let unread : Call := ⟨sendTransaction, [.json (.object [("gas", .bool true)])]⟩
    (node.handle .call untyped).run { node := ⟨[], 0⟩ }
        = (node.handle .call typed).run { node := ⟨[], 0⟩ } ∧
      ((node.handle .call typed).run { node := ⟨[], 0⟩ }).2.log.length = 2 ∧
      (node.call none unread).run { node := ⟨[], 0⟩ }
        = (.error (.layer (.signing (.invalidArgument .shape))), { node := ⟨[], 0⟩ }) := by
  intro node untyped typed unread
  obtain ⟨hsame, hforms, hrefused, -⟩ := signing_takes_both_forms
    (.ofAnswers fun _ _ => .ok (.object [])) (.sole PrivateKey.one.toSigner)
  have hretyped : Shape.call.Retyped untyped typed := .inr ⟨rfl, rfl, hforms .settled [] []⟩
  have hunread : unread.Refused .shape := ⟨rfl, [("gas", .bool true)], [], rfl, rfl⟩
  refine ⟨hsame .call untyped typed hretyped { node := ⟨[], 0⟩ }, ?_, ?_⟩
  · decide +kernel
  · exact hrefused none unread .shape hunread { node := ⟨[], 0⟩ }

end Provider

end EthClient
