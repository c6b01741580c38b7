import EthClient.Proofs.Population
import EthClient.Proofs.Registry
import EthClient.Provider.Signing
import Mathlib.Data.List.Forall2

/-! # What the signing layer does

A `Signed` is what came of signing some arguments, with everything it was made of, and `Signed.For`
says that all of it belongs together: the signer is the one of the sender, the chain id is the one
that is set or told, and the transaction is the one of the populated arguments, with this sender and
this chain id. The layer only asks questions meanwhile (**`Probing`**), which a sequence of attempts
does if each of them does.

* **`SigningLayer.probing_signTransaction`**: a payload that is returned is one that was signed for
  the arguments;
* **`SigningLayer.probing_rewrite`**: of an input, exactly the parts that send a transaction are
  changed, each into one that sends such a payload. -/

namespace EthClient

variable {X σ : Type}

/-! ## Attempts that only ask -/

section Probing

variable {ε ε' α β : Type} {asked : (q : Query) → Except ProviderError q.Answer → X → Prop}

/-- Every entry is a question. -/
def Questions (asked : (q : Query) → Except ProviderError q.Answer → X → Prop)
    (new : List X) : Prop :=
  ∀ x ∈ new, ∃ q answer, asked q answer x

/-- No entries are only questions. -/
theorem questions_nil : Questions asked ([] : List X) := by
  intro x hx
  cases hx

/-- More questions may follow. -/
theorem Questions.append {new more : List X} (h : Questions asked new)
    (h' : Questions asked more) : Questions asked (new ++ more) := by
  intro x hx
  rcases List.mem_append.mp hx with hx | hx
  · exact h x hx
  · exact h' x hx

/-- The attempt puts nothing but questions behind the log, also if it fails, and a value that it
comes to is good together with them. -/
def Probing (asked : (q : Query) → Except ProviderError q.Answer → X → Prop)
    (act : ExceptT ε (StateM (Env (Logged X σ))) α) (good : α → List X → Prop) : Prop :=
  Adds act.run fun r new => Questions asked new ∧ ∀ a, r = .ok a → good a new

namespace Probing

variable {act : ExceptT ε (StateM (Env (Logged X σ))) α} {good : α → List X → Prop}

/-- A value that is good without questions. -/
theorem pure {a : α} (h : good a []) :
    Probing asked (Pure.pure a : ExceptT ε (StateM (Env (Logged X σ))) α) good :=
  Adds.pure ⟨questions_nil, fun b hb => by cases hb; exact h⟩

/-- An error. -/
theorem throw {e : ε} :
    Probing asked (MonadExcept.throw e : ExceptT ε (StateM (Env (Logged X σ))) α) good :=
  Adds.pure ⟨questions_nil, fun b hb => by cases hb⟩

/-- An action, of which each entry is a question. -/
theorem lift {act : Action (Logged X σ) α} (h : Adds act good)
    (hq : ∀ a new, good a new → Questions asked new) :
    Probing asked (liftM act : ExceptT ε (StateM (Env (Logged X σ))) α) good := by
  refine h.lift.mono ?_
  rintro _ new ⟨a, rfl, ha⟩
  exact ⟨hq a new ha, fun b hb => by cases hb; exact ha⟩

/-- **One attempt after another**: an error of the first one ends both. -/
theorem bind {f : α → ExceptT ε (StateM (Env (Logged X σ))) β} {good' : β → List X → Prop}
    (h : Probing asked act good)
    (hf : ∀ a new, good a new → Probing asked (f a) fun b more => good' b (new ++ more)) :
    Probing asked (act >>= f) good' := by
  refine Adds.bindOk h ?_ ?_
  · rintro a new ⟨hq, ha⟩
    refine (hf a new (ha a rfl)).mono ?_
    rintro r more ⟨hq', hb⟩
    exact ⟨hq.append hq', hb⟩
  · rintro e new ⟨hq, -⟩
    exact ⟨hq, fun b hb => by cases hb⟩

/-- A value that is made of another one. -/
theorem map {g : α → β} {good' : β → List X → Prop} (h : Probing asked act good)
    (hg : ∀ a new, good a new → good' (g a) new) :
    Probing asked (act >>= fun a => Pure.pure (g a)) good' :=
  h.bind fun a new ha => .pure (by rw [List.append_nil]; exact hg a new ha)

/-- A report comes before an attempt. -/
theorem report {e : Event} (h : Probing asked act good) :
    Probing asked ((liftM (EthClient.report e : Action (Logged X σ) Unit)) >>= fun _ => act)
      good := by
  refine (lift (adds_report e) ?_).bind ?_
  · rintro _ _ rfl
    exact questions_nil
  · rintro _ _ rfl
    exact h

/-- Only the error is put in another form. -/
theorem mapError {f : Except ε α → Action (Logged X σ) (Except ε' α)}
    (h : Probing asked act good) (hok : ∀ a, f (.ok a) = Pure.pure (.ok a))
    (herr : ∀ e, ∃ e', f (.error e) = Pure.pure (.error e')) :
    Probing asked (ExceptT.mk (act.run >>= f)) good := by
  refine Adds.bind h ?_
  rintro r new ⟨hq, ha⟩
  cases r with
  | ok a =>
    rw [hok]
    refine Adds.pure ?_
    rw [List.append_nil]
    exact ⟨hq, fun b hb => by cases hb; exact ha a rfl⟩
  | error e =>
    obtain ⟨e', he⟩ := herr e
    rw [he]
    refine Adds.pure ?_
    rw [List.append_nil]
    exact ⟨hq, fun b hb => by cases hb⟩

end Probing

end Probing

/-! ## What was signed -/

/-- What was signed for some arguments, and what it was made of. -/
structure Signed where
  signer : Signer
  chainId : Number64
  populated : TransactionArgs
  tx : Transaction
  signature : Signature

/-- The chain id is the one that is set, or else the answer to the first question. -/
def ChainIdTold (asked : (q : Query) → Except ProviderError q.Answer → X → Prop)
    (args : TransactionArgs) (id : Number64) (new : List X) : Prop :=
  args.chainId = some id ∨
    args.chainId = none ∧ ∃ x, new.head? = some x ∧ asked .chainId (.ok (some id)) x

namespace Signed

/-- The payload. -/
def raw (s : Signed) : Bytes := s.tx.signedRlp s.signature

/-- The arguments that population begins with: the given ones, for the signer and the chain. -/
def resolved (s : Signed) (args : TransactionArgs) : TransactionArgs :=
  { args with sender := some s.signer.address, chainId := some s.chainId }

/-- This was signed for some arguments, while the entries were put behind the log. -/
structure For (l : SigningLayer (Logged X σ)) (ctx : Option Context)
    (asked : (q : Query) → Except ProviderError q.Answer → X → Prop) (args : TransactionArgs)
    (s : Signed) (new : List X) : Prop where
  chosen : l.registry.Chooses args.sender s.signer
  told : ChainIdTold asked args s.chainId new
  /-- Population follows the question for the chain id, if there is one. -/
  populated : ∃ first more, new = first ++ more ∧
    (s.resolved args).PopulatedIn (Reader.ofProvider l.inner ctx) s.populated more
  made : s.populated.toTransaction? = some s.tx
  signed : s.signer.signTransaction s.tx s.chainId = .ok s.signature
  sender : s.tx.fields.sender = some s.signer.address
  chainId : s.tx.chainId = some s.chainId
  /-- The nonce is the one that is set, or else the count that was told for the signer. -/
  nonce : ∃ n, s.tx.fields.nonce = some n ∧
    (args.nonce = some n ∨ args.nonce = none ∧ CountTold asked s.signer.address n new)
  /-- Every question is about the signer, as far as it is about a sender. -/
  asked : ∀ x ∈ new, ∃ q answer, asked q answer x ∧ q.Concerns (s.resolved args)

/-- The steps in which this was signed for some arguments: first the question for the chain id, if
there is one, and then population, beside more entries. -/
structure Steps (l : SigningLayer (Logged X σ)) (ctx : Option Context)
    (asked : (q : Query) → Except ProviderError q.Answer → X → Prop) (args : TransactionArgs)
    (s : Signed) (first more : List X) : Prop where
  chosen : l.registry.Chooses args.sender s.signer
  told : args.chainId = some s.chainId ∧ first = [] ∨
    args.chainId = none ∧ ∃ x, first = [x] ∧ asked .chainId (.ok (some s.chainId)) x
  run : (s.resolved args).PopulatedIn (Reader.ofProvider l.inner ctx) s.populated more
  advance : Advance asked (s.resolved args) s.populated more
  made : s.populated.toTransaction? = some s.tx
  signed : s.signer.signTransaction s.tx s.chainId = .ok s.signature

/-- What was signed in these steps belongs to the arguments. -/
theorem Steps.signedFor {l : SigningLayer (Logged X σ)} {ctx : Option Context}
    {asked : (q : Query) → Except ProviderError q.Answer → X → Prop} {args : TransactionArgs}
    {s : Signed} {first more : List X} (h : s.Steps l ctx asked args first more) :
    s.For l ctx asked args (first ++ more) := by
  obtain ⟨hchosen, hfirst, hrun, hadv, hmade, hsigned⟩ := h
  obtain ⟨n, gas, hn, -, hfields⟩ := TransactionArgs.fields_of_toTransaction? hmade
  have htold : ChainIdTold asked args s.chainId (first ++ more) := by
    rcases hfirst with ⟨hid, -⟩ | ⟨hid, x, rfl, hx⟩
    · exact .inl hid
    · exact .inr ⟨hid, x, rfl, hx⟩
  have hsender : s.tx.fields.sender = some s.signer.address := by
    rw [hfields]
    exact hadv.sender
  have hid : s.tx.chainId = some s.chainId := by
    rw [Transaction.chainId, hfields]
    exact hadv.chainId s.chainId rfl
  have hnonce : s.tx.fields.nonce = some n := by
    rw [hfields, TransactionArgs.transactionFields]
  refine ⟨hchosen, htold, ⟨first, more, rfl, hrun⟩, hmade, hsigned, hsender, hid,
    ⟨n, hnonce, ?_⟩, fun x hx => ?_⟩
  · rcases hadv.nonce with hkept | ⟨hnone, a, m, ha, hm, htold⟩
    · exact .inl (hkept.symm.trans hn)
    · -- the count was told for the sender that the arguments were given
      cases ha
      cases hn.symm.trans hm
      exact .inr ⟨hnone, htold.subset (List.subset_append_right _ _)⟩
  · rcases List.mem_append.mp hx with hx | hx
    · rcases hfirst with ⟨-, rfl⟩ | ⟨-, y, rfl, hy⟩
      · cases hx
      · rw [List.mem_singleton.mp hx]
        exact ⟨.chainId, _, hy, trivial⟩
    · exact hadv.asked x hx

end Signed

/-! ## What is handed on -/

/-- What becomes of a call: one that sends a transaction sends a payload instead, and any other one
stays as it is. -/
def Call.Rewritten (signs : List Param → Bytes → Prop) (c c' : Call) : Prop :=
  if c.method = sendTransaction then
    ∃ raw, signs c.params raw ∧ c' = ⟨sendRawTransaction, [.string (Hex.marked raw)]⟩
  else c' = c

/-- What becomes of an element of a batch. -/
def BatchElem.Rewritten (signs : List Param → Bytes → Prop) (e e' : BatchElem) : Prop :=
  if e.method = sendTransaction then
    ∃ raw, signs e.params raw ∧
      e' = { e with method := sendRawTransaction, params := [.string (Hex.marked raw)] }
  else e' = e

/-- What becomes of an input: its context stays, and so do number and order of the elements. -/
def Shape.Rewritten (signs : List Param → Bytes → Prop) : (s : Shape) → s.Input → s.Input → Prop
  | .call, c, c' => c.Rewritten signs c'
  | .callContext, (ctx, c), (ctx', c') => ctx' = ctx ∧ c.Rewritten signs c'
  | .batch, elems, elems' => List.Forall₂ (BatchElem.Rewritten signs) elems elems'
  | .batchContext, (ctx, elems), (ctx', elems') =>
    ctx' = ctx ∧ List.Forall₂ (BatchElem.Rewritten signs) elems elems'

/-- Elements may be signed in more ways. -/
theorem BatchElem.Rewritten.mono {signs signs' : List Param → Bytes → Prop} {e e' : BatchElem}
    (h : e.Rewritten signs e') (hsub : ∀ params raw, signs params raw → signs' params raw) :
    e.Rewritten signs' e' := by
  unfold Rewritten at h ⊢
  by_cases hm : e.method = sendTransaction
  · rw [if_pos hm] at h ⊢
    obtain ⟨raw, hraw, he⟩ := h
    exact ⟨raw, hsub _ _ hraw, he⟩
  · rw [if_neg hm] at h ⊢
    exact h

/-- **What is handed on sends no transaction unsigned.** -/
theorem Shape.Rewritten.notMem_methods {signs : List Param → Bytes → Prop} {s : Shape}
    {input input' : s.Input} (h : s.Rewritten signs input input') :
    sendTransaction ∉ s.methods input' := by
  have hne : sendRawTransaction ≠ sendTransaction := by decide
  have hcall {c c' : Call} (h : c.Rewritten signs c') : sendTransaction ∉ [c'.method] := by
    unfold Call.Rewritten at h
    split at h
    · obtain ⟨raw, -, rfl⟩ := h
      simpa using hne.symm
    · rename_i hm
      subst h
      simpa using fun h => hm h.symm
  have helems {es es' : List BatchElem} (h : List.Forall₂ (BatchElem.Rewritten signs) es es') :
      sendTransaction ∉ es'.map (·.method) := by
    induction h with
    | nil => simp
    | cons he _ ih =>
      rw [List.map_cons, List.mem_cons, not_or]
      refine ⟨?_, ih⟩
      unfold BatchElem.Rewritten at he
      split at he
      · obtain ⟨raw, -, rfl⟩ := he
        exact hne.symm
      · rename_i hm
        subst he
        exact fun h => hm h.symm
  cases s with
  | call => exact hcall h
  | callContext => exact hcall h.2
  | batch => exact helems h
  | batchContext => exact helems h.2

namespace SigningLayer

variable {l : SigningLayer (Logged X σ)} {ctx : Option Context}
variable {asked : (q : Query) → Except ProviderError q.Answer → X → Prop}

/-! ## One transaction -/

/-- The signer that is found is the one of the sender, and nothing is asked for it. -/
theorem probing_resolve (l : SigningLayer (Logged X σ)) (sender : Option Address) :
    Probing asked (l.resolve sender) fun s new => new = [] ∧ l.registry.Chooses sender s := by
  unfold resolve
  cases sender with
  | some a =>
    dsimp only
    cases hget : l.registry.get a with
    | ok s => exact .pure ⟨rfl, hget⟩
    | error e => exact .report .throw
  | none =>
    dsimp only
    cases hd : l.registry.default? with
    | some s => exact .pure ⟨rfl, hd⟩
    | none => exact .throw

/-- The chain id is asked for with at most one question. -/
theorem probing_chainId {reader : Reader (Logged X σ)} (hr : reader.Tells asked)
    (args : TransactionArgs) :
    Probing asked (chainId reader args) fun id new =>
      args.chainId = some id ∧ new = [] ∨
        args.chainId = none ∧ ∃ x, new = [x] ∧ asked .chainId (.ok (some id)) x := by
  unfold chainId
  cases hid : args.chainId with
  | some id => exact .pure (.inl ⟨rfl, rfl⟩)
  | none =>
    refine (Probing.lift (hr .chainId) ?_).bind ?_
    · rintro answer _ ⟨x, rfl, hask⟩ y hy
      rw [List.mem_singleton.mp hy]
      exact ⟨.chainId, answer, hask⟩
    · rintro answer _ ⟨x, rfl, hask⟩
      match answer with
      | .ok (some id) => exact .pure (.inr ⟨rfl, x, rfl, hask⟩)
      | .ok none => exact .throw
      | .error _ => exact .throw

/-- **A payload that is returned was signed in steps.** -/
theorem probing_signTransaction_steps (hr : (Reader.ofProvider l.inner ctx).Tells asked)
    (args : TransactionArgs) :
    Probing asked (l.signTransaction ctx args) fun raw new => ∃ (s : Signed) (first more : List X),
      new = first ++ more ∧ s.Steps l ctx asked args first more ∧ raw = s.raw := by
  unfold signTransaction
  refine (probing_resolve l args.sender).bind ?_
  rintro signer _ ⟨rfl, hchosen⟩
  refine (probing_chainId hr args).bind fun id first hfirst => ?_
  refine (Probing.lift (TransactionArgs.adds_populateToTransaction hr _) ?_).bind ?_
  · rintro r more ⟨hasked, -⟩ x hx
    obtain ⟨q, answer, hask, -⟩ := hasked x hx
    exact ⟨q, answer, hask⟩
  · rintro r more ⟨-, htx⟩
    cases r with
    | error e => exact .throw
    | ok tx =>
      obtain ⟨populated, hrun, hadv, hmade⟩ := htx tx rfl
      refine .report ?_
      cases hsigned : signer.signTransaction tx id with
      | error e => exact .throw
      | ok signature =>
        -- signer, chain id and transaction are those that the steps before came to
        refine .pure ⟨⟨signer, id, populated, tx, signature⟩, first, more, ?_,
          ⟨hchosen, hfirst, hrun, hadv, hmade, hsigned⟩, rfl⟩
        rw [List.nil_append, List.append_nil]

/-- **It was signed for the arguments.** -/
theorem probing_signTransaction (hr : (Reader.ofProvider l.inner ctx).Tells asked)
    (args : TransactionArgs) :
    Probing asked (l.signTransaction ctx args) fun raw new =>
      ∃ s : Signed, s.For l ctx asked args new ∧ raw = s.raw := by
  refine (probing_signTransaction_steps hr args).mono ?_
  rintro r new ⟨hasked, hsteps⟩
  refine ⟨hasked, fun raw hr => ?_⟩
  obtain ⟨s, first, more, rfl, hs, hraw⟩ := hsteps raw hr
  exact ⟨s, hs.signedFor, hraw⟩

/-! ## Calls and batches -/

/-- The payload was signed for the argument that some parameters begin with, while some of the
entries were put behind the log. -/
def Signs (l : SigningLayer (Logged X σ)) (ctx : Option Context)
    (asked : (q : Query) → Except ProviderError q.Answer → X → Prop) (new : List X)
    (params : List Param) (raw : Bytes) : Prop :=
  ∃ args, ∃ s : Signed, ∃ part, argument params = .ok args ∧ part <:+: new ∧
    s.For l ctx asked args part ∧ raw = s.raw

/-- What was signed was so also among more entries. -/
theorem Signs.infix {new more : List X} {params : List Param} {raw : Bytes}
    (h : l.Signs ctx asked new params raw) (hsub : new <:+: more) :
    l.Signs ctx asked more params raw := by
  obtain ⟨args, s, part, harg, hpart, hs, hraw⟩ := h
  exact ⟨args, s, part, harg, hpart.trans hsub, hs, hraw⟩

/-- The parameters of the call that is handed on are one payload in hexadecimal digits. -/
theorem probing_signParams (hr : (Reader.ofProvider l.inner ctx).Tells asked)
    (params : List Param) :
    Probing asked (l.signParams ctx params) fun params' new =>
      ∃ raw, l.Signs ctx asked new params raw ∧ params' = [.string (Hex.marked raw)] := by
  unfold signParams
  cases harg : argument params with
  | error e => exact .throw
  | ok args =>
    refine (probing_signTransaction hr args).map ?_
    rintro _ new ⟨s, hs, rfl⟩
    exact ⟨s.raw, ⟨args, s, new, harg, List.infix_rfl, hs, rfl⟩, rfl⟩

/-- A call that sends a transaction is signed. -/
theorem probing_call (hr : (Reader.ofProvider l.inner ctx).Tells asked) (c : Call) :
    Probing asked (l.call ctx c) fun c' new => c.Rewritten (l.Signs ctx asked new) c' := by
  refine Probing.mapError ?_ (fun _ => rfl) fun e => ⟨e.toProvider, rfl⟩
  unfold signCall
  by_cases hm : c.method = sendTransaction
  · rw [if_pos (beq_iff_eq.mpr hm)]
    refine (probing_signParams hr c.params).map ?_
    rintro _ new ⟨raw, hraw, rfl⟩
    rw [Call.Rewritten, if_pos hm]
    exact ⟨raw, hraw, rfl⟩
  · rw [if_neg fun h => hm (beq_iff_eq.mp h)]
    refine .pure ?_
    rw [Call.Rewritten, if_neg hm]

/-- A batch is signed element by element, up to the first that fails. -/
theorem adds_signBatch (hr : (Reader.ofProvider l.inner ctx).Tells asked)
    (elems : List BatchElem) :
    Adds (l.signBatch ctx elems) fun p new => Questions asked new ∧
      (p.1 = .ok () →
        List.Forall₂ (BatchElem.Rewritten (l.Signs ctx asked new)) elems p.2) := by
  induction elems with
  | nil => exact Adds.pure ⟨questions_nil, fun _ => .nil⟩
  | cons e rest ih =>
    unfold signBatch
    -- what was signed for the first element stays so among the entries of the rest
    by_cases hm : e.method = sendTransaction
    · rw [if_pos (beq_iff_eq.mpr hm)]
      refine Adds.bind (probing_signParams hr e.params) ?_
      rintro r new ⟨hasked, hparams⟩
      cases r with
      | error err =>
        refine Adds.pure ?_
        rw [List.append_nil]
        exact ⟨hasked, fun h => by cases h⟩
      | ok params =>
        obtain ⟨raw, hraw, rfl⟩ := hparams params rfl
        refine ih.bind ?_
        rintro ⟨outcome, signed⟩ more ⟨hasked', hrest⟩
        refine Adds.pure ?_
        rw [List.append_nil]
        refine ⟨hasked.append hasked', fun h => .cons ?_ ?_⟩
        · rw [BatchElem.Rewritten, if_pos hm]
          exact ⟨raw, hraw.infix (List.prefix_append new more).isInfix, rfl⟩
        · exact (hrest h).imp fun _ _ he => he.mono fun _ _ hs =>
            hs.infix (List.suffix_append new more).isInfix
    · rw [if_neg fun h => hm (beq_iff_eq.mp h)]
      refine ih.bind ?_
      rintro ⟨outcome, signed⟩ more ⟨hasked, hrest⟩
      refine Adds.pure ?_
      rw [List.append_nil]
      refine ⟨hasked, fun h => .cons ?_ (hrest h)⟩
      rw [BatchElem.Rewritten, if_neg hm]

/-- A batch of which nothing failed is signed as a whole. -/
theorem probing_batch (hr : (Reader.ofProvider l.inner ctx).Tells asked)
    (elems : List BatchElem) :
    Probing asked (l.batch ctx elems) fun elems' new =>
      List.Forall₂ (BatchElem.Rewritten (l.Signs ctx asked new)) elems elems' := by
  refine Adds.bind (adds_signBatch hr elems) ?_
  rintro ⟨r, signed⟩ new ⟨hasked, helems⟩
  cases r with
  | ok u =>
    refine Adds.pure ?_
    rw [List.append_nil]
    refine ⟨hasked, fun elems' h => ?_⟩
    cases h
    exact helems rfl
  | error e =>
    refine Adds.pure ?_
    rw [List.append_nil]
    exact ⟨hasked, fun _ h => by cases h⟩

/-! ## The layer -/

/-- The input that is handed on, or the error in the place of the outcome. -/
def rewrite {σ : Type} (l : SigningLayer σ) : (s : Shape) → s.Input → Attempt σ s.Input
  | .call, c => l.call none c
  | .callContext, (ctx, c) => do return (ctx, ← l.call (some ctx) c)
  | .batch, elems => l.batch none elems
  | .batchContext, (ctx, elems) => do return (ctx, ← l.batch (some ctx) elems)

/-- **The layer hands on what it makes of the input**, and nothing after an error. -/
theorem layer_eq_bind {σ : Type} (l : SigningLayer σ) (s : Shape) (next : Handler σ s)
    (input : s.Input) : l.layer s next input = l.rewrite s input >>= next := by
  cases s <;> simp [layer, rewrite]

/-- **Of an input, exactly the parts that send a transaction are changed.** -/
theorem probing_rewrite (s : Shape) (input : s.Input)
    (hr : (Reader.ofProvider l.inner (s.context? input)).Tells asked) :
    Probing asked (l.rewrite s input) fun input' new =>
      s.Rewritten (l.Signs (s.context? input) asked new) input input' := by
  cases s with
  | call => exact probing_call hr input
  | batch => exact probing_batch hr input
  | callContext => exact (probing_call hr input.2).map fun _ _ hc => ⟨rfl, hc⟩
  | batchContext => exact (probing_batch hr input.2).map fun _ _ helems => ⟨rfl, helems⟩

/-- A batch in which nothing sends a transaction stays as it is, and nothing is done. -/
theorem signBatch_eq_pure {σ : Type} (l : SigningLayer σ) (ctx : Option Context)
    {elems : List BatchElem} (h : sendTransaction ∉ elems.map (·.method)) :
    l.signBatch ctx elems = pure (.ok (), elems) := by
  induction elems with
  | nil => rfl
  | cons e rest ih =>
    rw [List.map_cons, List.mem_cons, not_or] at h
    rw [signBatch, if_neg fun hm => h.1 (beq_iff_eq.mp hm).symm, ih h.2]
    rfl

/-- **An input that sends no transaction stays as it is**, and nothing is done. -/
theorem rewrite_eq_pure {σ : Type} (l : SigningLayer σ) {s : Shape} {input : s.Input}
    (h : sendTransaction ∉ s.methods input) : l.rewrite s input = pure input := by
  have hcall (ctx : Option Context) {c : Call} (h : sendTransaction ∉ [c.method]) :
      l.call ctx c = pure c := by
    rw [List.mem_singleton] at h
    rw [call, signCall, if_neg fun hm => h (beq_iff_eq.mp hm).symm]
    rfl
  have hbatch (ctx : Option Context) {elems : List BatchElem}
      (h : sendTransaction ∉ elems.map (·.method)) : l.batch ctx elems = pure elems := by
    rw [batch, l.signBatch_eq_pure ctx h]
    rfl
  cases s with
  | call => exact hcall none h
  | batch => exact hbatch none h
  | callContext =>
    obtain ⟨ctx, c⟩ := input
    rw [rewrite, hcall (some ctx) h]
    rfl
  | batchContext =>
    obtain ⟨ctx, elems⟩ := input
    rw [rewrite, hbatch (some ctx) h]
    rfl

end SigningLayer

end EthClient
