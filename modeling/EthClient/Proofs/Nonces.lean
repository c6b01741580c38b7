import EthClient.Proofs.Forwarding
import EthClient.Proofs.Layers

/-! # Nonces of signed transactions

A nonce that is not set is asked for anew each time that a transaction is signed, and nothing is
remembered between two of them: neither between the elements of a batch nor between the attempts of
a call. So the nonces are those that the node tells. As long as the questions for the counts of a
sender do not change their outcomes (`SteadyOutcomes`), all transactions of this sender that left
the nonce unset have one count for it. A question that fails once and is answered another time has
changed its outcome: the other block tag is asked for then, for which the count may be another one.

* The elements of one batch share the count (**`SigningLayer.batch_signs_one_count`**), so that only
  one of them can be included (**`SigningLayer.batch_repeats_nonce`**).
* The attempts of one call submit it (**`Client.send_submits_one_nonce`**), as they should; if an
  outcome changes between two attempts, they submit different nonces (**`Client.send_resigns`**). -/

namespace EthClient

variable {X σ : Type}

/-! ## Outcomes that do not change -/

/-- While the entries were put behind the log, the question for the count of an address at a block
tag did not change its outcome: it was answered with one number each time, or failed each time, with
whatever errors. -/
def SteadyOutcomes (asked : (q : Query) → Except ProviderError q.Answer → X → Prop)
    (new : List X) : Prop :=
  ∀ a tag, ∀ x ∈ new, ∀ y ∈ new, ∀ answer answer',
    asked (.transactionCount a tag) answer x → asked (.transactionCount a tag) answer' y →
      answer.toOption = answer'.toOption

section Counts

variable {asked : (q : Query) → Except ProviderError q.Answer → X → Prop}
variable {l : SigningLayer (Logged X σ)} {ctx : Option Context}

/-- **If no outcome changes, one count is told** for an address. -/
theorem CountTold.unique {a : Address} {n m : Amount} {new : List X}
    (hsteady : SteadyOutcomes asked new) (hn : CountTold asked a n new)
    (hm : CountTold asked a m new) : n = m := by
  -- the count with pending transactions is told both times or fails both times
  rcases hn with ⟨x, hx, hn⟩ | ⟨⟨e, x, hx, hfail⟩, y, hy, hn⟩
  · rcases hm with ⟨x', hx', hm⟩ | ⟨⟨e', x', hx', hfail'⟩, -⟩
    · exact Option.some.inj (hsteady a .pending x hx x' hx' _ _ hn hm)
    · cases hsteady a .pending x hx x' hx' _ _ hn hfail'
  · rcases hm with ⟨x', hx', hm⟩ | ⟨-, y', hy', hm⟩
    · cases hsteady a .pending x hx x' hx' _ _ hfail hm
    · exact Option.some.inj (hsteady a .latest y hy y' hy' _ _ hn hm)

/-- So every address has one count. -/
theorem SteadyOutcomes.exists_count {new : List X} (h : SteadyOutcomes asked new) :
    ∃ count : Address → Amount, ∀ a n, CountTold asked a n new → n = count a := by
  classical
  refine ⟨fun a => if h : ∃ n, CountTold asked a n new then h.choose else 0, fun a n hn => ?_⟩
  have hex : ∃ n, CountTold asked a n new := ⟨n, hn⟩
  dsimp only
  rw [dif_pos hex]
  exact hn.unique h hex.choose_spec

/-- What was signed has the nonce that was set. -/
theorem Signed.For.nonce_of_set {args : TransactionArgs} {s : Signed} {part : List X}
    (h : s.For l ctx asked args part) {n : Amount} (hn : args.nonce = some n) :
    s.tx.fields.nonce = some n := by
  obtain ⟨m, hm, hset | ⟨hunset, -⟩⟩ := h.nonce
  · rw [hm, ← hset, hn]
  · rw [hn] at hunset
    cases hunset

/-- What was signed has the nonce that was set, or else the count of the signer. -/
theorem Signed.For.nonce_eq {args : TransactionArgs} {s : Signed} {part new : List X}
    (h : s.For l ctx asked args part) (hpart : part <:+: new) {count : Address → Amount}
    (hcount : ∀ a n, CountTold asked a n new → n = count a) :
    s.tx.fields.nonce = some (args.nonce.getD (count s.signer.address)) := by
  obtain ⟨n, hn, hset | ⟨hunset, htold⟩⟩ := h.nonce
  · rw [hn, hset, Option.getD_some]
  · rw [hn, hunset, Option.getD_none, hcount _ n (htold.subset hpart.subset)]

/-- If no nonce was set, the node told this count. -/
theorem Signed.For.told_of_unset {args : TransactionArgs} {s : Signed} {part new : List X}
    (h : s.For l ctx asked args part) (hpart : part <:+: new) {count : Address → Amount}
    (hcount : ∀ a n, CountTold asked a n new → n = count a) (hunset : args.nonce = none) :
    CountTold asked s.signer.address (count s.signer.address) new := by
  obtain ⟨n, -, hset | ⟨-, htold⟩⟩ := h.nonce
  · rw [hunset] at hset
    cases hset
  · have htold := htold.subset hpart.subset
    rw [← hcount _ n htold]
    exact htold

end Counts

/-- Whoever takes the payload apart reads the nonce of what was signed. -/
theorem Signed.nonce?_raw {s : Signed} {n : Amount} (hn : s.tx.fields.nonce = some n)
    (hlen : s.raw.length < 2 ^ 64) : SignedPayload.nonce? s.raw = some n.toNat :=
  SignedPayload.nonce?_signedRlp hn s.signature hlen

/-! ## The elements of a batch -/

/-- **Elements of one sender share its count.** If no question for a count changes its outcome, from
an answer to a failure or back included, a batch that is signed has one count for each sender: an
element that set its nonce is signed with it, and every element of the sender that left it unset is
signed with the count, which the node told. This is the nonce that is read from the payload. -/
theorem SigningLayer.batch_signs_one_count (p : Provider σ) (registry : Registry)
    (ctx : Option Context) {elems signed : List BatchElem} {env env' : Env (Logged Handling σ)}
    {probes : List Handling}
    (hrun : ((SigningLayer.mk p.recording registry).batch ctx elems).run env = (.ok signed, env'))
    (hlog : env'.log = env.log ++ probes)
    (hsteady : SteadyOutcomes (Handling.Asks ctx) probes) :
    ∃ count : Address → Amount,
      List.Forall₂ (BatchElem.Rewritten fun params raw => ∃ args, ∃ s : Signed,
        argument params = .ok args ∧ registry.Chooses args.sender s.signer ∧
        s.signer.signTransaction s.tx s.chainId = .ok s.signature ∧ raw = s.raw ∧
        s.tx.fields.nonce = some (args.nonce.getD (count s.signer.address)) ∧
        (args.nonce = none →
          CountTold (Handling.Asks ctx) s.signer.address (count s.signer.address) probes) ∧
        (raw.length < 2 ^ 64 →
          SignedPayload.nonce? raw = some (args.nonce.getD (count s.signer.address)).toNat))
        elems signed := by
  obtain ⟨new, hnew, -, hsigned⟩ := SigningLayer.probing_batch
    (l := ⟨p.recording, registry⟩) (Reader.tells_recording p ctx) elems env
  rw [hrun] at hnew hsigned
  obtain rfl : new = probes := List.append_cancel_left (hnew.symm.trans hlog)
  obtain ⟨count, hcount⟩ := hsteady.exists_count
  refine ⟨count, (hsigned signed rfl).imp fun e e' he => he.mono ?_⟩
  rintro params raw ⟨args, s, part, harg, hpart, hs, rfl⟩
  have hnonce := hs.nonce_eq hpart hcount
  exact ⟨args, s, harg, hs.chosen, hs.signed, rfl, hnonce, hs.told_of_unset hpart hcount,
    Signed.nonce?_raw hnonce⟩

/-- A node whose answers do not depend on what it was asked before changes no outcome. -/
theorem steadyOutcomes_of_answers {answer : Call → Except ProviderError Json}
    {ctx : Option Context} {new : List Handling}
    (h : ∀ x ∈ new, ∃ c, x = Handling.single ctx c (answer c)) :
    SteadyOutcomes (Handling.Asks ctx) new := by
  have htold {q : Query} {a : Except ProviderError q.Answer} {x : Handling} (hx : x ∈ new)
      (hask : x.Asks ctx q a) : a = (answer q.toCall).bind fun v =>
        ProviderError.ofDecoded (q.decoder.runJson v) := by
    obtain ⟨outcome, hq, ha⟩ := hask
    obtain ⟨c, hc⟩ := h x hx
    obtain ⟨rfl, rfl⟩ := Handling.single_inj (hq.symm.trans hc)
    exact ha
  intro a tag x hx y hy n m hn hm
  rw [htold hx hn, htold hy hm]

/-- The entries of such a node are its answers. -/
theorem Reader.tells_ofAnswers (answer : Call → Except ProviderError Json)
    (ctx : Option Context) :
    (Reader.ofProvider (Provider.ofAnswers fun _ => answer).recording ctx).Tells
      fun q _ x => x = Handling.single ctx q.toCall (answer q.toCall) := by
  have hcall : ∀ c, Adds ((Provider.ofAnswers fun _ => answer).recording.call ctx c).run
      fun _ new => ∃ x, new = [x] ∧ x = Handling.single ctx c (answer c) := by
    intro c
    cases ctx <;> exact fun env => ⟨_, rfl, _, rfl, rfl⟩
  refine (tells_ofProvider hcall).mono ?_
  rintro q a x ⟨outcome, hx, -⟩
  exact hx

/-- Arguments that leave the nonce unset. -/
def TransactionArgs.unnumbered : TransactionArgs := { TransactionArgs.settled with nonce := none }

/-- A node that counts no transactions for anyone. -/
def uncounted (c : Call) : Except ProviderError Json :=
  .ok (if c.method = "eth_getTransactionCount" then .string "0x0" else .object [])

/-- A batch that sends one transaction twice. -/
def sentTwice : List BatchElem :=
  [{ method := sendTransaction, params := [.transaction .unnumbered] },
    { method := sendTransaction, params := [.transaction .unnumbered] }]

/-- Two elements that leave the nonce unset are signed with the same one. -/
theorem SigningLayer.batch_signs_one_count_twice :
    ∃ (signed : List BatchElem) (env' : Env (Logged Handling Nat)) (s s' : Signed),
      ((SigningLayer.mk (Provider.ofAnswers fun _ => uncounted).recording
          (.sole PrivateKey.one.toSigner)).batch none sentTwice).run { node := ⟨[], 0⟩ }
        = (.ok signed, env') ∧
      signed.map (·.params)
        = [[.string (Hex.marked s.raw)], [.string (Hex.marked s'.raw)]] ∧
      s.tx.fields.nonce = s'.tx.fields.nonce := by
  obtain ⟨signed, env', hrun⟩ := exists_run_eq_ok (show ((((SigningLayer.mk
    (Provider.ofAnswers fun _ => uncounted).recording
    (.sole PrivateKey.one.toSigner)).batch none sentTwice).run { node := ⟨[], 0⟩ }).1.isOk = true)
    by decide +kernel)
  obtain ⟨probes, hlog, hasked, -⟩ := probing_batch
    (l := ⟨(Provider.ofAnswers fun _ => uncounted).recording, .sole PrivateKey.one.toSigner⟩)
    (Reader.tells_ofAnswers uncounted none) sentTwice { node := ⟨[], 0⟩ }
  rw [hrun] at hlog
  have hanswers : ∀ x ∈ probes, ∃ c, x = Handling.single none c (uncounted c) := by
    intro x hx
    obtain ⟨q, _, hq⟩ := hasked x hx
    exact ⟨q.toCall, hq⟩
  obtain ⟨count, hsigned⟩ :=
    batch_signs_one_count _ _ none hrun hlog (steadyOutcomes_of_answers hanswers)
  obtain ⟨first, rest, hfirst, hrest, rfl⟩ := List.forall₂_cons_left_iff.mp hsigned
  obtain ⟨second, rest, hsecond, hnil, rfl⟩ := List.forall₂_cons_left_iff.mp hrest
  obtain rfl := List.forall₂_nil_left_iff.mp hnil
  rw [BatchElem.Rewritten, if_pos rfl] at hfirst hsecond
  obtain ⟨_, ⟨args, s, harg, hs, -, rfl, hn, -⟩, rfl⟩ := hfirst
  obtain ⟨_, ⟨args', s', harg', hs', -, rfl, hn', -⟩, rfl⟩ := hsecond
  cases harg
  cases harg'
  refine ⟨_, env', s, s', hrun, rfl, ?_⟩
  rw [hn, hn', hs.unique hs']

/-- A signer that gives every transaction the same signature. -/
def Signer.uniform : Signer where
  address := default
  signTransaction _ _ := .ok ⟨1, 1, 0⟩
  signMessage _ := .ok ⟨1, 1, 0⟩

/-- **A batch can be signed with one nonce twice.** The node counts the same for everyone all the
time, and both payloads carry its count. -/
theorem SigningLayer.batch_repeats_nonce :
    (((SigningLayer.mk (Provider.ofAnswers fun _ => uncounted) (.sole .uniform)).batch none
        sentTwice).run { node := 0 }).1.toOption.map
          (·.map fun e => SignedPayload.nonceOf? e.params)
      = some [some 0, some 0] := by
  decide +kernel

/-! ## The attempts of a call -/

/-- The nonce of the payload that a single call submits. -/
def Handling.nonce? : Handling → Option Nat
  | ⟨.call, c, _⟩ => SignedPayload.nonceOf? c.params
  | ⟨.callContext, (_, c), _⟩ => SignedPayload.nonceOf? c.params
  | _ => none

/-- The handling submits the payload of what was signed to the node, where its nonce is read. -/
structure Handling.Submits (x : Handling) (s : Signed) : Prop where
  sent : ∃ ctx outcome, x = single ctx ⟨sendRawTransaction, [.string (Hex.marked s.raw)]⟩ outcome
  nonce : s.raw.length < 2 ^ 64 → x.nonce? = s.tx.fields.nonce.map (·.toNat)

/-- So does the call that a payload is sent with. -/
theorem Handling.submits_single {s : Signed} {n : Amount} (hn : s.tx.fields.nonce = some n)
    (ctx : Option Context) (outcome : Except ProviderError Json) :
    (single ctx ⟨sendRawTransaction, [.string (Hex.marked s.raw)]⟩ outcome).Submits s where
  sent := ⟨ctx, outcome, rfl⟩
  nonce hlen := by
    have hread := (SignedPayload.nonceOf?_marked s.raw).trans (Signed.nonce?_raw hn hlen)
    rw [hn, Option.map_some]
    cases ctx <;> exact hread

/-- No question submits anything. -/
theorem Query.method_ne_sendRawTransaction (q : Query) :
    q.toCall.method ≠ sendRawTransaction := by
  cases q <;> simp [toCall, sendRawTransaction]

/-- The handlings that submit something. -/
def submissions (new : List Handling) : List Handling :=
  new.filter fun x => sendRawTransaction ∈ x.methods

/-- Nothing was submitted while only questions were asked. -/
theorem submissions_eq_nil {new : List Handling}
    (h : Questions Handling.AsksSomehow new) : submissions new = [] := by
  refine List.filter_eq_nil_iff.mpr fun x hx => ?_
  obtain ⟨q, answer, ctx, outcome, rfl, -⟩ := h x hx
  rw [Handling.methods_single, decide_eq_true_eq, List.mem_singleton]
  exact q.method_ne_sendRawTransaction.symm

/-- What was submitted is, one by one, what was signed for some arguments. -/
structure Submitted (l : SigningLayer (Logged Handling σ)) (ctx : Option Context)
    (args : TransactionArgs) (new : List Handling) (all : List Signed) : Prop where
  listed : List.Forall₂ Handling.Submits (submissions new) all
  signed : ∀ s ∈ all, ∃ part, part <:+: new ∧
    s.For l ctx Handling.AsksSomehow args part

namespace Submitted

variable {l : SigningLayer (Logged Handling σ)} {ctx : Option Context} {args : TransactionArgs}

/-- Nothing was submitted yet. -/
theorem of_submissions_eq_nil {new : List Handling} (h : submissions new = []) :
    Submitted l ctx args new [] where
  listed := by
    rw [h]
    exact .nil
  signed s hs := by cases hs

/-- **What was submitted first comes first.** -/
theorem append {new more : List Handling} {all rest : List Signed}
    (h : Submitted l ctx args new all) (h' : Submitted l ctx args more rest) :
    Submitted l ctx args (new ++ more) (all ++ rest) where
  listed := by
    rw [submissions, List.filter_append]
    exact List.rel_append h.listed h'.listed
  signed s hs := by
    rcases List.mem_append.mp hs with hs | hs
    · obtain ⟨part, hpart, hfor⟩ := h.signed s hs
      exact ⟨part, hpart.trans (List.prefix_append new more).isInfix, hfor⟩
    · obtain ⟨part, hpart, hfor⟩ := h'.signed s hs
      exact ⟨part, hpart.trans (List.suffix_append new more).isInfix, hfor⟩

/-- One payload was submitted after the questions for it. -/
theorem single {probes part : List Handling} {s : Signed}
    (hasked : Questions Handling.AsksSomehow probes) (hpart : part <:+: probes)
    (hs : s.For l ctx Handling.AsksSomehow args part) (ctx' : Option Context)
    (outcome : Except ProviderError Json) :
    Submitted l ctx args (probes ++ [.single ctx'
      ⟨sendRawTransaction, [.string (Hex.marked s.raw)]⟩ outcome]) [s] where
  listed := by
    obtain ⟨n, hn, -⟩ := hs.nonce
    rw [submissions, List.filter_append, ← submissions, submissions_eq_nil hasked, List.nil_append,
      List.filter_singleton, Handling.methods_single,
      decide_eq_true (List.mem_singleton_self sendRawTransaction), cond_true]
    exact .cons (Handling.submits_single hn ctx' outcome) .nil
  signed t ht := by
    rw [List.mem_singleton.mp ht]
    exact ⟨part, hpart.trans (List.prefix_append probes _).isInfix, hs⟩

/-- All of it was signed by one signer. -/
theorem signer_eq {new : List Handling} {all : List Signed} (h : Submitted l ctx args new all)
    {s s' : Signed} (hs : s ∈ all) (hs' : s' ∈ all) : s.signer = s'.signer := by
  obtain ⟨_, -, hfor⟩ := h.signed s hs
  obtain ⟨_, -, hfor'⟩ := h.signed s' hs'
  exact hfor.chosen.unique hfor'.chosen

end Submitted

/-- **One attempt submits at most one payload**, which was signed for the arguments. -/
theorem SigningLayer.adds_attempt {l : SigningLayer (Logged Handling σ)} {ctx : Option Context}
    {next : Call → Attempt (Logged Handling σ) Json}
    (hr : (Reader.ofProvider l.inner ctx).Tells Handling.AsksSomehow)
    (hnext : ∀ c, Adds (next c).run fun outcome new =>
      ∃ ctx', new = [Handling.single ctx' c outcome]) (args : TransactionArgs) :
    Adds (l.call ctx ⟨sendTransaction, [.transaction args]⟩ >>= next).run
      fun _ new => ∃ all, Submitted l ctx args new all := by
  refine Adds.bindOk (probing_call hr _) ?_ ?_
  · rintro c' new ⟨hasked, hc⟩
    have hsent : Call.Rewritten _ _ c' := hc c' rfl
    rw [Call.Rewritten, if_pos rfl] at hsent
    obtain ⟨_, ⟨args', s, part, harg, hpart, hs, rfl⟩, rfl⟩ := hsent
    cases harg
    refine (hnext _).mono ?_
    rintro outcome _ ⟨ctx', rfl⟩
    exact ⟨[s], .single hasked hpart hs ctx' outcome⟩
  · rintro e new ⟨hasked, -⟩
    exact ⟨[], .of_submissions_eq_nil (submissions_eq_nil hasked)⟩

/-- **All attempts of a client submit what was signed for the arguments.** -/
theorem Client.adds_call_submitted (p : Provider σ) {o : ClientOption} {registry : Registry}
    (ho : o.registry = some registry) (ctx : Option Context) (args : TransactionArgs) :
    Adds ((ofTransport p.recording o).toProvider.call ctx
        ⟨sendTransaction, [.transaction args]⟩).run fun _ new => ∃ all,
      Submitted ⟨p.recording.withTimeout o.requestTimeout.ticks, registry⟩ ctx args new all := by
  let timed := p.recording.withTimeout o.requestTimeout.ticks
  have hreports {s : Shape} {input : s.Input}
      {good : Except ProviderError s.Output → List Handling → Prop}
      (h : Adds (timed.handle s input).run good) :
      Adds ((if o.logging then logging s (timed.handle s) else timed.handle s) input).run good := by
    by_cases hl : o.logging = true
    · rw [if_pos hl]
      exact adds_logging h
    · rw [if_neg hl]
      exact h
  have hattempts {r : Retry} {attempt : Attempt (Logged Handling σ) Json}
      (h : Adds attempt.run fun _ new => ∃ all, Submitted ⟨timed, registry⟩ ctx args new all) :
      Adds (r.run ctx attempt (r.maxAttempts - 1) 0)
        fun _ new => ∃ all, Submitted ⟨timed, registry⟩ ctx args new all := by
    refine r.adds_run ctx ⟨[], .of_submissions_eq_nil rfl⟩ ?_ h _ _
    rintro new more ⟨all, hall⟩ ⟨rest, hrest⟩
    exact ⟨all ++ rest, hall.append hrest⟩
  have htells := Reader.tells_withTimeout p o.requestTimeout.ticks ctx
  -- a context of the caller bounds all attempts, and each attempt has its own bound without one
  cases ctx with
  | none =>
    rw [Provider.call, handle_ofTransport p.recording o ho]
    refine hattempts (SigningLayer.adds_attempt (l := ⟨timed, registry⟩) htells (fun c => ?_) args)
    exact hreports (p.adds_withTimeout_call o.requestTimeout.ticks none c)
  | some ctx =>
    rw [Provider.call, handle_ofTransport p.recording o ho]
    refine hattempts (SigningLayer.adds_attempt (l := ⟨timed, registry⟩) htells (fun c => ?_) args)
    exact hreports (p.adds_withTimeout_call o.requestTimeout.ticks (some ctx) c)

/-- **The attempts of one call submit one nonce**, as far as the node tells one. What reaches the
transport while a client sends a transaction was signed, submission by submission, for the arguments
of the call: always for the same sender, with the nonce that is set or with a count that the node
told for this sender. It is the nonce that is read from the submitted payload. So all of it has the
same nonce if the nonce is set or if no question for a count changes its outcome during the call,
from an answer to a failure or back included. -/
theorem Client.send_submits_one_nonce (p : Provider σ) {o : ClientOption} {registry : Registry}
    (ho : o.registry = some registry) (ctx : Option Context) (args : TransactionArgs)
    {env env' : Env (Logged Handling σ)} {outcome : Except ProviderError Hash}
    {new : List Handling}
    (hrun : ((ofTransport p.recording o).toProvider.send ctx args).run env = (outcome, env'))
    (hlog : env'.log = env.log ++ new) :
    ∃ all : List Signed, List.Forall₂ Handling.Submits (submissions new) all ∧
      (∀ s ∈ all, registry.Chooses args.sender s.signer ∧
        s.tx.fields.sender = some s.signer.address ∧
        s.signer.signTransaction s.tx s.chainId = .ok s.signature ∧
        ∃ n, s.tx.fields.nonce = some n ∧ (args.nonce = some n ∨ args.nonce = none ∧
          CountTold Handling.AsksSomehow s.signer.address n new)) ∧
      (∀ s ∈ all, ∀ s' ∈ all, s.tx.fields.sender = s'.tx.fields.sender) ∧
      (args.nonce.isSome ∨ SteadyOutcomes Handling.AsksSomehow new →
        ∀ s ∈ all, ∀ s' ∈ all, s.tx.fields.nonce = s'.tx.fields.nonce) := by
  have hsend : Adds ((ofTransport p.recording o).toProvider.send ctx args).run
      fun _ new => ∃ all,
        Submitted ⟨p.recording.withTimeout o.requestTimeout.ticks, registry⟩ ctx args new all := by
    refine (adds_call_submitted p ho ctx args).bindOk (fun v new h => ?_) fun e new h => h
    exact Adds.pure (by rw [List.append_nil]; exact h)
  obtain ⟨new', hnew, all, hall⟩ := hsend env
  rw [hrun] at hnew
  obtain rfl : new' = new := List.append_cancel_left (hnew.symm.trans hlog)
  refine ⟨all, hall.listed, fun s hs => ?_, fun s hs s' hs' => ?_, fun hone s hs s' hs' => ?_⟩
  · obtain ⟨part, hpart, hfor⟩ := hall.signed s hs
    obtain ⟨n, hn, hset | ⟨hunset, htold⟩⟩ := hfor.nonce
    · exact ⟨hfor.chosen, hfor.sender, hfor.signed, n, hn, .inl hset⟩
    · exact ⟨hfor.chosen, hfor.sender, hfor.signed, n, hn, .inr ⟨hunset, htold.subset hpart.subset⟩⟩
  · obtain ⟨_, -, hfor⟩ := hall.signed s hs
    obtain ⟨_, -, hfor'⟩ := hall.signed s' hs'
    rw [hfor.sender, hfor'.sender, hall.signer_eq hs hs']
  · obtain ⟨part, hpart, hfor⟩ := hall.signed s hs
    obtain ⟨part', hpart', hfor'⟩ := hall.signed s' hs'
    -- both nonces are the one that is set, or both are the count of the one signer
    rcases hone with hset | hsteady
    · obtain ⟨n, hn⟩ := Option.isSome_iff_exists.mp hset
      rw [hfor.nonce_of_set hn, hfor'.nonce_of_set hn]
    · obtain ⟨count, hcount⟩ := hsteady.exists_count
      rw [hfor.nonce_eq hpart hcount, hfor'.nonce_eq hpart' hcount, hall.signer_eq hs hs']

/-- A node that loses the first submission but counts it, so that the next attempt is told another
count. -/
def counting (made : Nat) (c : Call) : Except ProviderError Json :=
  if c.method = "eth_getTransactionCount" then .ok (.string (if made < 3 then "0x0" else "0x1"))
  else if c.method = sendRawTransaction ∧ made < 3 then .error (.transport "lost")
  else .ok (.object [])

/-- A nonce that is set is submitted by both attempts when the first one is lost. -/
theorem Client.send_submits_one_nonce_twice :
    ∃ (outcome : Except ProviderError Hash) (env' : Env (Logged Handling Nat)),
      ((ofTransport (Provider.ofAnswers counting).recording
        { retryCount := 2, registry := some (.sole PrivateKey.one.toSigner) }).toProvider.send none
          .settled).run { node := ⟨[], 0⟩ } = (outcome, env') ∧
      (submissions env'.log).length = 2 ∧
      ∃ all : List Signed, List.Forall₂ Handling.Submits (submissions env'.log) all ∧
        ∀ s ∈ all, s.tx.fields.nonce = some 0 := by
  obtain ⟨outcome, env', hrun, htwo⟩ : ∃ outcome env',
      ((ofTransport (Provider.ofAnswers counting).recording
        { retryCount := 2, registry := some (.sole PrivateKey.one.toSigner) }).toProvider.send none
          .settled).run { node := ⟨[], 0⟩ } = (outcome, env') ∧
        (submissions env'.log).length = 2 :=
    ⟨_, _, rfl, by decide +kernel⟩
  obtain ⟨all, hall, hsigned, -⟩ := send_submits_one_nonce (.ofAnswers counting) rfl none .settled
    hrun (List.nil_append env'.log).symm
  refine ⟨outcome, env', hrun, htwo, all, hall, fun s hs => ?_⟩
  obtain ⟨-, -, -, n, hn, hset | ⟨hunset, -⟩⟩ := hsigned s hs
  · rw [hn, ← hset]
    rfl
  · cases hunset

/-- **Two attempts of one call can submit two nonces.** The first submission is counted but its
answer is lost, and the second attempt is signed anew with the next nonce. -/
theorem Client.send_resigns :
    (submissions (((ofTransport (Provider.ofAnswers counting).recording
        { retryCount := 2, registry := some (.sole .uniform) }).toProvider.send none
          .unnumbered).run { node := ⟨[], 0⟩ }).2.log).map Handling.nonce?
      = [some 0, some 1] := by
  decide +kernel

end EthClient
