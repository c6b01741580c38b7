import EthClient.Proofs.Batches
import EthClient.Proofs.Pipeline
import EthClient.Transport.Scripted

/-! # An execution starts with empty slots

The slots of a batch may be filled when it is executed, by an earlier execution or by whoever made
it. A handler is **fresh** (`Handler.Fresh`) if it makes the same of a batch whose slots are
emptied: the same outcome and the same effects. Transports are fresh (`Provider.fresh_http`,
`Provider.fresh_scripted`), and so is a client of any layers around a transport that is
(**`Client.fresh_ofTransport`**), retrying included, which sends a batch more than once.

So two batches of the same calls have the same execution, whatever is in their slots
(**`BatchElem.slots_never_leak`**). What is in the slots afterwards is from the responses: over HTTP
from the replies with the id of the element, and at a scripted node from the queue of its method
(**`ScriptedNode.respondEach_eq_ok`**). -/

namespace EthClient

variable {σ ν : Type}

/-! ## Emptied slots -/

namespace BatchElem

variable {elems elems' : List BatchElem}

/-- Slots are empty or not: emptying them again does nothing. -/
@[simp] theorem reset_reset (e : BatchElem) : e.reset.reset = e.reset := rfl

/-- Empty slots do not change the call of an element. -/
@[simp] theorem toCall_reset (e : BatchElem) : e.reset.toCall = e.toCall := rfl

/-- Elements of the same call differ in their slots only. -/
theorem map_reset_eq (h : elems.map toCall = elems'.map toCall) :
    elems.map reset = elems'.map reset := by
  have hreset : reset = ofCall ∘ toCall := rfl
  rw [hreset, ← List.map_map, ← List.map_map, h]

/-- The requests do not depend on the slots. -/
theorem toRequests_map_reset (elems : List BatchElem) :
    toRequests (elems.map reset) = toRequests elems := by
  funext first
  have hrequests : List.mapIdx (fun i e => e.toCall.toRequest (first + i)) (elems.map reset)
      = List.mapIdx (fun i e => e.toCall.toRequest (first + i)) elems :=
    List.ext_getElem? fun i => by simp [Function.comp_def]
  rw [toRequests, toRequests, hrequests]

end BatchElem

/-- **The slots are emptied before responses are put into them.** -/
theorem decodeBatch_map_reset (elems : List BatchElem) :
    decodeBatch (elems.map .reset) = decodeBatch elems := by
  have hreset : BatchElem.reset ∘ BatchElem.reset = BatchElem.reset := rfl
  funext first body
  rw [decodeBatch, decodeBatch, List.map_map, hreset]

/-- What is asked for, with the slots of a batch emptied. -/
def Shape.blank : (s : Shape) → s.Input → s.Input
  | .call, c => c
  | .callContext, input => input
  | .batch, elems => elems.map .reset
  | .batchContext, (ctx, elems) => (ctx, elems.map .reset)

namespace Shape

variable (s : Shape) (input : s.Input)

/-- The context is the same. -/
@[simp] theorem context?_blank : s.context? (s.blank input) = s.context? input := by
  cases s <;> rfl

/-- As much is asked for. -/
@[simp] theorem isVacant_blank : s.isVacant (s.blank input) = s.isVacant input := by
  cases s with
  | call | callContext => rfl
  | batch | batchContext => exact List.isEmpty_map

/-- It goes by the same name. -/
@[simp] theorem span_blank : s.span (s.blank input) = s.span input := by
  cases s <;> simp [span, blank, BatchElem.reset]

/-- It is announced in the same way. -/
@[simp] theorem announcement_blank : s.announcement (s.blank input) = s.announcement input := by
  cases s <;> simp [announcement, blank]

end Shape

/-! ## Fresh handlers -/

/-- A handler that makes the same of a batch whose slots are emptied. -/
def Handler.Fresh {s : Shape} (handle : Handler σ s) : Prop :=
  ∀ input, handle (s.blank input) = handle input

/-- **Over HTTP every execution is fresh.** -/
theorem Provider.fresh_http (h : Http) (network : Network ν) (s : Shape) :
    ((Provider.http h network).handle s).Fresh := by
  have hbatch (ctx : Option Context) (elems : List BatchElem) :
      h.batch network ctx (elems.map .reset) = h.batch network ctx elems := by
    rw [Http.batch, Http.batch, List.isEmpty_map, List.length_map, BatchElem.toRequests_map_reset,
      decodeBatch_map_reset]
  intro input
  cases s with
  | call | callContext => rfl
  | batch => exact hbatch none input
  | batchContext => exact hbatch (some input.1) input.2

namespace ScriptedNode

/-- **A scripted node does not look at the slots**: of each element it takes the call. -/
theorem respondEach_map_reset (n : ScriptedNode) (elems : List BatchElem) :
    n.respondEach (elems.map .reset) = n.respondEach elems := by
  induction elems generalizing n with
  | nil => rfl
  | cons e rest ih =>
    rw [List.map_cons, respondEach, respondEach, BatchElem.toCall_reset, BatchElem.reset_reset]
    simp only [ih]

/-- So it does for a whole batch. -/
theorem respondBatch_map_reset (n : ScriptedNode) (elems : List BatchElem) :
    n.respondBatch (elems.map .reset) = n.respondBatch elems := by
  rw [respondBatch, respondBatch, List.isEmpty_map, respondEach_map_reset]

end ScriptedNode

/-- **At a scripted node every execution is fresh.** -/
theorem Provider.fresh_scripted (latency : Nat) (s : Shape) :
    ((Provider.scripted latency).handle s).Fresh := by
  intro input
  cases s with
  | call | callContext => rfl
  | batch | batchContext =>
    simp only [Provider.scripted, Shape.blank, ScriptedNode.respondBatch_map_reset]

/-! ## Layers -/

section Layers

variable {s : Shape} {next : Handler σ s}

/-- **Every attempt is fresh**, although the batch is the same each time. -/
theorem Retry.fresh_layer (r : Retry) (hnext : next.Fresh) : (r.layer s next).Fresh := by
  intro input
  rw [Retry.layer, Retry.layer, hnext input, Shape.context?_blank]

/-- Reports do not tell what is in the slots. -/
theorem fresh_logging (hnext : next.Fresh) : (logging s next).Fresh := by
  intro input
  rw [logging, logging, hnext input, Shape.span_blank, Shape.announcement_blank]

/-- A time bound leaves the slots alone. -/
theorem Provider.fresh_withTimeout {p : Provider σ} (hp : ∀ s, (p.handle s).Fresh) (ms : Nat)
    (s : Shape) : ((p.withTimeout ms).handle s).Fresh := by
  intro input
  cases s with
  | call => rfl
  | callContext => rfl
  | batch =>
    have hbatch (ctx : Context) :
        p.handle .batchContext (ctx, input.map .reset) = p.handle .batchContext (ctx, input) :=
      hp .batchContext (ctx, input)
    simp only [withTimeout, Shape.blank, hbatch]
  | batchContext => exact hp .batchContext input

/-- A guard is there for both batches or for none. -/
theorem Provider.fresh_retrying {p : Provider σ} (hp : (p.handle s).Fresh) (r : Retry) :
    ((p.retrying r).handle s).Fresh := by
  intro input
  rw [handle_retrying, handle_retrying, Shape.isVacant_blank, r.fresh_layer hp input]

namespace SigningLayer

variable (l : SigningLayer σ) (ctx : Option Context)

/-- The elements that are signed keep their slots, and nothing else depends on these. -/
theorem signBatch_map_reset (elems : List BatchElem) :
    l.signBatch ctx (elems.map .reset)
      = (fun (outcome, signed) => (outcome, signed.map .reset)) <$> l.signBatch ctx elems := by
  induction elems with
  | nil => rfl
  | cons e rest ih =>
    have hmethod : e.reset.method = e.method := rfl
    have hparams : e.reset.params = e.params := rfl
    rw [List.map_cons, signBatch, signBatch, hmethod, hparams]
    split
    · rw [map_bind]
      refine bind_congr fun outcome => ?_
      cases outcome with
      | error err => rfl
      | ok params =>
        dsimp only
        rw [ih, bind_map_left, map_bind]
        rfl
    · rw [ih, bind_map_left, map_bind]
      rfl

/-- Signing hands on the same calls. -/
theorem fresh_layer (hnext : next.Fresh) : (l.layer s next).Fresh := by
  have hbatch (ctx : Option Context) (elems : List BatchElem) :
      l.batch ctx (elems.map .reset) = List.map .reset <$> l.batch ctx elems := by
    refine ExceptT.ext ?_
    rw [ExceptT.run_map]
    simp only [SigningLayer.batch, ExceptT.run_mk, signBatch_map_reset, bind_map_left, map_bind]
    refine bind_congr fun (outcome, signed) => ?_
    cases outcome <;> rfl
  intro input
  cases s with
  | call | callContext => rfl
  | batch =>
    simp only [layer, Shape.blank, hbatch, bind_map_left]
    exact bind_congr fun signed => hnext signed
  | batchContext =>
    simp only [layer, Shape.blank, hbatch, bind_map_left]
    exact bind_congr fun signed => hnext (input.1, signed)

end SigningLayer

end Layers

/-- **A client is fresh if its transport is**, however it is set up. -/
theorem Client.fresh_ofTransport {transport : Provider σ} (h : ∀ s, (transport.handle s).Fresh)
    (o : ClientOption) (s : Shape) : ((ofTransport transport o).toProvider.handle s).Fresh := by
  rw [handle_ofTransport_eq_retrying]
  refine Provider.fresh_retrying ?_ o.retry
  have htimed := Provider.fresh_withTimeout h o.requestTimeout.ticks s
  have hreported : (if o.logging then
        logging s ((transport.withTimeout o.requestTimeout.ticks).handle s)
      else (transport.withTimeout o.requestTimeout.ticks).handle s).Fresh := by
    split
    · exact fresh_logging htimed
    · exact htimed
  rw [beneath]
  dsimp only
  cases o.registry with
  | none => exact hreported
  | some registry => exact SigningLayer.fresh_layer _ hreported

/-- **Fresh handlers have the same execution of the same calls.** -/
theorem Provider.batch_congr {p : Provider σ} (hp : ∀ s, (p.handle s).Fresh)
    {elems elems' : List BatchElem}
    (h : elems.map BatchElem.toCall = elems'.map BatchElem.toCall) (ctx : Option Context) :
    p.batch ctx elems = p.batch ctx elems' := by
  have hreset := BatchElem.map_reset_eq h
  cases ctx with
  | none =>
    calc p.handle .batch elems = p.handle .batch (elems.map .reset) := (hp .batch elems).symm
      _ = p.handle .batch (elems'.map .reset) := by rw [hreset]
      _ = p.handle .batch elems' := hp .batch elems'
  | some ctx =>
    calc p.handle .batchContext (ctx, elems)
        = p.handle .batchContext (ctx, elems.map .reset) := (hp .batchContext (ctx, elems)).symm
      _ = p.handle .batchContext (ctx, elems'.map .reset) := by rw [hreset]
      _ = p.handle .batchContext (ctx, elems') := hp .batchContext (ctx, elems')

/-! ## Where the contents of the slots come from -/

/-- What is said for an id is in one of the replies for it. -/
theorem Reply.mem_said {α : Type} {read? : Reply → Option α} {id : Nat} {rs : List Reply} {a : α} :
    a ∈ said read? id rs ↔ ∃ r ∈ rs, r.id = id ∧ read? r = some a := by
  simp [said, and_assoc]

/-- A slot that is filled has a reply for the id of its element. -/
theorem BatchElem.reply_of_collect {id : Nat} {rs : List Reply} {e : BatchElem} :
    (∀ v, (e.collect id rs).result = some v → ⟨id, .ok v⟩ ∈ rs) ∧
      (∀ err, (e.collect id rs).error = some err → ⟨id, .error err⟩ ∈ rs) := by
  constructor
  · intro v hv
    obtain ⟨⟨_, w | w⟩, hr, rfl, hsaid⟩ := Reply.mem_said.mp (List.mem_of_getLast? hv)
    · cases hsaid
    · cases hsaid
      exact hr
  · intro err herr
    obtain ⟨⟨_, w | w⟩, hr, rfl, hsaid⟩ := Reply.mem_said.mp (List.mem_of_getLast? herr)
    · cases hsaid
      exact hr
    · cases hsaid

/-- **What is in the slots of a batch** that is answered: each element has a result or an error, and
what it has is in a reply with its id. -/
theorem decodeBatch_slots {elems filled : List BatchElem} {first i : Nat} {body : Bytes}
    {answers : List Answer} {e : BatchElem} (hanswers : decodeAnswers body = .ok answers)
    (hfilled : decodeBatch elems first body = .ok filled) (he : filled[i]? = some e) :
    i < elems.length ∧ e.isAnswered = true ∧
      (∀ v, e.result = some v → ⟨first + i, .ok v⟩ ∈ answers.filterMap Answer.reply?) ∧
      (∀ err, e.error = some err → ⟨first + i, .error err⟩ ∈ answers.filterMap Answer.reply?) := by
  obtain ⟨answers', hanswers', -, hall, rfl⟩ := decodeBatch_eq_ok_iff.mp hfilled
  obtain rfl : answers = answers' := Except.ok.inj (hanswers.symm.trans hanswers')
  rw [List.getElem?_mapIdx, Option.map_eq_some_iff] at he
  obtain ⟨e, hi, rfl⟩ := he
  obtain ⟨hlt, -⟩ := List.getElem?_eq_some_iff.mp hi
  exact ⟨hlt, BatchElem.isAnswered_collect.mpr (hall i hlt), BatchElem.reply_of_collect⟩

namespace ScriptedNode

/-- The response that has this outcome. -/
def responseOf : Except RpcError Json → Response
  | .ok v => .value v
  | .error e => .error e

/-- The responses that elements with these outcomes take from the queue of a method. -/
def taken (method : String) (elems : List BatchElem) (outcomes : List (Except RpcError Json)) :
    List Response :=
  ((elems.zip outcomes).filter fun p => p.1.method = method).map fun p => responseOf p.2

/-- The first element of a batch that is answered has the head of the queue of its method. -/
theorem respondEach_cons_eq_ok {n n' : ScriptedNode} {e : BatchElem} {rest filled : List BatchElem}
    (h : n.respondEach (e :: rest) = (.ok filled, n')) :
    ∃ (outcome : Except RpcError Json) (queue : List Response) (later : List BatchElem),
      n.queue e.method = responseOf outcome :: queue ∧ filled = e.answered outcome :: later ∧
        (n.respond e.toCall).2.respondEach rest = (.ok later, n') := by
  rcases hr : n.respond e.toCall with ⟨result, left⟩
  have hresult : outcome e.method (n.queue e.method).head? = result := congrArg Prod.fst hr
  rw [respondEach, hr] at h
  rcases hqueue : n.queue e.method with _ | ⟨response, queue⟩
  · -- there is no response for the element, so the batch fails
    rw [hqueue] at hresult
    subst hresult
    cases h
  · rw [hqueue] at hresult
    subst hresult
    rcases hlater : left.respondEach rest with ⟨later | later, after⟩ <;> cases response <;>
      simp only [List.head?_cons, outcome, hlater, Prod.mk.injEq, reduceCtorEq, false_and] at h
    · obtain ⟨hfilled, rfl⟩ := h
      exact ⟨.ok _, queue, later, rfl, (Except.ok.inj hfilled).symm, rfl⟩
    · obtain ⟨hfilled, rfl⟩ := h
      exact ⟨.error _, queue, later, rfl, (Except.ok.inj hfilled).symm, rfl⟩

/-- **A batch that is answered takes its outcomes from the queues**: each element has the next
response for its method and nothing else. -/
theorem respondEach_eq_ok {n n' : ScriptedNode} {elems filled : List BatchElem}
    (h : n.respondEach elems = (.ok filled, n')) :
    ∃ outcomes : List (Except RpcError Json), outcomes.length = elems.length ∧
      filled = List.zipWith BatchElem.answered elems outcomes ∧
      ∀ method, n.queue method = taken method elems outcomes ++ n'.queue method := by
  induction elems generalizing n filled with
  | nil =>
    cases h
    exact ⟨[], rfl, rfl, fun method => rfl⟩
  | cons e rest ih =>
    obtain ⟨outcome, queue, later, hqueue, rfl, hrest⟩ := respondEach_cons_eq_ok h
    obtain ⟨outcomes, hlength, rfl, hqueues⟩ := ih hrest
    refine ⟨outcome :: outcomes, by simp [hlength], rfl, fun method => ?_⟩
    have hnext := hqueues method
    simp only [respond] at hnext
    by_cases hm : method = e.method
    · -- the queue of this method has lost its head to the element
      subst hm
      have htail : queue = taken e.method rest outcomes ++ n'.queue e.method := by
        simpa [hqueue, BatchElem.toCall] using hnext
      rw [hqueue, htail]
      simp [taken]
    · have hother : n.queue method = taken method rest outcomes ++ n'.queue method := by
        simpa [hm, BatchElem.toCall] using hnext
      rw [hother]
      simp [taken, Ne.symm hm]

/-- So a batch is not answered if a queue is too short for its elements. -/
theorem length_le_of_respondEach {n n' : ScriptedNode} {elems filled : List BatchElem}
    (h : n.respondEach elems = (.ok filled, n')) (method : String) :
    elems.countP (fun e => e.method = method) ≤ (n.queue method).length := by
  obtain ⟨outcomes, hlength, -, hqueues⟩ := respondEach_eq_ok h
  have htaken : (taken method elems outcomes).length = elems.countP fun e => e.method = method := by
    have hfst : (elems.zip outcomes).map Prod.fst = elems := List.map_fst_zip (by omega)
    rw [taken, List.length_map, ← List.countP_eq_length_filter]
    conv_rhs => rw [← hfst, List.countP_map]
    rfl
  rw [hqueues method, List.length_append, htaken]
  exact Nat.le_add_right _ _

end ScriptedNode

/-! ## Main result -/

/-- **What was in the slots of a batch does not matter.** Let two batches have the same calls. Then:

* a body says the same for both, and a scripted node does the same with both, whatever its queues;
* over HTTP as at a scripted node both have the same execution, outcome and effects, with a context
  and without, also if it is retried and in a client with any other layers;
* what is in the slots after an exchange is from the replies in the body, and a batch fails if there
  is no reply for one of its elements;
* what is in the slots after an answer of a scripted node is from its queues, where each element has
  the next response for its method, and a batch fails if one of the queues is too short for it. -/
theorem BatchElem.slots_never_leak {elems elems' : List BatchElem}
    (hcalls : elems.map toCall = elems'.map toCall) :
    (∀ first body, decodeBatch elems first body = decodeBatch elems' first body) ∧
    (∀ n : ScriptedNode, n.respondBatch elems = n.respondBatch elems') ∧
    (∀ (ν : Type) (h : Http) (network : Network ν) (r : Retry) (o : ClientOption)
        (ctx : Option Context),
      let transport := Provider.http h network
      let client := (Client.ofTransport transport o).toProvider
      transport.batch ctx elems = transport.batch ctx elems' ∧
        (transport.retrying r).batch ctx elems = (transport.retrying r).batch ctx elems' ∧
        client.batch ctx elems = client.batch ctx elems') ∧
    (∀ (latency : Nat) (r : Retry) (o : ClientOption) (ctx : Option Context),
      let transport := Provider.scripted latency
      let client := (Client.ofTransport transport o).toProvider
      transport.batch ctx elems = transport.batch ctx elems' ∧
        (transport.retrying r).batch ctx elems = (transport.retrying r).batch ctx elems' ∧
        client.batch ctx elems = client.batch ctx elems') ∧
    (∀ (first : Nat) (body : Bytes) (answers : List Answer), decodeAnswers body = .ok answers →
      let replies := answers.filterMap Answer.reply?
      (∀ (filled : List BatchElem) (i : Nat) (e : BatchElem),
        decodeBatch elems first body = .ok filled → filled[i]? = some e →
          e.isAnswered = true ∧
          (∀ v, e.result = some v → ⟨first + i, .ok v⟩ ∈ replies) ∧
          (∀ err, e.error = some err → ⟨first + i, .error err⟩ ∈ replies)) ∧
      ((∃ i < elems.length, ∀ r ∈ replies, r.id ≠ first + i) →
        ∃ e, decodeBatch elems first body = .error e)) ∧
    (∀ n : ScriptedNode,
      (∀ filled n', n.respondBatch elems = (.ok filled, n') →
        ∃ outcomes : List (Except RpcError Json), outcomes.length = elems.length ∧
          filled = List.zipWith BatchElem.answered elems outcomes ∧
          ∀ method, n.queue method
            = ScriptedNode.taken method elems outcomes ++ n'.queue method) ∧
      ((∃ method, (n.queue method).length < elems.countP fun e => e.method = method) →
        ∃ e, (n.respondBatch elems).1 = .error e)) := by
  have hreset := map_reset_eq hcalls
  refine ⟨fun first body => ?_, fun n => ?_, fun ν h network r o ctx => ?_,
    fun latency r o ctx => ?_, fun first body answers hanswers => ⟨?_, ?_⟩, fun n => ⟨?_, ?_⟩⟩
  · rw [← decodeBatch_map_reset elems, hreset, decodeBatch_map_reset]
  · rw [← n.respondBatch_map_reset elems, hreset, n.respondBatch_map_reset]
  · have htransport := Provider.fresh_http h network
    exact ⟨Provider.batch_congr htransport hcalls ctx,
      Provider.batch_congr (fun s => Provider.fresh_retrying (htransport s) r) hcalls ctx,
      Provider.batch_congr (Client.fresh_ofTransport htransport o) hcalls ctx⟩
  · have htransport := Provider.fresh_scripted latency
    exact ⟨Provider.batch_congr htransport hcalls ctx,
      Provider.batch_congr (fun s => Provider.fresh_retrying (htransport s) r) hcalls ctx,
      Provider.batch_congr (Client.fresh_ofTransport htransport o) hcalls ctx⟩
  · intro filled i e hfilled he
    exact (decodeBatch_slots hanswers hfilled he).2
  · rintro ⟨i, hi, hnone⟩
    cases hfilled : decodeBatch elems first body with
    | error e => exact ⟨e, rfl⟩
    | ok filled =>
      obtain ⟨answers', hanswers', -, hall, -⟩ := decodeBatch_eq_ok_iff.mp hfilled
      obtain rfl : answers = answers' := Except.ok.inj (hanswers.symm.trans hanswers')
      obtain ⟨r, hr, hid⟩ := hall i hi
      exact absurd hid (hnone r hr)
  · intro filled n' hfilled
    rw [ScriptedNode.respondBatch] at hfilled
    split at hfilled
    · cases hfilled
    · exact ScriptedNode.respondEach_eq_ok hfilled
  · rintro ⟨method, hshort⟩
    rcases hfilled : n.respondBatch elems with ⟨e | filled, n'⟩
    · exact ⟨e, rfl⟩
    · rw [ScriptedNode.respondBatch] at hfilled
      split at hfilled
      · cases hfilled
      · exact absurd (ScriptedNode.length_le_of_respondEach hfilled method) (by omega)

/-- An element that has an error from before and one that has a result. If a body answers the first
one only, this is an error, and if a node answers both, nothing is left of what they had. -/
theorem BatchElem.slots_never_leak_stale :
    let stale : List BatchElem :=
      [{ method := "eth_chainId", params := [], error := some .notReady },
        { method := "eth_gasPrice", params := [], result := some (.string "0x7") }]
    let empty : List BatchElem := [.ofCall ⟨"eth_chainId", []⟩, .ofCall ⟨"eth_gasPrice", []⟩]
    let body := Reply.bodyOf [⟨10, .ok (.string "0x1")⟩]
    let node : ScriptedNode :=
      { queue := fun method => if method = "eth_chainId" then [.value (.string "0x1")]
          else [.error .notReady] }
    stale.map toCall = empty.map toCall ∧
      decodeBatch stale 10 body
        = .error (.transport "missing response for batch element `eth_gasPrice`") ∧
      (node.respondBatch stale).1
        = .ok [{ method := "eth_chainId", params := [], result := some (.string "0x1") },
            { method := "eth_gasPrice", params := [], error := some .notReady }] := by
  let replies : List Reply := [⟨10, .ok (.string "0x1")⟩]
  have hread : (Document.array (Document.ofItems (Reply.toJsons replies))).IsBody
      (Reply.bodyOf replies) := by
    unfold Document.IsBody
    cbv
  intro stale empty body node
  have hanswers : decodeAnswers body = .ok [⟨10, .ok (.string (.ofText "0x1"))⟩] := by
    rw [decodeAnswers, Decoder.runSymbols_of_isBody _ hread]
    rfl
  have hcalls : stale.map toCall = empty.map toCall := rfl
  obtain ⟨hbody, hnode, -⟩ := slots_never_leak hcalls
  refine ⟨hcalls, ?_, ?_⟩
  · rw [hbody 10 body, decodeBatch, hanswers]
    rfl
  · rw [hnode node]
    rfl

end EthClient
