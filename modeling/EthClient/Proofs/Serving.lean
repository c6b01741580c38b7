import EthClient.Proofs.Contexts
import EthClient.Proofs.Freshness

/-! # Serving calls from queues

A scripted node serves each call with the first response that is left for its method.

* **Batches.** A batch does what its calls do one after the other, up to the first that is not
  answered (`ScriptedNode.serveEach`, **`ScriptedNode.gathers_respondEach`**). What it comes to is
  gathered from what the calls come to (`Gathers`).
* **Order.** `ScriptedNode.Serves` says how the calls of a method use up its queue: the responses
  that were given out, in the order of the calls, and those that are left are together the ones that
  were there or have been added. Every step of a node keeps to this, and so does every run
  (**`ScriptedNode.serves_run`**).
* **Independence.** A call does not touch the queues of other methods, so the `i`-th call of a
  method has the `i`-th response of its queue (**`ScriptedNode.filter_run_calls`**), wherever the
  calls of other methods stand. -/

namespace EthClient

/-! ## Calls one after the other -/

/-- Whether a call came to neither a value nor an error answer of the node. -/
def isUnanswered : Except ProviderError Json → Bool
  | .ok _ => false
  | .error (.rpc _) => false
  | .error _ => true

/-- Makes calls one after the other, up to the first that is not answered. -/
def Provider.callEach {σ : Type} (p : Provider σ) :
    List Call → Action σ (List (Except ProviderError Json))
  | [] => return []
  | c :: rest => do
    let outcome ← (p.call none c).run
    if isUnanswered outcome then return [outcome]
    return outcome :: (← p.callEach rest)

/-- What a batch comes to if this is what its calls come to one after the other. Either all of them
were answered and the answers are in the slots, or the last one was not and the batch fails as this
one does. -/
inductive Gathers (elems : List BatchElem) :
    List (Except ProviderError Json) → Except ProviderError (List BatchElem) → Prop where
  | answered (answers : List (Except RpcError Json)) (hlength : answers.length = elems.length) :
    Gathers elems (answers.map (·.mapError .rpc))
      (.ok (List.zipWith BatchElem.answered elems answers))
  | failed {before later : List BatchElem} {e : BatchElem} (helems : elems = before ++ e :: later)
    (answers : List (Except RpcError Json)) (hlength : answers.length = before.length)
    {failure : ProviderError} (hfailure : ∀ err, failure ≠ .rpc err) :
    Gathers elems (answers.map (·.mapError .rpc) ++ [.error failure]) (.error failure)

/-- An element that is answered is in front of the others. -/
theorem Gathers.cons {e : BatchElem} {rest : List BatchElem} {answer : Except RpcError Json}
    {outcomes : List (Except ProviderError Json)} {result : Except ProviderError (List BatchElem)}
    (h : Gathers rest outcomes result) :
    Gathers (e :: rest) (answer.mapError .rpc :: outcomes)
      (result.map (e.answered answer :: ·)) := by
  cases h with
  | answered answers hlength =>
    exact .answered (answer :: answers) (by simp [hlength])
  | @failed before later e' helems answers hlength failure hfailure =>
    have hcons : e :: rest = (e :: before) ++ e' :: later := by simp [helems]
    exact .failed hcons (answer :: answers) (by simp [hlength]) hfailure

namespace ScriptedNode

variable (n : ScriptedNode)

/-- Serves calls one after the other, up to the first that is not answered. -/
def serveEach (n : ScriptedNode) : List Call → List (Except ProviderError Json) × ScriptedNode
  | [] => ([], n)
  | c :: rest =>
    let (outcome, n) := n.respond c
    if isUnanswered outcome then ([outcome], n)
    else
      let (later, n) := n.serveEach rest
      (outcome :: later, n)

/-- The calls that are served out of some that are made one after the other. -/
def served (cs : List Call) : List Call := cs.take (n.serveEach cs).1.length

/-! ### The first call -/

section First

variable {n} {c : Call} (rest : List Call)

/-- If it is not answered, it is the last one. -/
theorem serveEach_of_unanswered (h : isUnanswered (n.respond c).1 = true) :
    n.serveEach (c :: rest) = ([(n.respond c).1], (n.respond c).2) := by
  rw [serveEach]
  exact if_pos h

/-- If it is answered, the others follow. -/
theorem serveEach_of_answered (h : isUnanswered (n.respond c).1 = false) :
    n.serveEach (c :: rest)
      = ((n.respond c).1 :: ((n.respond c).2.serveEach rest).1,
        ((n.respond c).2.serveEach rest).2) := by
  rw [serveEach]
  exact if_neg ((Bool.not_eq_true _).mpr h)

end First

/-- A queue loses its first response to a call of its method. -/
@[simp] theorem queue_respond_self (c : Call) :
    (n.respond c).2.queue c.method = (n.queue c.method).tail := by
  simp [respond]

/-- The other queues stay. -/
theorem queue_respond_of_ne {c : Call} {method : String} (h : c.method ≠ method) :
    (n.respond c).2.queue method = n.queue method := by
  simp [respond, Ne.symm h]

/-- The call is put on record. -/
@[simp] theorem requests_respond (c : Call) : (n.respond c).2.requests = n.requests ++ [c] := rfl

/-- A call is served from the queue of its method. -/
theorem fst_respond (c : Call) :
    (n.respond c).1 = outcome c.method (n.queue c.method).head? := rfl

/-- **Whatever is served is an answer, or a failure that is no error answer.** -/
theorem respond_cases (c : Call) :
    (∃ answer : Except RpcError Json, (n.respond c).1 = answer.mapError .rpc ∧
        isUnanswered (n.respond c).1 = false) ∨
      ∃ failure, (n.respond c).1 = .error failure ∧ (∀ err, failure ≠ .rpc err) ∧
        isUnanswered (n.respond c).1 = true := by
  rw [fst_respond]
  match (n.queue c.method).head? with
  | some (.value v) => exact .inl ⟨.ok v, rfl, rfl⟩
  | some (.error e) => exact .inl ⟨.error e, rfl, rfl⟩
  | some (.failure reason) => exact .inr ⟨_, rfl, nofun, rfl⟩
  | none => exact .inr ⟨_, rfl, nofun, rfl⟩

/-! ### Batches -/

/-- An element that is answered has its answer in its slot, and the batch goes on. -/
theorem respondEach_cons_of_answered {n : ScriptedNode} {e : BatchElem}
    {answer : Except RpcError Json} (h : (n.respond e.toCall).1 = answer.mapError .rpc)
    (rest : List BatchElem) :
    n.respondEach (e :: rest)
      = (((n.respond e.toCall).2.respondEach rest).1.map (e.answered answer :: ·),
        ((n.respond e.toCall).2.respondEach rest).2) := by
  rcases hr : n.respond e.toCall with ⟨result, left⟩
  rw [hr] at h
  rcases hlater : left.respondEach rest with ⟨later | later, after⟩ <;> cases answer <;>
    simp_all [respondEach, Except.mapError, Except.map, BatchElem.answered, BatchElem.reset]

/-- An element that is not answered ends the batch. -/
theorem respondEach_cons_of_failed {n : ScriptedNode} {e : BatchElem} {failure : ProviderError}
    (h : (n.respond e.toCall).1 = .error failure) (hfailure : ∀ err, failure ≠ .rpc err)
    (rest : List BatchElem) :
    n.respondEach (e :: rest) = (.error failure, (n.respond e.toCall).2) := by
  rcases hr : n.respond e.toCall with ⟨result, left⟩
  rw [hr] at h
  subst h
  rw [respondEach, hr]
  cases failure <;> first | rfl | exact absurd rfl (hfailure _)

/-- **A batch is its calls one after the other**: it leaves the same node, and what it comes to is
gathered from what they come to. -/
theorem gathers_respondEach (elems : List BatchElem) :
    let calls := n.serveEach (elems.map BatchElem.toCall)
    (n.respondEach elems).2 = calls.2 ∧ Gathers elems calls.1 (n.respondEach elems).1 := by
  induction elems generalizing n with
  | nil => exact ⟨rfl, .answered [] rfl⟩
  | cons e rest ih =>
    obtain ⟨hleft, hgathers⟩ := ih (n.respond e.toCall).2
    rcases n.respond_cases e.toCall with
      ⟨answer, hanswer, hanswered⟩ | ⟨failure, hfailed, hfailure, hunanswered⟩
    · rw [List.map_cons, serveEach_of_answered _ hanswered, respondEach_cons_of_answered hanswer,
        hanswer]
      exact ⟨hleft, hgathers.cons⟩
    · rw [List.map_cons, serveEach_of_unanswered _ hunanswered,
        respondEach_cons_of_failed hfailed hfailure, hfailed]
      exact ⟨rfl, .failed (List.nil_append _).symm [] rfl hfailure⟩

/-- **Calls that are not served do nothing**: the record has those that are, and each of them has
taken one response from the queue of its method. -/
theorem reaches_serveEach (cs : List Call) :
    (n.serveEach cs).2.requests = n.requests ++ n.served cs ∧
      ∀ method, (n.serveEach cs).2.queue method
        = (n.queue method).drop ((n.served cs).countP fun c => c.method = method) := by
  induction cs generalizing n with
  | nil => simp [serveEach, served]
  | cons c rest ih =>
    have hhead (method : String) : (n.respond c).2.queue method
        = (n.queue method).drop (if c.method = method then 1 else 0) := by
      by_cases h : c.method = method
      · subst h
        simp
      · simp [h, n.queue_respond_of_ne h]
    by_cases h : isUnanswered (n.respond c).1 = true
    · rw [served, serveEach_of_unanswered rest h]
      exact ⟨rfl, fun method => by simp [hhead]⟩
    · rw [Bool.not_eq_true] at h
      obtain ⟨hrequests, hqueue⟩ := ih (n.respond c).2
      rw [served, serveEach_of_answered rest h]
      refine ⟨?_, fun method => ?_⟩
      · simp [hrequests, served]
      · rw [hqueue, hhead, List.drop_drop, List.length_cons, List.take_succ_cons,
          List.countP_cons, Nat.add_comm]
        simp [served]

end ScriptedNode

/-- At a scripted node this happens whatever the time and the latency are. -/
theorem Provider.callEach_scripted (latency : Nat) (cs : List Call) (env : Env ScriptedNode) :
    ((Provider.scripted latency).callEach cs env).1 = (env.node.serveEach cs).1 ∧
      ((Provider.scripted latency).callEach cs env).2.node = (env.node.serveEach cs).2 := by
  induction cs generalizing env with
  | nil => exact ⟨rfl, rfl⟩
  | cons c rest ih =>
    let env' : Env ScriptedNode :=
      { env.elapse latency with node := (env.node.respond c).2 }
    have hcall : ((Provider.scripted latency).call none c).run env
        = ((env.node.respond c).1, env') :=
      run_waitIn_atNode (env.spares_none latency) fun n : ScriptedNode => n.respond c
    obtain ⟨houtcomes, hnode⟩ := ih env'
    rw [callEach, run_action_bind, hcall]
    by_cases h : isUnanswered (env.node.respond c).1 = true
    · rw [ScriptedNode.serveEach_of_unanswered rest h]
      dsimp only
      rw [if_pos h]
      exact ⟨rfl, rfl⟩
    · rw [ScriptedNode.serveEach_of_answered rest ((Bool.not_eq_true _).mp h)]
      dsimp only
      rw [if_neg h]
      exact ⟨congrArg _ houtcomes, hnode⟩

namespace ScriptedNode

/-! ## Runs -/

/-- What can be done at a node. -/
inductive Op where
  | push (method : String) (r : Response)
  | call (c : Call)
  | batch (elems : List BatchElem)
  | subscribe (topic : String) (params : List Param)
  | notify (topic : String) (value : Json)
  | unsubscribe (s : Subscription)
  | close
  | receive (s : Subscription)

/-- The node after an operation. -/
def perform (n : ScriptedNode) : Op → ScriptedNode
  | .push method r => n.push method r
  | .call c => (n.respond c).2
  | .batch elems => (n.respondBatch elems).2
  | .subscribe topic params => (n.subscribe topic params).2
  | .notify topic value => n.notify topic value
  | .unsubscribe s => n.unsubscribe s
  | .close => n.close
  | .receive s => (n.receive s).2

/-- The node after some operations. -/
def performAll (n : ScriptedNode) (ops : List Op) : ScriptedNode := ops.foldl perform n

/-- What some operations let be seen, one after the other. -/
def trace {α : Type} (seen : ScriptedNode → Op → List α) : ScriptedNode → List Op → List α
  | _, [] => []
  | n, op :: rest => seen n op ++ trace seen (n.perform op) rest

/-- The calls that are served in an operation, each with what it comes to. -/
def exchanges (n : ScriptedNode) : Op → List (Call × Except ProviderError Json)
  | .call c => [(c, (n.respond c).1)]
  | .batch elems => (elems.map BatchElem.toCall).zip (n.serveEach (elems.map BatchElem.toCall)).1
  | _ => []

/-- The response that an operation adds to the queue of a method. -/
def Op.added (method : String) : Op → List Response
  | .push m r => if m = method then [r] else []
  | _ => []

/-- Receiving changes one channel at most. -/
theorem exists_channels_receive (n : ScriptedNode) (s : Subscription) :
    ∃ channels, (n.receive s).2 = { n with channels } ∧ channels.length = n.channels.length ∧
      ∀ i, i ≠ s.channel → channels[i]? = n.channels[i]? := by
  unfold receive
  split
  · exact ⟨n.channels, rfl, rfl, fun _ _ => rfl⟩
  · split
    · exact ⟨_, rfl, List.length_set, fun i hi => List.getElem?_set_ne hi.symm⟩
    · exact ⟨n.channels, rfl, rfl, fun _ _ => rfl⟩

/-! ### How a queue is used up -/

/-- While the queue of a method went from that of one node to that of another, some responses were
added to it, and these exchanges took responses from it: what was given out, in the order of the
calls, and what is left are together what was there and what was added. A call can go without a
response. -/
def Serves (method : String) (n n' : ScriptedNode) (added : List Response)
    (es : List (Call × Except ProviderError Json)) : Prop :=
  ∃ taken : List (Option Response),
    (es.filter fun e => e.1.method = method).map (·.2) = taken.map (outcome method) ∧
      n.queue method ++ added = taken.filterMap id ++ n'.queue method

section Serves

variable {method : String} {n n' n'' : ScriptedNode} {added added' : List Response}
variable {es es' : List (Call × Except ProviderError Json)}

/-- Nothing happens to the queue. -/
theorem Serves.of_queue_eq (h : n'.queue method = n.queue method)
    (hes : ∀ e ∈ es, e.1.method ≠ method) : Serves method n n' [] es := by
  refine ⟨[], ?_, by simp [h]⟩
  have hnone : (es.filter fun e => e.1.method = method) = [] :=
    List.filter_eq_nil_iff.mpr fun e he => by simp [hes e he]
  simp [hnone]

/-- Nothing happens at all. -/
theorem Serves.idle (h : n'.queue method = n.queue method) : Serves method n n' [] [] :=
  .of_queue_eq h fun _ he => absurd he List.not_mem_nil

/-- **One thing after the other.** -/
theorem Serves.trans (h : Serves method n n' added es) (h' : Serves method n' n'' added' es') :
    Serves method n n'' (added ++ added') (es ++ es') := by
  obtain ⟨taken, houtcomes, hqueue⟩ := h
  obtain ⟨taken', houtcomes', hqueue'⟩ := h'
  refine ⟨taken ++ taken', ?_, ?_⟩
  · simp [houtcomes, houtcomes']
  · calc n.queue method ++ (added ++ added')
        = taken.filterMap id ++ (n'.queue method ++ added') := by
          rw [← List.append_assoc, hqueue, List.append_assoc]
      _ = (taken ++ taken').filterMap id ++ n''.queue method := by
          rw [hqueue', List.filterMap_append, List.append_assoc]

/-- A call takes the first response of its queue, if there is one. -/
theorem serves_respond (method : String) (n : ScriptedNode) (c : Call) :
    Serves method n (n.respond c).2 [] [(c, (n.respond c).1)] := by
  by_cases h : c.method = method
  · subst h
    refine ⟨[(n.queue c.method).head?], by simp [fst_respond], ?_⟩
    cases hq : n.queue c.method <;> simp [hq]
  · exact .of_queue_eq (n.queue_respond_of_ne h) (by simpa using h)

/-- So do calls one after the other. -/
theorem serves_serveEach (method : String) (n : ScriptedNode) (cs : List Call) :
    Serves method n (n.serveEach cs).2 [] (cs.zip (n.serveEach cs).1) := by
  induction cs generalizing n with
  | nil => exact .idle rfl
  | cons c rest ih =>
    by_cases h : isUnanswered (n.respond c).1 = true
    · rw [serveEach_of_unanswered rest h]
      simpa using n.serves_respond method c
    · rw [serveEach_of_answered rest ((Bool.not_eq_true _).mp h)]
      exact (n.serves_respond method c).trans (ih _)

/-- **Every operation keeps to the queues**, and only pushing adds to them. -/
theorem serves_perform (method : String) (n : ScriptedNode) (op : Op) :
    Serves method n (n.perform op) (op.added method) (n.exchanges op) := by
  cases op with
  | push m r =>
    by_cases h : m = method
    · subst h
      exact ⟨[], rfl, by simp [perform, push, Op.added]⟩
    · have hadded : (Op.push m r).added method = [] := if_neg h
      rw [hadded]
      exact .idle (by simp [perform, push, Ne.symm h])
  | call c => exact n.serves_respond method c
  | batch elems =>
    by_cases h : elems = []
    · subst h
      exact .of_queue_eq rfl nofun
    · have hbatch : n.perform (.batch elems) = (n.serveEach (elems.map BatchElem.toCall)).2 := by
        rw [← (n.gathers_respondEach elems).1]
        simp [perform, respondBatch, h]
      rw [hbatch]
      exact n.serves_serveEach method _
  | receive s =>
    obtain ⟨channels, hleft, -⟩ := n.exists_channels_receive s
    refine .idle ?_
    rw [perform, hleft]
  | subscribe | notify | unsubscribe | close => exact .idle rfl

/-- **So does every run.** -/
theorem serves_run (method : String) (n : ScriptedNode) (ops : List Op) :
    Serves method n (n.performAll ops) (ops.flatMap (Op.added method))
      (n.trace exchanges ops) := by
  induction ops generalizing n with
  | nil => exact .idle rfl
  | cons op rest ih => exact (n.serves_perform method op).trans (ih _)

end Serves

/-! ### Calls of several methods -/

/-- **The `i`-th call of a method has the `i`-th response of its queue**, and calls of other methods
have no part in this. -/
theorem filter_run_calls (n : ScriptedNode) (cs : List Call) (method : String) :
    (n.trace exchanges (cs.map .call)).filter (fun e => e.1.method = method)
        = ((cs.filter fun c => c.method = method).mapIdx fun i c =>
            (c, outcome method (n.queue method)[i]?)) ∧
      (n.performAll (cs.map .call)).queue method
        = (n.queue method).drop (cs.countP fun c => c.method = method) := by
  induction cs generalizing n with
  | nil => exact ⟨rfl, rfl⟩
  | cons c rest ih =>
    obtain ⟨hexchanges, hqueue⟩ := ih (n.respond c).2
    have htrace : n.trace exchanges ((c :: rest).map .call)
        = (c, (n.respond c).1) :: (n.respond c).2.trace exchanges (rest.map .call) := rfl
    have hperform : n.performAll ((c :: rest).map .call)
        = (n.respond c).2.performAll (rest.map .call) := rfl
    rw [htrace, hperform, hqueue]
    by_cases h : c.method = method
    · subst h
      rw [List.filter_cons_of_pos (by simp), hexchanges]
      refine ⟨?_, by simp⟩
      simp [List.mapIdx_cons, fst_respond, List.head?_eq_getElem?]
    · rw [List.filter_cons_of_neg (by simpa using h), hexchanges, n.queue_respond_of_ne h]
      simp [h]

/-! ## Main result -/

/-- **A batch is its calls, and queues are served in order.**

* Whatever a node holds and however late it answers, a batch that has elements leaves the node as
  its calls do that are made one after the other until one of them is not answered. If all are
  answered, every element has in its slot what its call comes to; if not, the batch fails as the
  last call does. The calls behind that one are not put on record and take no response.
* If calls are rearranged, but those of each method keep their order, then every call comes to the
  same, and the same responses are left.
* In every run, the calls of a method, those of batches included, are given the responses of its
  queue in the order in which they were pushed; those that were given out and those that are left
  are all there have been, and the first of those that are left is for the next call. -/
theorem batch_is_its_calls :
    (∀ (latency : Nat) (env : Env ScriptedNode) (elems : List BatchElem), elems ≠ [] →
      let calls := (Provider.scripted latency).callEach (elems.map BatchElem.toCall) env
      let batch := ((Provider.scripted latency).batch none elems).run env
      let served := (elems.map BatchElem.toCall).take calls.1.length
      batch.2.node = calls.2.node ∧ Gathers elems calls.1 batch.1 ∧
        batch.2.node.requests = env.node.requests ++ served ∧
        ∀ method, batch.2.node.queue method
          = (env.node.queue method).drop (served.countP fun c => c.method = method)) ∧
    (∀ (n : ScriptedNode) (cs cs' : List Call),
      (∀ method : String, (cs.filter fun c => c.method = method)
        = cs'.filter fun c => c.method = method) →
      ∀ method : String, ((n.trace exchanges (cs.map .call)).filter fun e => e.1.method = method)
          = ((n.trace exchanges (cs'.map .call)).filter fun e => e.1.method = method) ∧
        (n.performAll (cs.map .call)).queue method = (n.performAll (cs'.map .call)).queue method) ∧
    ∀ (n : ScriptedNode) (ops : List Op) (method : String),
      Serves method n (n.performAll ops) (ops.flatMap (Op.added method))
          (n.trace exchanges ops) ∧
        ∀ c : Call, c.method = method → ((n.performAll ops).respond c).1
          = outcome method ((n.performAll ops).queue method).head? := by
  refine ⟨fun latency env elems helems => ?_, fun n cs cs' hsame method => ?_,
    fun n ops method => ⟨n.serves_run method ops, ?_⟩⟩
  · let cs := elems.map BatchElem.toCall
    obtain ⟨houtcomes, hnode⟩ := Provider.callEach_scripted latency cs env
    have hbatch : ((Provider.scripted latency).batch none elems).run env
        = ((env.node.respondEach elems).1,
          { env.elapse latency with node := (env.node.respondEach elems).2 }) := by
      have hrun := run_waitIn_atNode (env.spares_none latency)
        fun n : ScriptedNode => n.respondBatch elems
      rw [respondBatch, if_neg (by simpa using helems)] at hrun
      exact hrun
    obtain ⟨hleft, hgathers⟩ := env.node.gathers_respondEach elems
    obtain ⟨hrequests, hqueue⟩ := env.node.reaches_serveEach cs
    intro calls batch served
    have hserved : served = env.node.served cs := by rw [ScriptedNode.served, ← houtcomes]
    have hbatchNode : batch.2.node = (env.node.serveEach cs).2 := by
      rw [← hleft]
      exact congrArg (·.2.node) hbatch
    have hoverall : batch.1 = (env.node.respondEach elems).1 := congrArg (·.1) hbatch
    rw [hbatchNode, hserved, hoverall]
    exact ⟨hnode.symm, houtcomes ▸ hgathers, hrequests, hqueue⟩
  · obtain ⟨hexchanges, hqueue⟩ := n.filter_run_calls cs method
    obtain ⟨hexchanges', hqueue'⟩ := n.filter_run_calls cs' method
    rw [hexchanges, hexchanges', hqueue, hqueue', List.countP_eq_length_filter,
      List.countP_eq_length_filter, hsame method]
    exact ⟨rfl, rfl⟩
  · rintro c rfl
    exact fst_respond _ c

/-- A batch of three whose second element finds the node out of reach: the third one is not on
record and leaves its response to the next call. Two calls of different methods come to the same in
either order. -/
theorem batch_is_its_calls_reset :
    let gasPrice : Call := ⟨"eth_gasPrice", []⟩
    let chainId : Call := ⟨"eth_chainId", []⟩
    let five : Response := .value (.string "0x5")
    let six : Response := .value (.string "0x6")
    let node : ScriptedNode :=
      { queue := fun m => if m = "eth_gasPrice" then [five, six] else [.failure "reset"] }
    let elems : List BatchElem := [.ofCall gasPrice, .ofCall chainId, .ofCall gasPrice]
    let batch := ((Provider.scripted 7).batch none elems).run { node }
    (elems ≠ [] ∧ batch.1 = .error (.transport "reset") ∧
      batch.2.node.requests = [gasPrice, chainId] ∧ batch.2.node.queue "eth_gasPrice" = [six]) ∧
    (∀ method : String, ([gasPrice, chainId].filter fun c => c.method = method)
      = [chainId, gasPrice].filter fun c => c.method = method) ∧
    ∀ method : String,
      ((node.trace exchanges [.call gasPrice, .call chainId]).filter fun e => e.1.method = method)
        = (node.trace exchanges [.call chainId, .call gasPrice]).filter
            fun e => e.1.method = method := by
  intro gasPrice chainId five six node elems batch
  obtain ⟨hbatches, hcommute, -⟩ := batch_is_its_calls
  have helems : elems ≠ [] := nofun
  obtain ⟨-, -, hrequests, hqueue⟩ := hbatches 7 { node } elems helems
  have hsame (method : String) : ([gasPrice, chainId].filter fun c => c.method = method)
      = [chainId, gasPrice].filter fun c => c.method = method := by
    by_cases h : "eth_gasPrice" = method
    · subst h
      rfl
    · by_cases h' : "eth_chainId" = method
      · subst h'
        rfl
      · simp [gasPrice, chainId, h, h']
  exact ⟨⟨helems, rfl, hrequests, hqueue "eth_gasPrice"⟩, hsame,
    fun method => (hcommute node [gasPrice, chainId] [chainId, gasPrice] hsame method).1⟩

end ScriptedNode

end EthClient
