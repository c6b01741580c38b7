import EthClient.Proofs.Attempts
import EthClient.Proofs.Responses
import EthClient.Transport.Http
import Mathlib

/-! # One exchange

Whatever is asked for over HTTP takes one exchange: a request with the next numbers goes out, and
the outcome is read off the body that comes back, if it comes back before the caller's context is
over (`Http.Arrives`, **`Http.run_handle`**).

For an error answer this settles whether the call is made again. **`Http.error_answer_is_final`**
says which error answers are the outcome of a call, and that the others are taken for faults of the
transport. -/

namespace EthClient

open Json (StringToken)

variable {σ ν : Type}

/-! ## What is asked for in one exchange -/

namespace Shape

/-- How many numbers a request takes. -/
def size : (s : Shape) → s.Input → Nat
  | .call, _ => 1
  | .callContext, _ => 1
  | .batch, elems => elems.length
  | .batchContext, (_, elems) => elems.length

/-- The JSON form of the request that takes the numbers from `first` on. -/
def toRequest : (s : Shape) → s.Input → (first : Nat) → Json
  | .call, c, first => c.toRequest first
  | .callContext, (_, c), first => c.toRequest first
  | .batch, elems, first => BatchElem.toRequests elems first
  | .batchContext, (_, elems), first => BatchElem.toRequests elems first

/-- The outcome that the body of the answer holds. -/
def decodeBody : (s : Shape) → s.Input → (first : Nat) → Bytes → Except ProviderError s.Output
  | .call, _, _, body => decodeResponse body
  | .callContext, _, _, body => decodeResponse body
  | .batch, elems, first, body => decodeBatch elems first body
  | .batchContext, (_, elems), first, body => decodeBatch elems first body

/-- The ids in the body that are passed over. -/
def strays : (s : Shape) → s.Input → (first : Nat) → Bytes → List Nat
  | .call, _, _, _ => []
  | .callContext, _, _, _ => []
  | .batch, elems, first, body => strayIds elems.length first body
  | .batchContext, (_, elems), first, body => strayIds elems.length first body

end Shape

/-! ## The steps of an exchange -/

/-- A wait of no time, if the context is not over. -/
theorem run_waitIn_zero {ctx : Option Context} {env : Env σ} (h : ctx.any env.isDone = false) :
    (waitIn ctx 0).run env = (.ok (), env) := by
  rw [Env.any_isDone, Bool.or_eq_false_iff] at h
  refine run_waitIn_of_ok ?_
  simp [wait, h]

/-- Reports that are made one after the other. -/
theorem run_reports {α : Type} (event : α → Event) (items : List α) (env : Env σ) :
    (forIn items () fun item _ => do
      (report (event item) : Action σ Unit)
      return .yield () : Attempt σ Unit).run env
      = (.ok (), env.noting (items.map fun item => .event (event item) env.spans)) := by
  induction items generalizing env with
  | nil =>
    rw [List.map_nil, Env.noting_nil]
    rfl
  | cons item items ih =>
    have hreport : (do
        (report (event item) : Action σ Unit)
        return .yield () : Attempt σ (ForInStep Unit)).run env
          = (.ok (.yield ()), env.noting [.event (event item) env.spans]) := rfl
    rw [List.forIn_cons, run_bind_of_ok hreport]
    dsimp only
    rw [ih, Env.noting_noting]
    rfl

namespace Http

/-- The request with a body. -/
def request (h : Http) (body : Json) : HttpRequest := ⟨h.url, h.authorization, body.render⟩

section Arrival

variable (h : Http) (network : Network ν) (ctx : Option Context) (count : Nat)
variable (toRequest : Nat → Json)

/-- The exchange of the request that takes the next numbers. -/
def exchanged (env : Env (HttpState ν)) : Exchange × Env (HttpState ν) :=
  let (found, after) := network (h.request (toRequest env.node.nextId)) env.node.network
  (found, { env with node := ⟨env.node.nextId + count, after⟩ })

/-- The context is not over when a request goes out, and a body arrives before it is. -/
structure Arrives (env : Env (HttpState ν)) (body : Bytes) (env' : Env (HttpState ν)) : Prop where
  started : ctx.any env.isDone = false
  answered : (h.exchanged network count toRequest env).1.body = some body
  waited : wait ctx (h.exchanged network count toRequest env).1.duration
    (h.exchanged network count toRequest env).2 = (.ok (), env')

end Arrival

variable {h : Http} {network : Network ν} {ctx : Option Context} {count : Nat}
variable {toRequest : Nat → Json} {env env' : Env (HttpState ν)} {body : Bytes}

/-- **One request is sent**: the network is in the state after it, and its numbers are taken. -/
theorem Arrives.node_eq (ha : h.Arrives network ctx count toRequest env body env') :
    env'.node = ⟨env.node.nextId + count,
      (network (h.request (toRequest env.node.nextId)) env.node.network).2⟩ := by
  have hnode := node_wait ctx (h.exchanged network count toRequest env).1.duration
    (h.exchanged network count toRequest env).2
  rw [ha.waited] at hnode
  exact hnode

/-- A body that arrives in time. -/
theorem run_send (ha : h.Arrives network ctx count toRequest env body env') :
    (h.send network ctx count toRequest).run env = (.ok (env.node.nextId, body), env') := by
  have hexchange : (liftM (h.exchange network count toRequest) : Attempt _ _).run env
      = (.ok (env.node.nextId, (h.exchanged network count toRequest env).1),
        (h.exchanged network count toRequest env).2) := rfl
  rw [send, run_bind_of_ok hexchange]
  dsimp only
  rw [run_bind_of_ok (run_waitIn_of_ok ha.waited), ha.answered]
  rfl

/-- A call comes to what the body says. -/
theorem run_call {c : Call} (ha : h.Arrives network ctx 1 c.toRequest env body env') :
    (h.call network ctx c).run env = (decodeResponse body, env') := by
  rw [call, run_bind_of_ok (run_waitIn_zero ha.started), run_bind_of_ok (run_send ha)]
  rfl

/-- So does a batch, after a report for each response that is passed over. -/
theorem run_batch {elems : List BatchElem} (hasked : elems.isEmpty = false)
    (ha : h.Arrives network ctx elems.length (BatchElem.toRequests elems) env body env') :
    (h.batch network ctx elems).run env
      = (decodeBatch elems env.node.nextId body,
        env'.noting ((strayIds elems.length env.node.nextId body).map fun id =>
          .event (.unmatchedResponse id) env'.spans)) := by
  rw [batch, run_bind_of_ok (run_waitIn_zero ha.started), hasked, if_neg nofun,
    run_bind_of_ok (run_send ha)]
  exact run_bind_of_ok (run_reports .unmatchedResponse _ env')
    fun _ => Attempt.ofExcept (decodeBatch elems env.node.nextId body)

/-- **What is asked for takes one exchange**, and the outcome is read off the body that arrives. -/
theorem run_handle {s : Shape} {input : s.Input} (hasked : s.isVacant input = false)
    (ha : h.Arrives network (s.context? input) (s.size input) (s.toRequest input) env body env') :
    ((Provider.http h network).handle s input).run env
      = (s.decodeBody input env.node.nextId body,
        env'.noting ((s.strays input env.node.nextId body).map fun id =>
          .event (.unmatchedResponse id) env'.spans)) := by
  cases s with
  | call | callContext =>
    rw [Shape.strays, List.map_nil, Env.noting_nil]
    exact run_call ha
  | batch | batchContext => exact run_batch hasked ha

end Http

/-! ## Nodes that repeat themselves -/

/-- A connection to a node on the same machine. -/
def Http.localhost : Http where
  url := { scheme := "http", host := some (.name "localhost".toList), port := some 8545,
           path := .segments [[]] }

/-- The JSON form of a response. -/
def Json.ofResponse (id : Json) (outcome : Except RpcError Json) : Json :=
  .object <| [("jsonrpc", .string "2.0"), ("id", id)] ++
    match outcome with
    | .ok v => [("result", v)]
    | .error e => [("error", e.toWire)]

/-- The body that holds a value. -/
def Json.toBody (j : Json) : Bytes := Text.Utf8.encode j.render

/-- Answers every request at once with the same body, and counts the requests. -/
def Network.repeating (body : Bytes) : Network Nat := fun _ sent => (⟨0, some body⟩, sent + 1)

/-- Without a context the body arrives. -/
theorem Http.arrives_repeating (h : Http) (body : Bytes) (count : Nat) (toRequest : Nat → Json)
    (env : Env (HttpState Nat)) :
    h.Arrives (.repeating body) none count toRequest env body
      { env with node := ⟨env.node.nextId + count, env.node.network + 1⟩ } where
  started := rfl
  answered := rfl
  waited := rfl

/-! ## Error answers -/

/-- The body says this, with nothing but blanks behind it. -/
def Document.IsBody (d : Document) (body : Bytes) : Prop :=
  Document.ofSymbols (Text.Utf8.symbols body) = (d, true)

section Refusal

variable {ms : List (StringToken × Document)} {body : Bytes}

/-- A body is read as what it says. -/
theorem Decoder.runSymbols_of_isBody {α : Type} (d : Decoder α) {doc : Document}
    (h : doc.IsBody body) : d.runSymbols (Text.Utf8.symbols body) = d doc :=
  d.runSymbols_of_ofSymbols h

/-- An object is no list of responses. -/
theorem decodeAnswers_of_object
    (hbody : (Document.object ms).IsBody body) :
    decodeAnswers body = match Answer.decoder 0 (.object ms) with
      | .ok ⟨_, .error e⟩ => .error (.rpc e)
      | _ => .error (.malformed .shape body) := by
  rw [decodeAnswers, Decoder.runSymbols_of_isBody _ hbody, Decoder.runSymbols_of_isBody _ hbody]
  rfl

/-- So it answers nothing that was asked for. -/
theorem Shape.strays_of_object (s : Shape) (input : s.Input) (first : Nat)
    (hbody : (Document.object ms).IsBody body) :
    s.strays input first body = [] := by
  have hids : ∀ count, strayIds count first body = [] := by
    intro count
    rw [strayIds, decodeAnswers_of_object hbody]
    rcases Answer.decoder 0 (.object ms) with fault | ⟨id, e | doc⟩ <;> rfl
  cases s with
  | call | callContext => rfl
  | batch | batchContext => exact hids _

/-- **An error answer is the outcome** of a call and of a whole batch. -/
theorem Shape.decodeBody_of_error (s : Shape) (input : s.Input) (first : Nat) {a : Answer}
    {e : RpcError} (hbody : (Document.object ms).IsBody body)
    (ha : Answer.decoder 0 (.object ms) = .ok a) (he : a.outcome = .error e) :
    s.decodeBody input first body = .error (.rpc e) := by
  obtain ⟨id, outcome⟩ := a
  obtain rfl : outcome = .error e := he
  cases s with
  | call | callContext =>
    have hread : decodeResponse body = .error (.rpc e) := by
      rw [decodeResponse, Decoder.runSymbols_of_isBody _ hbody, ha]
    exact hread
  | batch | batchContext =>
    have hread : ∀ elems, decodeBatch elems first body = .error (.rpc e) := by
      intro elems
      rw [decodeBatch, decodeAnswers_of_object hbody, ha]
      rfl
    exact hread _

/-- An object that is no response is a fault of the transport. -/
theorem Shape.decodeBody_of_fault (s : Shape) (input : s.Input) (first : Nat) {fault : Fault}
    (hbody : (Document.object ms).IsBody body)
    (hfault : Answer.decoder 0 (.object ms) = .error fault) :
    ∃ fault, s.decodeBody input first body = .error (.malformed fault body) := by
  cases s with
  | call | callContext =>
    have hread : decodeResponse body = .error (.malformed fault body) := by
      rw [decodeResponse, Decoder.runSymbols_of_isBody _ hbody, hfault]
    exact ⟨fault, hread⟩
  | batch | batchContext =>
    have hread : ∀ elems, decodeBatch elems first body = .error (.malformed .shape body) := by
      intro elems
      rw [decodeBatch, decodeAnswers_of_object hbody, hfault]
      rfl
    exact ⟨.shape, hread _⟩

/-- The members of an error answer without data, as they are read. -/
def RpcError.members (e : RpcError) (id : Document) : List (StringToken × Document) :=
  [(.ofText "jsonrpc", .string (.ofText "2.0")), (.ofText "id", id),
    (.ofText "error", .object [(.ofText "code", .number (some (.integer e.code))),
      (.ofText "message", .string (.ofText e.message))])]

/-- They are a response, whatever the id. -/
theorem RpcError.isResponse_members {e : RpcError} (hcode : -2 ^ 63 ≤ e.code ∧ e.code < 2 ^ 63)
    (hdata : e.data = none) (outer : Nat) (id : Document) :
    IsResponse outer id (.error e) (e.members id) where
  legible := by simp [Document.Legible, members, Json.StringToken.ofText]
  version := ⟨.ofText "2.0", rfl, rfl, rfl⟩
  id := rfl
  outcome := ⟨rfl, _, rfl, {
    legible := by simp [Document.Legible, Json.StringToken.ofText]
    code := rfl
    code_bounds := hcode
    message := ⟨.ofText e.message, rfl, rfl⟩
    data := by
      rw [hdata]
      exact .inl rfl }⟩

/-- **Which error answers are the outcome of a call.** Let an object come back that has an error
object and no result, for a call or for a whole batch. Then one request was sent, and:

* if the object is a response with an id of 64 bits, its error is the outcome, and a layer that
  retries sends no further request, however many attempts it may make;
* otherwise the outcome is a fault of the transport, after which a call is made again;
* the latter holds of every object whose id is null. -/
theorem Http.error_answer_is_final (h : Http) (network : Network ν) (s : Shape) (input : s.Input)
    {env env' : Env (HttpState ν)} {es : List (StringToken × Document)}
    (hasked : s.isVacant input = false)
    (ha : h.Arrives network (s.context? input) (s.size input) (s.toRequest input) env body env')
    (hbody : (Document.object ms).IsBody body)
    (hresult : Document.valuesOf "result" ms = [])
    (herror : Document.valuesOf "error" ms = [.object es]) :
    let handle := (Provider.http h network).handle s
    let retried (attempts interval : Nat) : Handler (HttpState ν) s :=
      (Retry.ofAttempts attempts interval ProviderError.isRetryable).layer s handle
    env'.node = ⟨env.node.nextId + s.size input,
        (network (h.request (s.toRequest input env.node.nextId)) env.node.network).2⟩ ∧
      (∀ (n : Nat) (e : RpcError), n < 2 ^ 64 →
        IsResponse 0 (.number (some (.integer n))) (.error e) ms →
        (handle input).run env = (.error (.rpc e), env') ∧
          ∀ attempts interval,
            (retried attempts interval input).run env = (.error (.rpc e), env')) ∧
      ((∀ (n : Nat) (e : RpcError), n < 2 ^ 64 →
          ¬ IsResponse 0 (.number (some (.integer n))) (.error e) ms) →
        ∃ fault, (handle input).run env = (.error (.malformed fault body), env') ∧
          (ProviderError.malformed fault body).isRetryable = true) ∧
      (Document.valuesOf "id" ms = [.null] → ∀ (n : Nat) (e : RpcError),
        ¬ IsResponse 0 (.number (some (.integer n))) (.error e) ms) := by
  intro handle retried
  have hrun : (handle input).run env = (s.decodeBody input env.node.nextId body, env') := by
    have hrun := Http.run_handle hasked ha
    rw [s.strays_of_object input _ hbody, List.map_nil, Env.noting_nil] at hrun
    exact hrun
  refine ⟨ha.node_eq, fun n e hn hresponse => ?_, fun hnone => ?_, fun hnull n e hresponse => ?_⟩
  · obtain ⟨a, hread, hreply⟩ := hresponse.decoder_eq hn
    have hout := s.decodeBody_of_error input env.node.nextId hbody hread
      (Answer.outcome_of_reply? hreply)
    rw [hout] at hrun
    refine ⟨hrun, fun attempts interval => ?_⟩
    -- the policy refuses an error answer
    have hrefused : (Retry.ofAttempts attempts interval ProviderError.isRetryable).run
        (s.context? input) (handle input) (max attempts 1 - 1) 0 env = (.error (.rpc e), env') :=
      Retry.run_of_error hrun
    exact hrefused
  · cases hread : Answer.decoder 0 (.object ms) with
    | ok a =>
      obtain ⟨e, -, hn, hresponse⟩ := IsResponse.of_decoder_eq hresult herror hread
      exact absurd hresponse (hnone a.id e hn)
    | error fault =>
      obtain ⟨fault, hfault⟩ := s.decodeBody_of_fault input env.node.nextId hbody hread
      rw [hfault] at hrun
      exact ⟨fault, hrun, rfl⟩
  · have hid := hresponse.id
    rw [hnull] at hid
    cases hid

end Refusal

/-- The error of a node that does not take a batch. -/
def RpcError.tooLarge : RpcError := ⟨-32600, "batch too large", none⟩

/-- The body in which a node says so. -/
def RpcError.refusal (id : Json) : Bytes := (Json.ofResponse id (.error tooLarge)).toBody

/-- A batch that is refused is sent once, whatever may be tried, if the answer has an id. Without
one the refusal is no error answer for the client. -/
theorem Http.error_answer_is_final_batch :
    let elems : List BatchElem := [.ofCall ⟨"eth_chainId", []⟩, .ofCall ⟨"eth_gasPrice", []⟩]
    let handle (id : Json) : Handler (HttpState Nat) .batch :=
      (Provider.http .localhost (.repeating (RpcError.refusal id))).handle .batch
    ((Retry.ofAttempts 5 10 ProviderError.isRetryable).layer .batch (handle (.nat 0)) elems).run
      { node := { network := 0 } } = (.error (.rpc .tooLarge), { node := ⟨3, 1⟩ }) ∧
    ∃ fault, (handle .null elems).run { node := { network := 0 } }
      = (.error (.malformed fault (RpcError.refusal .null)), { node := ⟨3, 1⟩ }) := by
  intro elems handle
  have hbody : (Document.object (RpcError.tooLarge.members (.number (some (.integer 0))))).IsBody
      (RpcError.refusal (.nat 0)) := by
    unfold Document.IsBody
    cbv
  have hbody' : (Document.object (RpcError.tooLarge.members .null)).IsBody
      (RpcError.refusal .null) := by
    unfold Document.IsBody
    cbv
  have harrives (id : Json) := Http.localhost.arrives_repeating (RpcError.refusal id) 2
    (BatchElem.toRequests elems) { node := { network := 0 } }
  obtain ⟨-, hfinal, -⟩ :=
    Http.error_answer_is_final _ _ .batch elems rfl (harrives (.nat 0)) hbody rfl rfl
  obtain ⟨-, -, hfault, hnull⟩ :=
    Http.error_answer_is_final _ _ .batch elems rfl (harrives .null) hbody' rfl rfl
  refine ⟨(hfinal 0 .tooLarge (by decide) ?_).2 5 10, ?_⟩
  · exact RpcError.isResponse_members (by decide) rfl 0 _
  · obtain ⟨fault, hrun, -⟩ := hfault fun n e _ => hnull rfl n e
    exact ⟨fault, hrun⟩

/-- An error answer without an id is a response in all other respects. It is not the outcome of the
call, and the request is sent again. -/
theorem Http.error_answer_without_id :
    let body := RpcError.refusal .null
    let handle := (Provider.http .localhost (.repeating body)).handle .call
    let (outcome, left) := ((Retry.ofAttempts 2 10 ProviderError.isRetryable).layer .call handle
      ⟨"eth_chainId", []⟩).run { node := { network := 0 } }
    (∃ ms, (Document.object ms).IsBody body ∧ IsResponse 0 .null (.error .tooLarge) ms) ∧
      outcome = .error (.retriesExhausted 2 (.malformed .shape body)) ∧ left.node.network = 2 := by
  refine ⟨⟨RpcError.tooLarge.members .null, ?_, ?_⟩, by cbv⟩
  · unfold Document.IsBody
    cbv
  · exact RpcError.isResponse_members (by decide) rfl 0 _

end EthClient
