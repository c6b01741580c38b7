import EthClient.Proofs.Exchange
import EthClient.Proofs.Matching
import Mathlib

/-! # What comes of a batch

The requests of a batch have consecutive ids, and a node may answer them in any order and with other
responses in between. Read as replies (`Document.Says`), the responses of a body decide what comes
of the batch:

* **`decodeBatch_delivers`**: if there is exactly one reply for each id, every element has the
  outcome that was given for its id, whatever the order; if there is none for some id, the first
  element without one is named in an error;
* **`decodeBatch_fills`**: in a batch that is answered, every element has a result or an error. It
  has both exactly if both were given for its id. -/

namespace EthClient

open Json (StringToken)

/-! ## Bodies for batches -/

/-- An item of a body is read as a response that says this. -/
def Document.Says (d : Document) (r : Reply) : Prop :=
  ∃ a, Answer.decoder 1 d = .ok a ∧ a.reply? = some r

/-- A response of the protocol says its outcome for its id. -/
theorem IsResponse.toSays {ms : List (StringToken × Document)} {n : Nat}
    {outcome : Except RpcError Json} (hn : n < 2 ^ 64)
    (h : IsResponse 1 (.number (some (.integer n))) outcome ms) :
    (Document.object ms).Says ⟨n, outcome⟩ := h.decoder_eq hn

/-- Items that all say something are read one after the other. -/
theorem exists_mapM_eq_ok {docs : List Document} {replies : List Reply}
    (h : List.Forall₂ Document.Says docs replies) :
    ∃ answers, docs.mapM (Answer.decoder 1) = .ok answers ∧
      answers.map Answer.reply? = replies.map some := by
  induction h with
  | nil => exact ⟨[], rfl, rfl⟩
  | cons hd _ ih =>
    obtain ⟨a, ha, hr⟩ := hd
    obtain ⟨answers, hanswers, hreplies⟩ := ih
    refine ⟨a :: answers, ?_, by rw [List.map_cons, List.map_cons, hr, hreplies]⟩
    rw [List.mapM_cons, ha, hanswers]
    rfl

variable {elems : List BatchElem} {first : Nat} {body : Bytes} {docs : List Document}
variable {replies : List Reply}

/-- **A body of responses is read as what they say.** -/
theorem exists_decodeAnswers_eq_ok (elems : List BatchElem) (first : Nat)
    (hbody : (Document.array docs).IsBody body)
    (h : List.Forall₂ Document.Says docs replies) :
    ∃ answers, decodeAnswers body = .ok answers ∧ Fillable first elems.length answers ∧
      answers.filterMap Answer.reply? = replies := by
  obtain ⟨answers, hanswers, hreplies⟩ := exists_mapM_eq_ok h
  refine ⟨answers, ?_, fun a ha _ => ?_, ?_⟩
  · have hread : (Decoder.list (Answer.decoder 1)) (.array docs) = .ok answers := hanswers
    rw [decodeAnswers, Decoder.runSymbols_of_isBody _ hbody, hread]
  · have hmem : a.reply? ∈ replies.map some := hreplies ▸ List.mem_map_of_mem ha
    obtain ⟨r, -, hr⟩ := List.mem_map.mp hmem
    rw [← hr]
    rfl
  · have hid := congrArg (List.filterMap id) hreplies
    simpa using hid

/-! ## One reply for each element -/

/-- The element with an outcome in its slot. -/
def BatchElem.answered (e : BatchElem) : Except RpcError Json → BatchElem
  | .ok v => { e with result := some v, error := none }
  | .error err => { e with result := none, error := some err }

/-- The only reply for the id of an element is what it ends up with. -/
theorem BatchElem.collect_of_single {e : BatchElem} {id : Nat} {outcome : Except RpcError Json}
    (h : replies.filter (fun r => r.id = id) = [⟨id, outcome⟩]) :
    e.collect id replies = e.answered outcome := by
  cases outcome <;> simp [collect, Reply.said, h, answered, Reply.value?, Reply.error?]

/-- For each element there is exactly one reply, with this outcome. -/
def Addressed (first : Nat) (outcomes : List (Except RpcError Json)) (replies : List Reply) :
    Prop :=
  ∀ (i : Nat) (hi : i < outcomes.length),
    replies.filter (fun r => r.id = first + i) = [⟨first + i, outcomes[i]⟩]

/-- The order of the replies does not matter. -/
theorem Addressed.perm {outcomes : List (Except RpcError Json)} {replies' : List Reply}
    (h : Addressed first outcomes replies) (hp : replies'.Perm replies) :
    Addressed first outcomes replies' := by
  intro i hi
  have hfilter := hp.filter fun r => r.id = first + i
  rw [h i hi] at hfilter
  exact List.perm_singleton.mp hfilter

/-- **Every element has the outcome that was given for its id.** -/
theorem decodeBatch_of_addressed {outcomes : List (Except RpcError Json)}
    (hlength : outcomes.length = elems.length)
    (hbody : (Document.array docs).IsBody body)
    (hsaid : List.Forall₂ Document.Says docs replies) (h : Addressed first outcomes replies) :
    decodeBatch elems first body = .ok (List.zipWith BatchElem.answered elems outcomes) := by
  obtain ⟨answers, hanswers, hfill, hreplies⟩ := exists_decodeAnswers_eq_ok elems first hbody hsaid
  refine decodeBatch_eq_ok_iff.mpr ⟨answers, hanswers, hfill, fun i hi => ?_, ?_⟩
  · rw [hreplies]
    have hmem : (⟨first + i, outcomes[i]⟩ : Reply) ∈ replies.filter fun r => r.id = first + i := by
      rw [h i (by omega)]
      exact List.mem_singleton_self _
    exact ⟨_, (List.mem_filter.mp hmem).1, rfl⟩
  · rw [hreplies]
    refine List.ext_getElem (by simp [hlength]) fun i hi hi' => ?_
    rw [List.getElem_zipWith, List.getElem_mapIdx]
    exact (BatchElem.collect_of_single (h i _)).symm

/-! ## What a batch comes to -/

/-- **The requests of a batch** have the next ids, in the order of the elements. -/
theorem exists_toRequests_eq (elems : List BatchElem) (first : Nat) :
    ∃ requests, BatchElem.toRequests elems first = .array requests ∧
      requests.map (·.get? "id")
        = (List.range elems.length).map (fun i => some (.nat (first + i))) ∧
      requests.map (·.get? "method") = elems.map fun e => some (.string e.method) := by
  have hid (c : Call) (id : Nat) : (c.toRequest id).get? "id" = some (.nat id) := rfl
  have hmethod (c : Call) (id : Nat) : (c.toRequest id).get? "method" = some (.string c.method) :=
    rfl
  refine ⟨_, rfl, List.ext_getElem (by simp) fun i hi hi' => ?_,
    List.ext_getElem (by simp) fun i hi hi' => ?_⟩
  · simp [hid]
  · simp [hmethod, BatchElem.toCall]

/-- **Every answer is delivered to its element.** Let the items of a body be read as some replies,
as every response of the protocol is that has an id of 64 bits.

* If for each element there is exactly one reply for its id, and any number for other ids, the batch
  is answered. Each element keeps its call and has the outcome that was given for its id and nothing
  else. So it is for every body with the same items in another order.
* If there is no reply for some element, the first one without is named in an error of the
  transport, after which the batch is made again.
* The requests have the ids from the first one on, in the order of the elements.
* Over HTTP a batch takes the next ids and comes to what the body says for them. -/
theorem decodeBatch_delivers (elems : List BatchElem) (first : Nat)
    (hbody : (Document.array docs).IsBody body)
    (hsaid : List.Forall₂ Document.Says docs replies) :
    (∀ (n : Nat) (outcome : Except RpcError Json) (ms : List (StringToken × Document)),
      n < 2 ^ 64 → IsResponse 1 (.number (some (.integer n))) outcome ms →
        (Document.object ms).Says ⟨n, outcome⟩) ∧
    (∀ outcomes : List (Except RpcError Json), outcomes.length = elems.length →
      Addressed first outcomes replies → ∀ body' docs',
        (Document.array docs').IsBody body' → docs'.Perm docs →
          decodeBatch elems first body' = .ok (List.zipWith BatchElem.answered elems outcomes)) ∧
    ((∃ i < elems.length, ∀ r ∈ replies, r.id ≠ first + i) →
      ∃ (i : Nat) (hi : i < elems.length) (e : ProviderError),
        (∀ r ∈ replies, r.id ≠ first + i) ∧ (∀ j < i, ∃ r ∈ replies, r.id = first + j) ∧
        e = .transport s!"missing response for batch element `{elems[i].method}`" ∧
        e.isRetryable = true ∧ decodeBatch elems first body = .error e) ∧
    (∃ requests, BatchElem.toRequests elems first = .array requests ∧
      requests.map (·.get? "id")
        = (List.range elems.length).map (fun i => some (.nat (first + i))) ∧
      requests.map (·.get? "method") = elems.map fun e => some (.string e.method)) ∧
    (∀ {ν : Type} (h : Http) (network : Network ν) (ctx : Option Context)
      (env env' : Env (HttpState ν)), elems.isEmpty = false → env.node.nextId = first →
      h.Arrives network ctx elems.length (BatchElem.toRequests elems) env body env' →
        (((Provider.http h network).batch ctx elems).run env).1
          = decodeBatch elems first body) := by
  refine ⟨fun n outcome ms => IsResponse.toSays,
    fun outcomes hlength haddressed body' docs' hbody' hperm => ?_, fun hmissing => ?_,
    exists_toRequests_eq elems first, fun h network ctx env env' hasked hfirst ha => ?_⟩
  · -- the same replies are read in another order
    obtain ⟨replies', hsaid', hreplies⟩ := List.perm_comp_forall₂ hperm hsaid
    exact decodeBatch_of_addressed hlength hbody' hsaid' (haddressed.perm hreplies)
  · obtain ⟨answers, hanswers, hfill, rfl⟩ := exists_decodeAnswers_eq_ok elems first hbody hsaid
    obtain ⟨i, hi, hnone, hbefore, herror⟩ := decodeBatch_of_missing hanswers hfill hmissing
    exact ⟨i, hi, _, hnone, hbefore, rfl, rfl, herror⟩
  · have hrun : ((Provider.http h network).batch ctx elems).run env
        = (h.batch network ctx elems).run env := by
      cases ctx <;> rfl
    rw [hrun, Http.run_batch hasked ha, hfirst]

/-- The error of a node that cannot answer yet. -/
def RpcError.notReady : RpcError := ⟨-32000, "not ready", none⟩

/-- The JSON forms of some responses. -/
def Reply.toJsons (rs : List Reply) : List Json :=
  rs.map fun r => .ofResponse (.nat r.id) r.outcome

/-- The body with some responses. -/
def Reply.bodyOf (rs : List Reply) : Bytes := (Json.array (toJsons rs)).toBody

set_option maxRecDepth 4000 in
/-- Two elements with the ids 10 and 11 are answered from the back, one of them with null, between
responses for lower and higher ids. With the ids 12 and 13 the second one has no answer. -/
theorem decodeBatch_delivers_two :
    let elems : List BatchElem := [.ofCall ⟨"eth_chainId", []⟩, .ofCall ⟨"eth_gasPrice", []⟩]
    let replies : List Reply :=
      [⟨12, .ok (.string "0x7")⟩, ⟨11, .error .notReady⟩, ⟨9, .error .notReady⟩, ⟨10, .ok .null⟩]
    decodeBatch elems 10 (Reply.bodyOf replies)
      = .ok [{ method := "eth_chainId", params := [], result := some .null },
          { method := "eth_gasPrice", params := [], error := some .notReady }] ∧
    decodeBatch elems 12 (Reply.bodyOf replies)
      = .error (.transport "missing response for batch element `eth_gasPrice`") := by
  intro elems replies
  have hbody : (Document.array (Document.ofItems (Reply.toJsons replies))).IsBody
      (Reply.bodyOf replies) := by
    unfold Document.IsBody
    cbv
  have hsaid : List.Forall₂ Document.Says (Document.ofItems (Reply.toJsons replies)) replies :=
    .cons ⟨_, rfl, rfl⟩ (.cons ⟨_, rfl, rfl⟩ (.cons ⟨_, rfl, rfl⟩ (.cons ⟨_, rfl, rfl⟩ .nil)))
  generalize Reply.bodyOf replies = body, Document.ofItems _ = docs at hbody hsaid ⊢
  obtain ⟨-, hanswered, -⟩ := decodeBatch_delivers elems 10 hbody hsaid
  obtain ⟨-, -, hmissing, -⟩ := decodeBatch_delivers elems 12 hbody hsaid
  constructor
  · refine hanswered [.ok .null, .error .notReady] rfl (fun i hi => ?_) _ _ hbody (.refl _)
    have hi : i < 2 := hi
    obtain rfl | rfl : i = 0 ∨ i = 1 := by omega
    · rfl
    · rfl
  · obtain ⟨i, hi, _, hnone, -, rfl, -, herror⟩ := hmissing ⟨1, by decide, by decide⟩
    -- there is a reply for the first element
    have hne := hnone ⟨12, .ok (.string "0x7")⟩ (List.mem_cons_self ..)
    have hi : i < 2 := hi
    obtain rfl : i = 1 := by
      dsimp only at hne
      omega
    exact herror

/-- **Every element of a batch that is answered has a result or an error**, whatever its slots held
before and whatever the body says. They are the last value and the last error that there are for its
id, so there is exactly one of them unless both kinds are. -/
theorem decodeBatch_fills {filled : List BatchElem}
    (h : decodeBatch elems first body = .ok filled) :
    ∃ answers, decodeAnswers body = .ok answers ∧ filled.length = elems.length ∧
      ∀ (i : Nat) (hi : i < elems.length) (hi' : i < filled.length),
        let values := Reply.said Reply.value? (first + i) (answers.filterMap Answer.reply?)
        let errors := Reply.said Reply.error? (first + i) (answers.filterMap Answer.reply?)
        filled[i] = { elems[i] with result := values.getLast?, error := errors.getLast? } ∧
          (filled[i].result.isSome = true ∨ filled[i].error.isSome = true) ∧
          (¬ (filled[i].result.isSome = true ∧ filled[i].error.isSome = true) ↔
            values = [] ∨ errors = []) := by
  obtain ⟨answers, hanswers, -, hall, rfl⟩ := decodeBatch_eq_ok_iff.mp h
  refine ⟨answers, hanswers, List.length_mapIdx, fun i hi hi' => ?_⟩
  intro values errors
  rw [List.getElem_mapIdx]
  have hanswered := BatchElem.isAnswered_collect (e := elems[i]) |>.mpr (hall i hi)
  refine ⟨rfl, by simpa [BatchElem.isAnswered] using hanswered, ?_⟩
  have hresult : (elems[i].collect (first + i) (answers.filterMap Answer.reply?)).result
      = values.getLast? := rfl
  have herror : (elems[i].collect (first + i) (answers.filterMap Answer.reply?)).error
      = errors.getLast? := rfl
  rw [hresult, herror, List.getLast?_isSome, List.getLast?_isSome, not_and_or, not_not, not_not]

/-- A slot that was filled before is empty if only an error is given. -/
theorem decodeBatch_fills_one :
    decodeBatch [⟨"eth_chainId", [], some .null, none⟩] 1 (Reply.bodyOf [⟨1, .error .notReady⟩])
        = .ok [⟨"eth_chainId", [], none, some .notReady⟩] ∧
      ∃ answers, decodeAnswers (Reply.bodyOf [⟨1, .error .notReady⟩]) = .ok answers ∧
        (Reply.said Reply.value? 1 (answers.filterMap Answer.reply?) = [] ∨
          Reply.said Reply.error? 1 (answers.filterMap Answer.reply?) = []) := by
  have hfilled : decodeBatch [⟨"eth_chainId", [], some .null, none⟩] 1
      (Reply.bodyOf [⟨1, .error .notReady⟩])
        = .ok [⟨"eth_chainId", [], none, some .notReady⟩] := by cbv
  refine ⟨hfilled, ?_⟩
  generalize Reply.bodyOf [⟨1, .error .notReady⟩] = body at hfilled ⊢
  obtain ⟨answers, hanswers, -, hall⟩ := decodeBatch_fills hfilled
  obtain ⟨-, -, hone⟩ := hall 0 Nat.zero_lt_one Nat.zero_lt_one
  exact ⟨answers, hanswers, hone.mp fun hboth => Bool.false_ne_true hboth.1⟩

/-- **An element may have a result and an error.** The body has two responses for its id, a value
first and an error after it. -/
theorem decodeBatch_fills_both :
    ¬ ∀ (elems : List BatchElem) (first : Nat) (body : Bytes) (filled : List BatchElem),
      decodeBatch elems first body = .ok filled →
        ∀ e ∈ filled, ¬ (e.result.isSome = true ∧ e.error.isSome = true) := by
  intro h
  have hfilled : decodeBatch [.ofCall ⟨"eth_chainId", []⟩] 1
      (Reply.bodyOf [⟨1, .ok (.string "0x3")⟩, ⟨1, .error .notReady⟩])
        = .ok [⟨"eth_chainId", [], some (.string "0x3"), some .notReady⟩] := by cbv
  exact h _ 1 _ _ hfilled _ (List.mem_singleton_self _) ⟨rfl, rfl⟩

end EthClient
