import EthClient.Proofs.Freshness
import Mathlib.Logic.Relation

/-! # The numbers of requests

Many callers may share a connection. Each of their calls goes in a few steps (**`Http.handle_eq`**),
between which the others go on: it enters, takes its numbers, is sent, and is concluded. A
`Traffic` is a connection with its callers at whatever steps they are, and a `Traffic.Step` lets one
of them take its next step, lets another one join, or lets time pass and the network change.

However the steps are mixed, the numbers are taken in turn from one on, and each call has a block of
its own (`Traffic.Tallied`, **`Traffic.Tallied.steps`**). The network is handed the requests of the
calls that were sent (`Traffic.Delivered`, **`Traffic.Delivered.steps`**). So no call takes what is
for another one out of the body it is given (**`Traffic.ids_never_reused`**). -/

namespace EthClient

variable {ν : Type}

/-! ## A call in four steps -/

/-- Refuses what is not sent: what has a context that is over, or asks for nothing. -/
def Http.enter (s : Shape) (input : s.Input) : Attempt (HttpState ν) Unit := do
  waitIn (s.context? input) 0
  if s.isVacant input then throw .emptyBatch

/-- Takes `count` numbers in one step, and gives the first of them. -/
def Http.take (count : Nat) : Action (HttpState ν) Nat := fun env =>
  (env.node.nextId, { env with node := { env.node with nextId := env.node.nextId + count } })

/-- Exchanges a request. -/
def Http.transfer (h : Http) (network : Network ν) (body : Json) :
    Action (HttpState ν) Exchange := fun env =>
  let (found, after) := network (h.request body) env.node.network
  (found, { env with node := { env.node with network := after } })

/-- Waits for the body that comes back and reads the outcome off it. -/
def Http.conclude (s : Shape) (input : s.Input) (first : Nat) (found : Exchange) :
    Attempt (HttpState ν) s.Output := do
  waitIn (s.context? input) found.duration
  match found.body with
  | none => throw .http
  | some body =>
    for id in s.strays input first body do
      (report (.unmatchedResponse id) : Action (HttpState ν) Unit)
    .ofExcept (s.decodeBody input first body)

/-- An exchange takes its numbers first. -/
theorem Http.exchange_eq (h : Http) (network : Network ν) (count : Nat) (body : Nat → Json) :
    h.exchange network count body = do
      let first ← take count
      return (first, ← h.transfer network (body first)) := rfl

/-- **What is asked for over HTTP goes in four steps**: it enters, takes its numbers, is sent, and
is concluded. -/
theorem Http.handle_eq (h : Http) (network : Network ν) (s : Shape) (input : s.Input) :
    (Provider.http h network).handle s input = (do
      enter s input
      let first ← (take (s.size input) : Action (HttpState ν) Nat)
      let found ← h.transfer network (s.toRequest input first)
      conclude s input first found) := by
  have hcall (ctx : Option Context) (c : Call) : h.call network ctx c = (do
      waitIn ctx 0
      let first ← (take 1 : Action (HttpState ν) Nat)
      let found ← h.transfer network (c.toRequest first)
      waitIn ctx found.duration
      match found.body with
      | none => throw .http
      | some body => .ofExcept (decodeResponse body)) := by
    simp only [call, send, exchange_eq, liftM_bind, bind_assoc, pure_bind, liftM_pure]
    refine bind_congr fun _ => bind_congr fun first => bind_congr fun found => ?_
    cases found.body <;> rfl
  have hbatch (ctx : Option Context) (elems : List BatchElem) : h.batch network ctx elems = (do
      waitIn ctx 0
      (if elems.isEmpty then throw .emptyBatch else pure ())
      let first ← (take elems.length : Action (HttpState ν) Nat)
      let found ← h.transfer network (BatchElem.toRequests elems first)
      waitIn ctx found.duration
      match found.body with
      | none => throw .http
      | some body =>
        for id in strayIds elems.length first body do
          (report (.unmatchedResponse id) : Action (HttpState ν) Unit)
        .ofExcept (decodeBatch elems first body)) := by
    simp only [batch, send, exchange_eq, liftM_bind, bind_assoc, pure_bind, liftM_pure]
    refine bind_congr fun _ => ?_
    by_cases hempty : elems.isEmpty = true
    · rw [if_pos hempty, if_pos hempty]
      rfl
    · rw [if_neg hempty, if_neg hempty, pure_bind]
      refine bind_congr fun first => bind_congr fun found => bind_congr fun _ => ?_
      cases found.body <;> rfl
  cases s with
  | call =>
    rw [enter, bind_assoc]
    exact hcall none input
  | callContext =>
    rw [enter, bind_assoc]
    exact hcall (some input.1) input.2
  | batch =>
    rw [enter, bind_assoc]
    exact hbatch none input
  | batchContext =>
    rw [enter, bind_assoc]
    exact hbatch (some input.1) input.2

/-! ## What leaves the node alone -/

namespace Attempt

variable {σ α β : Type}

/-- An attempt that leaves the node alone. -/
def LeavesNode (m : Attempt σ α) : Prop := ∀ env, (m.run env).2.node = env.node

/-- Two of them in turn are one. -/
theorem LeavesNode.bind {m : Attempt σ α} {f : α → Attempt σ β} (hm : m.LeavesNode)
    (hf : ∀ a, (f a).LeavesNode) : (m >>= f).LeavesNode := by
  intro env
  have hnode := hm env
  rcases hrun : m.run env with ⟨e | a, env'⟩
  · rw [hrun] at hnode
    rw [run_bind_of_error hrun]
    exact hnode
  · rw [hrun] at hnode
    rw [run_bind_of_ok hrun]
    exact (hf a env').trans hnode

/-- Waiting is one. -/
theorem leavesNode_waitIn (ctx : Option Context) (ms : Nat) :
    (waitIn ctx ms : Attempt σ Unit).LeavesNode := by
  intro env
  rw [run_waitIn]
  exact node_wait ctx ms env

end Attempt

namespace Http

/-- Nothing is sent before a call enters. -/
theorem leavesNode_enter (s : Shape) (input : s.Input) :
    (enter s input : Attempt (HttpState ν) Unit).LeavesNode := by
  refine (Attempt.leavesNode_waitIn _ _).bind fun _ => ?_
  split <;> exact fun _ => rfl

/-- Nothing is sent either while its body is waited for and read. -/
theorem leavesNode_conclude (s : Shape) (input : s.Input) (first : Nat) (found : Exchange) :
    (conclude s input first found : Attempt (HttpState ν) s.Output).LeavesNode := by
  refine (Attempt.leavesNode_waitIn _ _).bind fun _ => ?_
  cases found.body with
  | none => exact fun _ => rfl
  | some body =>
    refine Attempt.LeavesNode.bind (fun env => ?_) fun _ _ => rfl
    rw [run_reports]
    rfl

end Http

/-! ## Callers -/

/-- How far a call has got. -/
inductive Stage (s : Shape) where
  | ready
  | entered
  /-- It has the numbers from `first` on. -/
  | numbered (first : Nat)
  /-- Its request was sent, and this came of it. -/
  | sent (first : Nat) (found : Exchange)
  /-- It is over, and may have had numbers. -/
  | settled (first? : Option Nat) (outcome : Except ProviderError s.Output)

/-- What comes of a call that enters or is refused. -/
def Stage.ofEntry {s : Shape} : Except ProviderError Unit → Stage s
  | .ok () => .entered
  | .error e => .settled none (.error e)

/-- The first of its numbers, if it has any yet. -/
def Stage.first? {s : Shape} : Stage s → Option Nat
  | .ready => none
  | .entered => none
  | .numbered first => some first
  | .sent first _ => some first
  | .settled first? _ => first?

/-- The first of its numbers, if its request was sent with them. -/
def Stage.sent? {s : Shape} : Stage s → Option Nat
  | .ready => none
  | .entered => none
  | .numbered _ => none
  | .sent first _ => some first
  | .settled first? _ => first?

/-- Only a call that has its numbers was sent. -/
theorem Stage.first?_of_sent? {s : Shape} {stage : Stage s} {first : Nat}
    (h : stage.sent? = some first) : stage.first? = some first := by
  cases stage with
  | ready | entered | numbered => cases h
  | sent | settled => exact h

/-- A network that keeps a record of what it is handed. -/
def Network.recorded (network : Network ν) : Network (List HttpRequest × ν) :=
  fun request (record, state) =>
    let (found, after) := network request state
    (found, record ++ [request], after)

/-- Someone who makes one call. -/
structure Caller where
  shape : Shape
  input : shape.Input
  stage : Stage shape := .ready

namespace Caller

/-- The request of the call, if it has its numbers. -/
def request? (c : Caller) : Option Json := c.stage.first?.map (c.shape.toRequest c.input)

/-- The request as it was sent over a connection, if it was. -/
def sent? (h : Http) (c : Caller) : Option HttpRequest :=
  c.stage.sent?.map fun first => h.request (c.shape.toRequest c.input first)

/-- The numbers of the call. -/
def ids (c : Caller) : List Nat :=
  match c.stage.first? with
  | some first => List.range' first (c.shape.size c.input)
  | none => []

/-- The next step of the call. -/
def advance (h : Http) (network : Network ν) (c : Caller) : Action (HttpState ν) Caller :=
  match c.stage with
  | .ready => do
    let result ← (Http.enter c.shape c.input).run
    return { c with stage := .ofEntry result }
  | .entered => do
    let first ← Http.take (c.shape.size c.input)
    return { c with stage := .numbered first }
  | .numbered first => do
    let found ← h.transfer network (c.shape.toRequest c.input first)
    return { c with stage := .sent first found }
  | .sent first found => do
    let outcome ← (Http.conclude c.shape c.input first found).run
    return { c with stage := .settled (some first) outcome }
  | .settled .. => return c

/-- What the network is handed in the next step of the call. -/
def handed (h : Http) (network : Network ν) (c : Caller) (env : Env (HttpState ν)) :
    List HttpRequest :=
  (c.advance h network.recorded
    { env with node := ⟨env.node.nextId, [], env.node.network⟩ }).2.node.network.1

variable {h : Http} {network : Network ν}

/-- The call enters first, or is refused. -/
theorem advance_ready (s : Shape) (input : s.Input) (env : Env (HttpState ν)) :
    Caller.advance h network ⟨s, input, .ready⟩ env
      = (⟨s, input, .ofEntry ((Http.enter s input).run env).1⟩,
        ((Http.enter s input).run env).2) := rfl

/-- **What a step does to the numbers**: nothing, unless it takes the numbers of the call. These are
the next ones. -/
theorem advance_cases (h : Http) (network : Network ν) (c : Caller) (env : Env (HttpState ν)) :
    ∃ stage : Stage c.shape, (c.advance h network env).1 = { c with stage } ∧
      ((stage.first? = c.stage.first? ∧
          (c.advance h network env).2.node.nextId = env.node.nextId) ∨
        (c.stage.first? = none ∧ stage = .numbered env.node.nextId ∧
          (c.advance h network env).2.node.nextId
            = env.node.nextId + c.shape.size c.input)) := by
  obtain ⟨s, input, stage⟩ := c
  cases stage with
  | ready =>
    have hnode := Http.leavesNode_enter s input env
    refine ⟨.ofEntry ((Http.enter s input).run env).1, rfl, .inl ⟨?_, ?_⟩⟩
    · cases ((Http.enter s input).run env).1 <;> rfl
    · exact congrArg HttpState.nextId hnode
  | entered => exact ⟨.numbered env.node.nextId, rfl, .inr ⟨rfl, rfl, rfl⟩⟩
  | numbered first => exact ⟨.sent first _, rfl, .inl ⟨rfl, rfl⟩⟩
  | sent first found =>
    have hnode := Http.leavesNode_conclude s input first found env
    exact ⟨.settled (some first) _, rfl, .inl ⟨rfl, congrArg HttpState.nextId hnode⟩⟩
  | settled first? outcome => exact ⟨.settled first? outcome, rfl, .inl ⟨rfl, rfl⟩⟩

/-- **What a step does to the network**: nothing, unless the call is sent in it. Its request is what
the network is handed then. -/
theorem handed_cases (h : Http) (network : Network ν) (c : Caller) (env : Env (HttpState ν)) :
    (c.advance h network env).1.sent? h = c.sent? h ∧ c.handed h network env = [] ∨
      c.sent? h = none ∧ ∃ request, (c.advance h network env).1.sent? h = some request ∧
        c.handed h network env = [request] := by
  obtain ⟨s, input, stage⟩ := c
  -- to enter and to conclude leave the node alone, and the record with it
  let record (node : HttpState (List HttpRequest × ν)) : List HttpRequest := node.network.1
  cases stage with
  | ready =>
    have hsent : (Stage.ofEntry ((Http.enter s input).run env).1 : Stage s).sent? = none := by
      cases ((Http.enter s input).run env).1 <;> rfl
    refine .inl ⟨?_, ?_⟩
    · rw [advance_ready, sent?, hsent]
      rfl
    · exact congrArg record (Http.leavesNode_enter s input _)
  | entered => exact .inl ⟨rfl, rfl⟩
  | numbered first => exact .inr ⟨rfl, _, rfl, rfl⟩
  | sent first found =>
    exact .inl ⟨rfl, congrArg record (Http.leavesNode_conclude s input first found _)⟩
  | settled => exact .inl ⟨rfl, rfl⟩

/-- A call that was not sent, and is not going to be. -/
def Unsent (c : Caller) : Prop :=
  c.stage = .ready ∨ ∃ e : ProviderError, c.stage = .settled none (.error e)

/-- Such as one that asks for nothing. -/
theorem Unsent.advance {c : Caller} (hc : c.Unsent) (hvacant : c.shape.isVacant c.input = true)
    (env : Env (HttpState ν)) : (c.advance h network env).1.Unsent := by
  obtain ⟨s, input, stage⟩ := c
  obtain hready | ⟨e, hsettled⟩ := hc
  · have hready : stage = .ready := hready
    subst hready
    refine .inr ?_
    have hrefused : ∃ e, ((Http.enter s input).run env).1 = .error e := by
      rcases hwait : (waitIn (s.context? input) 0).run env with ⟨e | ⟨⟩, env'⟩
      · exact ⟨e, by rw [Http.enter, run_bind_of_error hwait]⟩
      · have hvacant : s.isVacant input = true := hvacant
        rw [Http.enter, run_bind_of_ok hwait, if_pos hvacant]
        exact ⟨.emptyBatch, rfl⟩
    obtain ⟨e, he⟩ := hrefused
    refine ⟨e, ?_⟩
    rw [advance_ready, he]
    rfl
  · have hsettled : stage = .settled none (.error e) := hsettled
    subst hsettled
    exact .inr ⟨e, rfl⟩

end Caller

/-! ## Numbers in requests -/

/-- A member of a request, or of each of the requests of a batch. -/
def Json.membersOf (key : String) : Json → List (Option Json)
  | .array items => items.map (·.get? key)
  | j => [j.get? key]

/-- **The numbers in a request** are in the order of what is asked for. -/
theorem Shape.membersOf_toRequest (s : Shape) (input : s.Input) (first : Nat) :
    (s.toRequest input first).membersOf "id"
        = (List.range' first (s.size input)).map (fun id => some (.nat id)) ∧
      (s.toRequest input first).membersOf "method"
        = (s.methods input).map fun method => some (.string method) := by
  have hbatch (elems : List BatchElem) :
      (BatchElem.toRequests elems first).membersOf "id"
          = (List.range' first elems.length).map (fun id => some (.nat id)) ∧
        (BatchElem.toRequests elems first).membersOf "method"
          = (elems.map (·.method)).map fun method => some (.string method) := by
    obtain ⟨requests, hrequests, hids, hmethods⟩ := exists_toRequests_eq elems first
    rw [hrequests, Json.membersOf, Json.membersOf, hids, hmethods, List.range'_eq_map_range]
    simp [Function.comp_def]
  cases s with
  | call | callContext => exact ⟨rfl, rfl⟩
  | batch => exact hbatch input
  | batchContext => exact hbatch input.2

/-! ## Responses for other calls -/

/-- The elements of a batch. -/
def Shape.elems? : (s : Shape) → s.Input → Option (List BatchElem)
  | .call, _ => none
  | .callContext, _ => none
  | .batch, elems => some elems
  | .batchContext, (_, elems) => some elems

/-- A batch takes one number for each element. -/
theorem Shape.size_of_elems? {s : Shape} {input : s.Input} {elems : List BatchElem}
    (h : s.elems? input = some elems) : s.size input = elems.length := by
  cases s with
  | call | callContext => cases h
  | batch | batchContext =>
    cases h
    rfl

/-- An answer is for a batch if its id is one of those that the batch has. -/
theorem Answer.isSome_place?_iff {a : Answer} {first count : Nat} :
    (a.place? first count).isSome = true ↔ a.id ∈ List.range' first count := by
  simp only [Option.isSome_iff_exists, place?_eq_some_iff, List.mem_range'_1]
  constructor
  · rintro ⟨i, hid, hi⟩
    omega
  · rintro ⟨hle, hlt⟩
    exact ⟨a.id - first, by omega, by omega⟩

/-- **Answers that are for none of the elements are passed over.** -/
theorem fillSlots_filter (first : Nat) (answers : List Answer) (elems : List BatchElem) :
    fillSlots first (answers.filter fun a => (a.place? first elems.length).isSome) elems
      = fillSlots first answers elems := by
  induction answers generalizing elems with
  | nil => rfl
  | cons a rest ih =>
    cases hplace : a.place? first elems.length with
    | none =>
      rw [List.filter_cons_of_neg (by simp [hplace]), ih, fillSlots, hplace]
    | some i =>
      rw [List.filter_cons_of_pos (by simp [hplace]), fillSlots, fillSlots, hplace]
      have hnext (f : BatchElem → BatchElem) := ih (elems.modify i f)
      simp only [List.length_modify] at hnext
      simp only [hnext]

/-- What is for another call leaves the slots of this one alone. -/
structure Caller.Ignores (c other : Caller) : Prop where
  /-- Bodies that hold the same, but for what is for the other call, come to the same, but for the
  text of the body in an error. -/
  same {elems : List BatchElem} {first : Nat} {body body' : Bytes} {answers answers' : List Answer}
    (helems : c.shape.elems? c.input = some elems) (hfirst : c.stage.first? = some first)
    (hanswers : decodeAnswers body = .ok answers) (hanswers' : decodeAnswers body' = .ok answers')
    (hrest : answers.filter (fun a => a.id ∉ other.ids)
      = answers'.filter fun a => a.id ∉ other.ids) :
    ∃ result : Except (Bytes → ProviderError) (List BatchElem),
      decodeBatch elems first body = result.mapError (· body) ∧
        decodeBatch elems first body' = result.mapError (· body')
  /-- What is in a slot is for an element of this call, and not for the other one. -/
  filled {elems filled : List BatchElem} {first i : Nat} {body : Bytes} {answers : List Answer}
    {e : BatchElem} (helems : c.shape.elems? c.input = some elems)
    (hfirst : c.stage.first? = some first) (hanswers : decodeAnswers body = .ok answers)
    (hfilled : decodeBatch elems first body = .ok filled) (he : filled[i]? = some e) :
    first + i ∉ other.ids ∧
      (∀ v, e.result = some v → ⟨first + i, .ok v⟩ ∈ answers.filterMap Answer.reply?) ∧
      (∀ err, e.error = some err → ⟨first + i, .error err⟩ ∈ answers.filterMap Answer.reply?)

/-- **A call ignores what is for numbers that are not its own.** -/
theorem Caller.ignores_of_disjoint {c other : Caller} (h : c.ids.Disjoint other.ids) :
    c.Ignores other := by
  have hown {elems : List BatchElem} {first : Nat} (helems : c.shape.elems? c.input = some elems)
      (hfirst : c.stage.first? = some first) : c.ids = List.range' first elems.length := by
    rw [Caller.ids, hfirst, Shape.size_of_elems? helems]
  constructor
  · intro elems first body body' answers answers' helems hfirst hanswers hanswers' hrest
    -- what is left when the answers for the other call are gone has all that this one takes
    have hslots (answers : List Answer) : fillSlots first answers (elems.map .reset)
        = fillSlots first (answers.filter fun a => a.id ∉ other.ids) (elems.map .reset) := by
      have hpass := fillSlots_filter first (answers.filter fun a => a.id ∉ other.ids)
        (elems.map .reset)
      rw [← fillSlots_filter first answers, ← hpass, List.filter_filter]
      congr 1
      refine List.filter_congr fun a _ => ?_
      rw [List.length_map, Bool.eq_iff_iff, Bool.and_eq_true, Answer.isSome_place?_iff,
        ← hown helems hfirst, decide_eq_true_iff]
      exact ⟨fun hid => ⟨hid, h hid⟩, And.left⟩
    have hsame := hslots answers
    rw [hrest, ← hslots answers'] at hsame
    cases hfilled : fillSlots first answers (elems.map .reset) with
    | error fault =>
      exact ⟨.error fun body => .malformed fault body,
        decodeBatch_of_fillSlots_error hanswers hfilled,
        decodeBatch_of_fillSlots_error hanswers' (hsame.symm.trans hfilled)⟩
    | ok filled =>
      rw [decodeBatch_of_fillSlots_ok hanswers hfilled,
        decodeBatch_of_fillSlots_ok hanswers' (hsame.symm.trans hfilled)]
      cases filled.find? fun e => !e.isAnswered with
      | some e => exact ⟨.error fun _ => _, rfl, rfl⟩
      | none => exact ⟨.ok filled, rfl, rfl⟩
  · intro elems filled first i body answers e helems hfirst hanswers hfilled he
    obtain ⟨hi, -, hslots⟩ := decodeBatch_slots hanswers hfilled he
    have hid : first + i ∈ c.ids := by
      rw [hown helems hfirst, List.mem_range'_1]
      omega
    exact ⟨h hid, hslots⟩

/-- A list of responses is no response. -/
theorem Answer.decoder_array {items : List Document} {answers : List Answer}
    (h : items.mapM (Answer.decoder 1) = .ok answers) :
    ∃ fault, Answer.decoder 0 (.array items) = .error fault := by
  cases items with
  | nil => exact ⟨_, rfl⟩
  | cons d ds =>
    -- the version is a text, and the first response would be in its place
    rw [List.mapM_cons] at h
    cases d with
    | string token => cases h
    | _ => exact ⟨.shape, rfl⟩

/-- **A single call takes nothing from a list of responses.** -/
theorem decodeResponse_of_answers {body : Bytes} {answers : List Answer}
    (h : decodeAnswers body = .ok answers) :
    ∃ fault, decodeResponse body = .error (.malformed fault body) := by
  rcases hbody : Document.ofSymbols (Text.Utf8.symbols body) with ⟨doc, clean⟩
  have hlist : (Decoder.list (Answer.decoder 1)).runSymbols (Text.Utf8.symbols body)
      = .ok answers := by
    rw [decodeAnswers] at h
    split at h
    · rename_i hlist
      rw [hlist, Except.ok.inj h]
    · split at h <;> cases h
  rw [Decoder.runSymbols, hbody] at hlist
  rw [decodeResponse, Decoder.runSymbols, hbody]
  dsimp only at hlist ⊢
  cases doc with
  | array items =>
    cases hitems : items.mapM (Answer.decoder 1) with
    | error fault =>
      have herror : Decoder.list (Answer.decoder 1) (.array items) = .error fault := hitems
      rw [herror] at hlist
      cases hlist
    | ok answers' =>
      obtain ⟨fault, hfault⟩ := Answer.decoder_array hitems
      rw [hfault]
      exact ⟨fault, rfl⟩
  | _ => cases hlist

/-! ## Traffic -/

/-- A connection with its callers. -/
structure Traffic (ν : Type) where
  env : Env (HttpState ν)
  callers : List Caller := []
  /-- The requests in the order in which they took their numbers. -/
  requests : List Json := []
  /-- What the network was handed for the callers, the earliest first. -/
  handed : List HttpRequest := []

namespace Traffic

/-- What can happen next: another caller joins, a caller goes on, or something else happens that
takes no numbers. -/
inductive Step (h : Http) (network : Network ν) : Traffic ν → Traffic ν → Prop where
  | joins {t : Traffic ν} (s : Shape) (input : s.Input) :
    Step h network t { t with callers := t.callers ++ [⟨s, input, .ready⟩] }
  | advances {env : Env (HttpState ν)} (before after : List Caller) {c : Caller}
      {requests : List Json} {handed : List HttpRequest} :
    Step h network ⟨env, before ++ c :: after, requests, handed⟩
      ⟨(c.advance h network env).2, before ++ (c.advance h network env).1 :: after,
        requests ++ if c.request?.isNone then (c.advance h network env).1.request?.toList else [],
        handed ++ c.handed h network env⟩
  | passes {t : Traffic ν} {env : Env (HttpState ν)}
      (hnext : env.node.nextId = t.env.node.nextId) : Step h network t { t with env }

/-- What can happen in a while. -/
abbrev Steps (h : Http) (network : Network ν) : Traffic ν → Traffic ν → Prop :=
  Relation.ReflTransGen (Step h network)

variable {h : Http} {network : Network ν}

/-- **What the callers have between them** is what is noted, also after one of them goes on and what
is new about it is noted. -/
theorem perm_filterMap_advance {β : Type} {f : Caller → Option β} {before after : List Caller}
    {c c' : Caller} {noted new : List β} (hnoted : ((before ++ c :: after).filterMap f).Perm noted)
    (hnew : f c' = f c ∧ new = [] ∨ f c = none ∧ ∃ b, f c' = some b ∧ new = [b]) :
    ((before ++ c' :: after).filterMap f).Perm (noted ++ new) := by
  rw [List.filterMap_append] at hnoted ⊢
  obtain ⟨hsame, rfl⟩ | ⟨hnone, b, hsome, rfl⟩ := hnew
  · rw [List.append_nil, List.filterMap_cons, hsame, ← List.filterMap_cons]
    exact hnoted
  · rw [List.filterMap_cons_none hnone] at hnoted
    rw [List.filterMap_cons_some hsome]
    exact (List.perm_middle.trans (List.perm_append_singleton _ _).symm).trans
      (hnoted.append_right [b])

/-- All numbers up to the next one have been taken in turn, each by one call. -/
structure Tallied (t : Traffic ν) : Prop where
  pos : 1 ≤ t.env.node.nextId
  /-- The numbers are in the requests, one after the other. -/
  taken : t.requests.flatMap (Json.membersOf "id")
    = (List.range' 1 (t.env.node.nextId - 1)).map fun id => some (.nat id)
  /-- The requests are those of the callers. -/
  requests : (t.callers.filterMap Caller.request?).Perm t.requests
  /-- The callers have these numbers between them. -/
  ids : (t.callers.flatMap Caller.ids).Perm (List.range' 1 (t.env.node.nextId - 1))
  /-- Nobody asked for nothing. -/
  unsent : ∀ c ∈ t.callers, c.shape.isVacant c.input = true → c.Unsent

section Step

variable {env env' : Env (HttpState ν)} {before after : List Caller} {c : Caller}
variable {requests : List Json} {handed more : List HttpRequest} {stage : Stage c.shape}

/-- A caller goes on that had its numbers before, or still has none. -/
theorem Tallied.goOn (ht : Tallied ⟨env, before ++ c :: after, requests, handed⟩)
    (hunsent : ∀ c' ∈ before ++ ({ c with stage } : Caller) :: after,
      c'.shape.isVacant c'.input = true → c'.Unsent)
    (hfirst : stage.first? = c.stage.first?) (hnext : env'.node.nextId = env.node.nextId) :
    Tallied ⟨env', before ++ { c with stage } :: after, requests, more⟩ := by
  have hrequest : Caller.request? { c with stage } = c.request? := by
    rw [Caller.request?, Caller.request?, hfirst]
  have hown : Caller.ids { c with stage } = c.ids := by
    rw [Caller.ids, Caller.ids, hfirst]
  refine ⟨?_, ?_, ?_, ?_, hunsent⟩
  · rw [hnext]
    exact ht.pos
  · rw [hnext]
    exact ht.taken
  · have hperm := perm_filterMap_advance ht.requests (.inl ⟨hrequest, rfl⟩)
    rw [List.append_nil] at hperm
    exact hperm
  · simpa [hown, hnext] using ht.ids

/-- A caller takes its numbers. -/
theorem Tallied.take (ht : Tallied ⟨env, before ++ c :: after, requests, handed⟩)
    (hunsent : ∀ c' ∈ before ++ ({ c with stage := .numbered env.node.nextId } : Caller) :: after,
      c'.shape.isVacant c'.input = true → c'.Unsent)
    (hfirst : c.stage.first? = none)
    (hnext : env'.node.nextId = env.node.nextId + c.shape.size c.input) :
    Tallied ⟨env', before ++ { c with stage := .numbered env.node.nextId } :: after,
      requests ++ [c.shape.toRequest c.input env.node.nextId], more⟩ := by
  obtain ⟨hpos, htaken, hrequests, hids, -⟩ := ht
  have hbefore : c.request? = none := by
    rw [Caller.request?, hfirst]
    rfl
  have hrequest : Caller.request? { c with stage := .numbered env.node.nextId }
      = some (c.shape.toRequest c.input env.node.nextId) := rfl
  have hnone : c.ids = [] := by rw [Caller.ids, hfirst]
  have hown : Caller.ids { c with stage := .numbered env.node.nextId }
      = List.range' env.node.nextId (c.shape.size c.input) := rfl
  have hrange : List.range' 1 (env'.node.nextId - 1)
      = List.range' 1 (env.node.nextId - 1)
        ++ List.range' env.node.nextId (c.shape.size c.input) := by
    have hstart : 1 + (env.node.nextId - 1) = env.node.nextId := Nat.add_sub_of_le hpos
    have hcount : env'.node.nextId - 1 = env.node.nextId - 1 + c.shape.size c.input := by omega
    rw [hcount, ← List.range'_append_1, hstart]
  refine ⟨?_, ?_, ?_, ?_, hunsent⟩
  · rw [hnext]
    exact Nat.le_add_right_of_le hpos
  · have hnumbers := (c.shape.membersOf_toRequest c.input env.node.nextId).1
    rw [hrange, List.flatMap_append, htaken, List.flatMap_singleton, hnumbers, List.map_append]
  · exact perm_filterMap_advance hrequests (.inr ⟨hbefore, _, hrequest, rfl⟩)
  · -- the new numbers go behind all others, and the caller stands between the others
    have hrest : (before.flatMap Caller.ids ++ after.flatMap Caller.ids).Perm
        (List.range' 1 (env.node.nextId - 1)) := by
      simpa [hnone] using hids
    have hmove : (before.flatMap Caller.ids ++ (List.range' env.node.nextId (c.shape.size c.input)
          ++ after.flatMap Caller.ids)).Perm
        (before.flatMap Caller.ids ++ (after.flatMap Caller.ids
          ++ List.range' env.node.nextId (c.shape.size c.input))) :=
      List.perm_append_comm.append_left _
    rw [← List.append_assoc (before.flatMap Caller.ids) (after.flatMap Caller.ids)] at hmove
    rw [hrange, List.flatMap_append, List.flatMap_cons, hown]
    exact hmove.trans (hrest.append_right _)

end Step

/-- **Every step keeps the tally.** -/
theorem Tallied.step {t t' : Traffic ν} (ht : t.Tallied) (hstep : Step h network t t') :
    t'.Tallied := by
  cases hstep with
  | joins s input =>
    have hrequest : Caller.request? ⟨s, input, .ready⟩ = none := rfl
    have hnone : Caller.ids ⟨s, input, .ready⟩ = [] := rfl
    refine ⟨ht.pos, ht.taken, ?_, ?_, fun c hc hvacant => ?_⟩
    · simpa [hrequest] using ht.requests
    · simpa [hnone] using ht.ids
    · obtain hc | hc := List.mem_append.mp hc
      · exact ht.unsent c hc hvacant
      · rw [List.mem_singleton.mp hc]
        exact .inl rfl
  | passes hnext =>
    obtain ⟨hpos, htaken, hrequests, hids, hunsent⟩ := ht
    rw [← hnext] at hpos htaken hids
    exact ⟨hpos, htaken, hrequests, hids, hunsent⟩
  | @advances env before after c requests handed =>
    obtain ⟨stage, hstage, hnumbers⟩ := c.advance_cases h network env
    have hunsent : ∀ c' ∈ before ++ (c.advance h network env).1 :: after,
        c'.shape.isVacant c'.input = true → c'.Unsent := by
      intro c' hc' hvacant
      obtain hc' | rfl | hc' := by simpa only [List.mem_append, List.mem_cons] using hc'
      · exact ht.unsent c' (by simp [hc']) hvacant
      · rw [hstage] at hvacant
        exact (ht.unsent c (by simp) hvacant).advance hvacant env
      · exact ht.unsent c' (by simp [hc']) hvacant
    rw [hstage] at hunsent ⊢
    -- its request is noted in the step in which it takes its numbers, and in no other one
    obtain ⟨hfirst, hnext⟩ | ⟨hfirst, rfl, hnext⟩ := hnumbers
    · have hlog : (if c.request?.isNone then (Caller.request? { c with stage }).toList else [])
          = [] := by
        rw [Caller.request?, Caller.request?, hfirst]
        cases c.stage.first? <;> rfl
      rw [hlog, List.append_nil]
      exact ht.goOn hunsent hfirst hnext
    · have hbefore : c.request? = none := by
        rw [Caller.request?, hfirst]
        rfl
      rw [hbefore, Option.isNone_none, if_pos rfl]
      exact ht.take hunsent hfirst hnext

/-- **So does every run.** -/
theorem Tallied.steps {t t' : Traffic ν} (ht : t.Tallied) (hsteps : Steps h network t t') :
    t'.Tallied := by
  induction hsteps with
  | refl => exact ht
  | tail _ hstep ih => exact ih.step hstep

/-- The network was handed the requests of those callers whose calls were sent, and no others. -/
def Delivered (h : Http) (t : Traffic ν) : Prop :=
  (t.callers.filterMap (Caller.sent? h)).Perm t.handed

/-- **Every step delivers** the request of the call that is sent in it, if one is. -/
theorem Delivered.step {t t' : Traffic ν} (ht : t.Delivered h) (hstep : Step h network t t') :
    t'.Delivered h := by
  cases hstep with
  | joins s input =>
    have hnone : Caller.sent? h ⟨s, input, .ready⟩ = none := rfl
    rw [Delivered, List.filterMap_append, List.filterMap_cons_none hnone, List.filterMap_nil,
      List.append_nil]
    exact ht
  | passes => exact ht
  | advances before after => exact perm_filterMap_advance ht (Caller.handed_cases h network _ _)

/-- **So does every run.** -/
theorem Delivered.steps {t t' : Traffic ν} (ht : t.Delivered h) (hsteps : Steps h network t t') :
    t'.Delivered h := by
  induction hsteps with
  | refl => exact ht
  | tail _ hstep ih => exact ih.step hstep

/-- A caller that came last goes on. -/
theorem step_last {env env' : Env (HttpState ν)} {c c' : Caller} (callers : List Caller)
    (requests : List Json) (handed : List HttpRequest) (hc : c.advance h network env = (c', env')) :
    Step h network ⟨env, callers ++ [c], requests, handed⟩
      ⟨env', callers ++ [c'], requests ++ if c.request?.isNone then c'.request?.toList else [],
        handed ++ c.handed h network env⟩ := by
  have hstep : Step h network ⟨env, callers ++ [c], requests, handed⟩ _ := .advances callers []
  rw [hc] at hstep
  exact hstep

/-- **A call that is made alone** is one way in which this can go: someone joins, and goes on until
the call is over. -/
theorem steps_handle (s : Shape) (input : s.Input) (t : Traffic ν) :
    ∃ first? requests handed,
      Steps h network t
        ⟨(((Provider.http h network).handle s input).run t.env).2,
          t.callers ++ [⟨s, input,
            .settled first? (((Provider.http h network).handle s input).run t.env).1⟩],
          requests, handed⟩ := by
  have hjoin : Steps h network t
      ⟨t.env, t.callers ++ [⟨s, input, .ready⟩], t.requests, t.handed⟩ :=
    .single (.joins s input)
  rw [Http.handle_eq]
  rcases hentry : (Http.enter s input).run t.env with ⟨e | ⟨⟩, env⟩
  · -- it is refused, and that is all
    have hadvance : Caller.advance h network ⟨s, input, .ready⟩ t.env
        = (⟨s, input, .settled none (.error e)⟩, env) := by
      rw [Caller.advance_ready, hentry]
      rfl
    rw [run_bind_of_error hentry]
    exact ⟨none, _, _, hjoin.tail (step_last _ _ _ hadvance)⟩
  · have hadvance : Caller.advance h network ⟨s, input, .ready⟩ t.env
        = (⟨s, input, .entered⟩, env) := by
      rw [Caller.advance_ready, hentry]
      rfl
    rw [run_bind_of_ok hentry]
    exact ⟨some env.node.nextId, _, _, (((hjoin.tail (step_last _ _ _ hadvance)).tail
      (step_last _ _ _ rfl)).tail (step_last _ _ _ rfl)).tail (step_last _ _ _ rfl)⟩

/-! ## Main result -/

/-- No two callers have a number in common. -/
theorem Tallied.pairwise_disjoint {t : Traffic ν} (ht : t.Tallied) :
    t.callers.Pairwise fun c c' => c.ids.Disjoint c'.ids := by
  have hnodup : (t.callers.flatMap Caller.ids).Nodup := ht.ids.nodup_iff.mpr List.nodup_range'
  exact (List.nodup_flatMap.mp hnodup).2

/-- **No number is used again.** Let many callers share a connection whose first number is one. Let
their steps be mixed in any way, with time and changes of the network in between, whatever comes of
their calls, and let fewer than `2 ^ 64 - 1` numbers be taken. Then:

* the numbers in the requests are one, two, three and so on, in the order in which they are taken,
  and a counter of 64 bits has not come round to them again;
* each request is that of one caller, who has a block of numbers that follow one another in the
  order of what is asked for, and no other caller has any of them;
* the network was handed exactly the requests of those callers whose calls were sent, with the
  numbers that they have;
* who asks for nothing has no numbers;
* of a list of responses no batch takes what is for another call, neither into a slot nor in any
  other way, and a single call takes nothing;
* a call that is made alone is one way in which this can go on. -/
theorem ids_never_reused {env : Env (HttpState ν)} (hfirst : env.node.nextId = 1) {t : Traffic ν}
    (hsteps : Steps h network ⟨env, [], [], []⟩ t)
    (hfew : (t.requests.flatMap (Json.membersOf "id")).length < 2 ^ 64 - 1) :
    (∃ n, t.requests.flatMap (Json.membersOf "id")
          = (List.range' 1 n).map (fun id => some (.nat id)) ∧
        t.env.node.nextId = n + 1 ∧ ∀ id ≤ n + 1, (UInt64.ofNat id).toNat = id) ∧
    ((t.callers.filterMap Caller.request?).Perm t.requests ∧
      (∀ c ∈ t.callers, ∀ request, c.request? = some request →
        ∃ first, request = c.shape.toRequest c.input first ∧
          c.ids = List.range' first (c.shape.size c.input) ∧
          request.membersOf "id" = c.ids.map (fun id => some (.nat id)) ∧
          request.membersOf "method"
            = (c.shape.methods c.input).map fun method => some (.string method)) ∧
      t.callers.Pairwise fun c c' => c.ids.Disjoint c'.ids) ∧
    ((t.callers.filterMap (Caller.sent? h)).Perm t.handed ∧
      ∀ c ∈ t.callers, ∀ sent, c.sent? h = some sent →
        ∃ request, c.request? = some request ∧ sent = h.request request) ∧
    (∀ c ∈ t.callers, c.shape.isVacant c.input = true → c.request? = none ∧ c.ids = []) ∧
    ((t.callers.Pairwise fun c c' => c.Ignores c' ∧ c'.Ignores c) ∧
      ∀ body answers, decodeAnswers body = .ok answers →
        ∃ fault, decodeResponse body = .error (.malformed fault body)) ∧
    (∀ (s : Shape) (input : s.Input), ∃ first? requests handed,
      let (outcome, env') := ((Provider.http h network).handle s input).run t.env
      Steps h network t
        ⟨env', t.callers ++ [⟨s, input, .settled first? outcome⟩], requests, handed⟩) := by
  have hstart : Tallied (⟨env, [], [], []⟩ : Traffic ν) := by
    refine ⟨Nat.le_of_eq hfirst.symm, ?_, .nil, ?_, nofun⟩ <;> rw [hfirst] <;> rfl
  have ht : t.Tallied := hstart.steps hsteps
  have hnothing : Delivered h (⟨env, [], [], []⟩ : Traffic ν) := .nil
  have hpos := ht.pos
  refine ⟨⟨t.env.node.nextId - 1, ht.taken, by omega, fun id hid => ?_⟩,
    ⟨ht.requests, fun c hc request hrequest => ?_, ht.pairwise_disjoint⟩,
    ⟨hnothing.steps hsteps, fun c hc sent hsent => ?_⟩, fun c hc hvacant => ?_,
    ⟨?_, fun body answers => decodeResponse_of_answers⟩, fun s input => steps_handle s input t⟩
  · rw [ht.taken, List.length_map, List.length_range'] at hfew
    have hlt : id < 2 ^ 64 := by omega
    exact UInt64.toNat_ofNat_of_lt' hlt
  · obtain ⟨first, hstage, rfl⟩ := Option.map_eq_some_iff.mp hrequest
    have hids : c.ids = List.range' first (c.shape.size c.input) := by rw [Caller.ids, hstage]
    obtain ⟨hnumbers, hmethods⟩ := c.shape.membersOf_toRequest c.input first
    exact ⟨first, rfl, hids, by rw [hnumbers, hids], hmethods⟩
  · obtain ⟨first, hstage, rfl⟩ := Option.map_eq_some_iff.mp hsent
    refine ⟨_, ?_, rfl⟩
    rw [Caller.request?, Stage.first?_of_sent? hstage, Option.map_some]
  · have hnone : c.stage.first? = none := by
      obtain hready | ⟨e, hsettled⟩ := ht.unsent c hc hvacant
      · rw [hready]
        rfl
      · rw [hsettled]
        rfl
    exact ⟨by rw [Caller.request?, hnone]; rfl, by rw [Caller.ids, hnone]⟩
  · refine ht.pairwise_disjoint.imp fun hdisjoint => ?_
    exact ⟨Caller.ignores_of_disjoint hdisjoint, Caller.ignores_of_disjoint hdisjoint.symm⟩

/-- A batch of two takes its numbers, and a call that takes its own after that is sent first. -/
theorem ids_never_reused_mixed :
    let elems : List BatchElem := [.ofCall ⟨"eth_chainId", []⟩, .ofCall ⟨"eth_gasPrice", []⟩]
    let start : Traffic Nat := ⟨{ node := { network := 0 } }, [], [], []⟩
    let batch : Caller := ⟨.batch, elems, .numbered 1⟩
    let call : Caller := ⟨.call, ⟨"eth_blockNumber", []⟩, .sent 3 ⟨0, some []⟩⟩
    ∃ t, Steps .localhost (.repeating []) start t ∧ t.callers = [batch, call] ∧
      t.requests.flatMap (Json.membersOf "id") = [some (.nat 1), some (.nat 2), some (.nat 3)] ∧
      batch.Ignores call ∧ call.Ignores batch := by
  intro elems start batch call
  have hsteps : ∃ t, Steps .localhost (.repeating []) start t ∧ t.callers = [batch, call] ∧
      t.requests.flatMap (Json.membersOf "id")
        = [some (.nat 1), some (.nat 2), some (.nat 3)] := by
    have hjoined : Steps .localhost (.repeating []) start _ :=
      (Relation.ReflTransGen.single (.joins .batch elems)).tail
        (.joins .call ⟨"eth_blockNumber", []⟩)
    have hentered := (hjoined.tail (.advances [] _)).tail (step_last [_] _ _ rfl)
    have hnumbered := (hentered.tail (.advances [] _)).tail (step_last [_] _ _ rfl)
    exact ⟨_, hnumbered.tail (step_last [_] _ _ rfl), rfl, rfl⟩
  obtain ⟨t, hsteps, hcallers, hids⟩ := hsteps
  obtain ⟨-, -, -, -, ⟨hignores, -⟩, -⟩ := ids_never_reused rfl hsteps (by rw [hids]; decide)
  rw [hcallers, List.pairwise_pair] at hignores
  exact ⟨t, hsteps, hcallers, hids, hignores⟩

end Traffic

end EthClient
