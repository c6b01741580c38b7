import EthClient.Proofs.Responses
import Mathlib.Data.List.Perm.Basic

/-! # Responses are matched to the elements of a batch

The elements of a batch have consecutive ids, and the responses in a body may come in any order, for
any ids and more than once for the same one. Each response that says something (`Reply`) is put into
a slot of the element with its id. So an element ends up with the last value and the last error that
there are for its id (**`fillSlots_eq_ok_iff`**, `BatchElem.collect`), and a batch is answered
exactly if there is a response for each element and every response for one says something
(**`decodeBatch_eq_ok_iff`**). -/

namespace EthClient

/-! ## Replies for an id -/

namespace Reply

/-- The value of a reply. -/
def value? (r : Reply) : Option Json :=
  match r.outcome with
  | .ok v => some v
  | .error _ => none

/-- The error of a reply. -/
def error? (r : Reply) : Option RpcError :=
  match r.outcome with
  | .ok _ => none
  | .error e => some e

/-- What some replies say for an id: their values, or their errors. -/
def said {α : Type} (read? : Reply → Option α) (id : Nat) (rs : List Reply) : List α :=
  (rs.filter fun r => r.id = id).filterMap read?

/-- A reply for the id comes first. -/
theorem said_cons_of_eq {α : Type} (read? : Reply → Option α) {id : Nat} {r : Reply}
    (h : r.id = id) (rs : List Reply) :
    said read? id (r :: rs) = (read? r).toList ++ said read? id rs := by
  cases hr : read? r <;> simp [said, h, hr]

/-- A reply for another id is passed over. -/
theorem said_cons_of_ne {α : Type} (read? : Reply → Option α) {id : Nat} {r : Reply}
    (h : r.id ≠ id) (rs : List Reply) : said read? id (r :: rs) = said read? id rs := by
  simp [said, h]

/-- **Every reply has a value or an error**, so there are neither for an id exactly if there is no
reply for it. -/
theorem said_eq_nil_iff {id : Nat} {rs : List Reply} :
    said value? id rs = [] ∧ said error? id rs = [] ↔ ∀ r ∈ rs, r.id ≠ id := by
  have hone : ∀ r : Reply, r.value? = none ∧ r.error? = none ↔ False := by
    rintro ⟨_, _ | _⟩ <;> simp [value?, error?]
  simp only [said, List.filterMap_eq_nil_iff, List.mem_filter, decide_eq_true_eq, and_imp]
  constructor
  · rintro ⟨hvalues, herrors⟩ r hr hid
    exact (hone r).mp ⟨hvalues r hr hid, herrors r hr hid⟩
  · intro h
    exact ⟨fun r hr hid => absurd hid (h r hr), fun r hr hid => absurd hid (h r hr)⟩

end Reply

namespace Answer

/-- A reply has the id of its answer. -/
theorem id_of_reply? {a : Answer} {r : Reply} (h : a.reply? = some r) : r.id = a.id := by
  obtain ⟨id, outcome⟩ := a
  cases outcome with
  | error e =>
    cases h
    rfl
  | ok doc =>
    obtain ⟨v, -, rfl⟩ := Option.map_eq_some_iff.mp h
    rfl

/-- Where the element stands that an answer is for. -/
theorem place?_eq_some_iff {first count i : Nat} {a : Answer} :
    a.place? first count = some i ↔ a.id = first + i ∧ i < count := by
  unfold place?
  split
  · rename_i h
    simp only [Bool.and_eq_true, decide_eq_true_eq] at h
    rw [Option.some.injEq]
    omega
  · rename_i h
    simp only [Bool.and_eq_true, decide_eq_true_eq] at h
    simp only [reduceCtorEq, false_iff]
    omega

/-- When an answer is for no element. -/
theorem place?_eq_none_iff {first count : Nat} {a : Answer} :
    a.place? first count = none ↔ ∀ i < count, a.id ≠ first + i := by
  simp only [Option.eq_none_iff_forall_ne_some, ne_eq, place?_eq_some_iff, not_and]
  exact forall_congr' fun i => imp_not_comm

end Answer

/-! ## Slots of an element -/

namespace BatchElem

/-- The element after a reply: one for its id is put into a slot. -/
def receive (id : Nat) (e : BatchElem) (r : Reply) : BatchElem :=
  if r.id = id then { e with result := r.value?.or e.result, error := r.error?.or e.error } else e

/-- The element with the last value and the last error that there are for its id. -/
def collect (id : Nat) (rs : List Reply) (e : BatchElem) : BatchElem :=
  { e with
    result := (Reply.said Reply.value? id rs).getLast?
    error := (Reply.said Reply.error? id rs).getLast? }

/-- **Of several replies the last one of each kind stays.** -/
theorem foldl_receive (id : Nat) (rs : List Reply) (e : BatchElem) :
    rs.foldl (receive id) e
      = { e with
          result := (Reply.said Reply.value? id rs).getLast?.or e.result
          error := (Reply.said Reply.error? id rs).getLast?.or e.error } := by
  induction rs generalizing e with
  | nil => rfl
  | cons r rs ih =>
    rw [List.foldl_cons, ih]
    by_cases h : r.id = id
    · -- a later value or error replaces the one of this reply
      rw [Reply.said_cons_of_eq _ h, Reply.said_cons_of_eq _ h, receive, if_pos h]
      simp only [List.getLast?_append, Option.or_assoc]
      cases r.value? <;> cases r.error? <;> rfl
    · rw [Reply.said_cons_of_ne _ h, Reply.said_cons_of_ne _ h, receive, if_neg h]

/-- What is collected in an element whose slots were empty. -/
theorem foldl_receive_reset (id : Nat) (rs : List Reply) (e : BatchElem) :
    rs.foldl (receive id) e.reset = e.collect id rs := by
  rw [foldl_receive]
  simp [reset, collect]

/-- Whether a slot of the element is filled. -/
def isAnswered (e : BatchElem) : Bool := e.result.isSome || e.error.isSome

/-- **An element is answered exactly if there is a reply for its id.** -/
theorem isAnswered_collect {id : Nat} {rs : List Reply} {e : BatchElem} :
    (e.collect id rs).isAnswered = true ↔ ∃ r ∈ rs, r.id = id := by
  have hnil : _ ↔ ∀ r ∈ rs, r.id ≠ id := Reply.said_eq_nil_iff
  rw [← not_iff_not, not_exists]
  simp only [not_and]
  rw [← hnil]
  simp [isAnswered, collect]

end BatchElem

/-! ## Slots of a batch -/

/-- The batch after a reply. -/
def deliver (first : Nat) (elems : List BatchElem) (r : Reply) : List BatchElem :=
  elems.mapIdx fun i e => e.receive (first + i) r

/-- A reply leaves the number of elements alone. -/
@[simp] theorem length_deliver (first : Nat) (elems : List BatchElem) (r : Reply) :
    (deliver first elems r).length = elems.length := List.length_mapIdx

/-- A reply for the id of an element changes this element. -/
theorem deliver_eq_modify {first i : Nat} {r : Reply} (h : r.id = first + i)
    (elems : List BatchElem) :
    deliver first elems r
      = elems.modify i fun e =>
          { e with result := r.value?.or e.result, error := r.error?.or e.error } := by
  refine List.ext_getElem? fun j => ?_
  rw [deliver, List.getElem?_mapIdx, List.getElem?_modify]
  by_cases hj : i = j
  · subst hj
    simp [BatchElem.receive, h]
  · have hne : ¬ r.id = first + j := by omega
    simp [BatchElem.receive, hne, hj]

/-- A reply for another id changes nothing. -/
theorem deliver_eq_self {first : Nat} {r : Reply} {elems : List BatchElem}
    (h : ∀ i < elems.length, r.id ≠ first + i) : deliver first elems r = elems := by
  refine List.ext_getElem (length_deliver first elems r) fun i hi hi' => ?_
  simp [deliver, BatchElem.receive, h i hi']

/-- Several replies are put into the slots of each element on its own. -/
theorem foldl_deliver (first : Nat) (rs : List Reply) (elems : List BatchElem) :
    rs.foldl (deliver first) elems
      = elems.mapIdx fun i e => rs.foldl (BatchElem.receive (first + i)) e := by
  induction rs generalizing elems with
  | nil => exact List.ext_getElem? fun i => by simp
  | cons r rs ih =>
    rw [List.foldl_cons, ih, deliver, List.mapIdx_mapIdx]
    rfl

/-- **One answer**: what it says is put into a slot, and if it says nothing it must be for none of
the elements. -/
theorem fillSlots_cons (first : Nat) (a : Answer) (rest : List Answer) (elems : List BatchElem) :
    fillSlots first (a :: rest) elems
      = match a.reply? with
        | some r => fillSlots first rest (deliver first elems r)
        | none =>
          if (a.place? first elems.length).isSome then .error .shape
          else fillSlots first rest elems := by
  rw [fillSlots]
  cases hp : a.place? first elems.length with
  | none =>
    have hid := Answer.place?_eq_none_iff.mp hp
    cases hr : a.reply? with
    | none => rfl
    | some r =>
      have hself : deliver first elems r = elems :=
        deliver_eq_self fun i hi => (Answer.id_of_reply? hr).trans_ne (hid i hi)
      dsimp only
      rw [hself]
  | some i =>
    obtain ⟨id, outcome⟩ := a
    obtain ⟨hid, -⟩ := Answer.place?_eq_some_iff.mp hp
    cases outcome with
    | error e => exact congrArg _ (deliver_eq_modify (r := ⟨id, .error e⟩) hid elems).symm
    | ok doc =>
      dsimp only
      rw [Answer.reply?]
      dsimp only
      cases Answer.value? doc with
      | none => rfl
      | some v => exact congrArg _ (deliver_eq_modify (r := ⟨id, .ok v⟩) hid elems).symm

/-- Every answer for one of the elements says something. -/
def Fillable (first count : Nat) (answers : List Answer) : Prop :=
  ∀ a ∈ answers, (a.place? first count).isSome = true → a.reply?.isSome = true

/-- **The slots of a batch are filled** exactly if every answer for an element says something, and
each element on its own takes what is said for it. -/
theorem fillSlots_eq_ok_iff {first : Nat} {answers : List Answer} {elems filled : List BatchElem} :
    fillSlots first answers elems = .ok filled ↔
      Fillable first elems.length answers ∧
        filled = elems.mapIdx fun i e =>
          (answers.filterMap Answer.reply?).foldl (BatchElem.receive (first + i)) e := by
  rw [← foldl_deliver]
  induction answers generalizing elems with
  | nil =>
    have hnil : fillSlots first [] elems = .ok elems := rfl
    rw [hnil, Except.ok.injEq]
    exact ⟨fun h => ⟨nofun, h.symm⟩, fun h => h.2.symm⟩
  | cons a rest ih =>
    rw [fillSlots_cons]
    cases hr : a.reply? with
    | none =>
      rw [List.filterMap_cons_none hr]
      dsimp only
      split
      · rename_i hp
        simp [Fillable, hr, hp]
      · rename_i hp
        rw [ih]
        simp [Fillable, hr, hp]
    | some r =>
      rw [List.filterMap_cons_some hr, List.foldl_cons]
      dsimp only
      rw [ih, length_deliver]
      simp [Fillable, hr]

/-! ## Whole batches -/

/-- A batch fails if its slots cannot be filled. -/
theorem decodeBatch_of_fillSlots_error {elems : List BatchElem} {first : Nat} {body : Bytes}
    {answers : List Answer} {fault : Fault} (hanswers : decodeAnswers body = .ok answers)
    (hslots : fillSlots first answers (elems.map BatchElem.reset) = .error fault) :
    decodeBatch elems first body = .error (.malformed fault body) := by
  simp [decodeBatch, hanswers, hslots, bind, Except.bind]

/-- If they are filled, every element must be answered. -/
theorem decodeBatch_of_fillSlots_ok {elems filled : List BatchElem} {first : Nat} {body : Bytes}
    {answers : List Answer} (hanswers : decodeAnswers body = .ok answers)
    (hslots : fillSlots first answers (elems.map BatchElem.reset) = .ok filled) :
    decodeBatch elems first body
      = match filled.find? fun e => !e.isAnswered with
        | some e => .error (.transport s!"missing response for batch element `{e.method}`")
        | none => .ok filled := by
  have hmissing : (fun e : BatchElem => e.result.isNone && e.error.isNone)
      = fun e => !e.isAnswered := by
    funext e
    simp [BatchElem.isAnswered]
  cases hfind : filled.find? fun e => !e.isAnswered <;>
    simp [decodeBatch, hanswers, hslots, hmissing, hfind, bind, Except.bind]

/-- The slots of a batch are filled with what is collected for its elements. -/
theorem fillSlots_of_fillable {elems : List BatchElem} {first : Nat} {answers : List Answer}
    (hfill : Fillable first elems.length answers) :
    fillSlots first answers (elems.map BatchElem.reset)
      = .ok (elems.mapIdx fun i e => e.collect (first + i) (answers.filterMap Answer.reply?)) := by
  refine fillSlots_eq_ok_iff.mpr ⟨by rwa [List.length_map], ?_⟩
  refine List.ext_getElem? fun i => ?_
  simp [BatchElem.foldl_receive_reset, Function.comp_def]

/-- The first element that is not answered is the first one without a reply for its id. -/
theorem find?_collect_eq_some_iff {elems : List BatchElem} {first : Nat} {rs : List Reply}
    {e : BatchElem} :
    (elems.mapIdx fun i e => e.collect (first + i) rs).find? (fun e => !e.isAnswered) = some e ↔
      ∃ (i : Nat) (h : i < elems.length), elems[i].collect (first + i) rs = e ∧
        (∀ r ∈ rs, r.id ≠ first + i) ∧ ∀ j < i, ∃ r ∈ rs, r.id = first + j := by
  have hmissing : ∀ (i : Nat) (e : BatchElem),
      (!(e.collect (first + i) rs).isAnswered) = true ↔ ∀ r ∈ rs, r.id ≠ first + i := by
    intro i e
    rw [Bool.not_eq_true', ← Bool.not_eq_true, BatchElem.isAnswered_collect]
    simp
  have hthere : ∀ (j : Nat) (e : BatchElem),
      (!!(e.collect (first + j) rs).isAnswered) = true ↔ ∃ r ∈ rs, r.id = first + j := by
    intro j e
    rw [Bool.not_not, BatchElem.isAnswered_collect]
  rw [List.find?_eq_some_iff_getElem]
  simp only [List.getElem_mapIdx, List.length_mapIdx, hthere]
  constructor
  · rintro ⟨he, i, h, rfl, hbefore⟩
    exact ⟨i, h, rfl, (hmissing i elems[i]).mp he, hbefore⟩
  · rintro ⟨i, h, rfl, he, hbefore⟩
    exact ⟨(hmissing i elems[i]).mpr he, i, h, rfl, hbefore⟩

/-- All elements are answered if there are replies for all their ids. -/
theorem find?_collect_eq_none_iff {elems : List BatchElem} {first : Nat} {rs : List Reply} :
    (elems.mapIdx fun i e => e.collect (first + i) rs).find? (fun e => !e.isAnswered) = none ↔
      ∀ i < elems.length, ∃ r ∈ rs, r.id = first + i := by
  rw [List.find?_eq_none, List.forall_mem_iff_getElem]
  simp only [List.getElem_mapIdx, List.length_mapIdx, Bool.not_eq_true', Bool.not_eq_false,
    BatchElem.isAnswered_collect]

/-- **When a batch is answered, and how**: there is a response for every element, every response for
one says something, and each element has the last value and the last error that there are for its
id. -/
theorem decodeBatch_eq_ok_iff {elems filled : List BatchElem} {first : Nat} {body : Bytes} :
    decodeBatch elems first body = .ok filled ↔
      ∃ answers, decodeAnswers body = .ok answers ∧ Fillable first elems.length answers ∧
        (∀ i < elems.length, ∃ r ∈ answers.filterMap Answer.reply?, r.id = first + i) ∧
        filled = elems.mapIdx fun i e =>
          e.collect (first + i) (answers.filterMap Answer.reply?) := by
  constructor
  · intro h
    obtain ⟨answers, hanswers⟩ : ∃ answers, decodeAnswers body = .ok answers := by
      cases hanswers : decodeAnswers body with
      | error e =>
        rw [decodeBatch, hanswers] at h
        cases h
      | ok answers => exact ⟨answers, rfl⟩
    cases hslots : fillSlots first answers (elems.map BatchElem.reset) with
    | error fault => cases (decodeBatch_of_fillSlots_error hanswers hslots).symm.trans h
    | ok slots =>
      have hfill : Fillable first elems.length answers := by
        have hfill := (fillSlots_eq_ok_iff.mp hslots).1
        rwa [List.length_map] at hfill
      rw [decodeBatch_of_fillSlots_ok hanswers (fillSlots_of_fillable hfill)] at h
      refine ⟨answers, hanswers, hfill, ?_⟩
      split at h
      · cases h
      · rename_i hnone
        exact ⟨find?_collect_eq_none_iff.mp hnone, (Except.ok.inj h).symm⟩
  · rintro ⟨answers, hanswers, hfill, hall, rfl⟩
    rw [decodeBatch_of_fillSlots_ok hanswers (fillSlots_of_fillable hfill),
      find?_collect_eq_none_iff.mpr hall]

/-- **An element without a response** is reported, the first one if there are several. -/
theorem decodeBatch_of_missing {elems : List BatchElem} {first : Nat} {body : Bytes}
    {answers : List Answer} (hanswers : decodeAnswers body = .ok answers)
    (hfill : Fillable first elems.length answers)
    (hmissing : ∃ i < elems.length, ∀ r ∈ answers.filterMap Answer.reply?, r.id ≠ first + i) :
    ∃ (i : Nat) (h : i < elems.length),
      (∀ r ∈ answers.filterMap Answer.reply?, r.id ≠ first + i) ∧
      (∀ j < i, ∃ r ∈ answers.filterMap Answer.reply?, r.id = first + j) ∧
      decodeBatch elems first body
        = .error (.transport s!"missing response for batch element `{elems[i].method}`") := by
  rw [decodeBatch_of_fillSlots_ok hanswers (fillSlots_of_fillable hfill)]
  split
  · rename_i e he
    obtain ⟨i, h, rfl, hnone, hbefore⟩ := find?_collect_eq_some_iff.mp he
    exact ⟨i, h, hnone, hbefore, rfl⟩
  · rename_i hnone
    obtain ⟨i, hi, hall⟩ := hmissing
    obtain ⟨r, hr, hid⟩ := find?_collect_eq_none_iff.mp hnone i hi
    exact absurd hid (hall r hr)

end EthClient
