import EthClient.Proofs.Members
import EthClient.Rpc.Envelope
import Mathlib.Algebra.Group.Int.Defs
import Mathlib.Algebra.Group.Nat.Defs

/-! # Responses are read as what they say

A response of JSON-RPC 2.0 is an object with the version of the protocol, the id of a request, and
either a result or an error. `IsErrorObject` and `IsResponse` say this of the members of an object,
in whatever order and with whatever members beside them. The readers take such objects for what they
say:

* **`IsErrorObject.decoder_eq`**: an error object is read as its error;
* **`IsResponse.decoder_eq`**: a response with an id of 64 bits is read as the answer with this id
  and outcome;
* **`IsResponse.of_decoder_eq`**: conversely an object with an error object and without a result is
  read only if it is such a response. -/

namespace EthClient

open Json (StringToken)

/-! ## Readers of single values -/

namespace Decoder

/-- Which integers are read. -/
theorem intWithin_eq_ok_iff {low high i : Int} {d : Document} :
    intWithin low high d = .ok i ↔ d = .number (some (.integer i)) ∧ low ≤ i ∧ i ≤ high := by
  match d with
  | .number (some (.integer n)) =>
    by_cases h : low ≤ n ∧ n ≤ high
    · have hread : intWithin low high (.number (some (.integer n))) = .ok n := by
        simp [intWithin, h]
      rw [hread]
      constructor
      · rintro ⟨rfl⟩
        exact ⟨rfl, h⟩
      · rintro ⟨heq, -⟩
        cases heq
        rfl
    · have hread : intWithin low high (.number (some (.integer n))) = .error .shape := by
        simp [intWithin, h]
      rw [hread]
      constructor
      · nofun
      · rintro ⟨heq, hbounds⟩
        cases heq
        exact absurd hbounds h
  | .null | .bool _ | .number none | .number (some (.double _)) | .string _ | .array _ | .object _
  | .broken => simp [intWithin]

/-- Which natural numbers are read. -/
theorem nat64_eq_ok_iff {n : Nat} {d : Document} :
    nat64 d = .ok n ↔ d = .number (some (.integer n)) ∧ n < 2 ^ 64 := by
  have hread : nat64 d = (intWithin 0 0xFFFFFFFFFFFFFFFF d).map Int.toNat := rfl
  rw [hread]
  constructor
  · intro h
    cases hi : intWithin 0 0xFFFFFFFFFFFFFFFF d with
    | error e =>
      rw [hi] at h
      cases h
    | ok i =>
      rw [hi] at h
      obtain ⟨rfl, hlow, hhigh⟩ := intWithin_eq_ok_iff.mp hi
      obtain rfl : i.toNat = n := Except.ok.inj h
      have hi : (i.toNat : Int) = i := by omega
      exact ⟨by rw [hi], by omega⟩
  · rintro ⟨rfl, hn⟩
    rw [intWithin_eq_ok_iff.mpr ⟨rfl, by omega, by omega⟩]
    rfl

/-- Which texts are read. -/
theorem text_eq_ok_iff {s : String} {d : Document} :
    text d = .ok s ↔ ∃ token, d = .string token ∧ token.text? = some s := by
  match d with
  | .string token =>
    have hread : text (.string token) = Fault.ofOption token.text? := rfl
    rw [hread]
    cases ht : token.text? <;> simp [Fault.ofOption, ht]
  | .null | .bool _ | .number _ | .array _ | .object _ | .broken => simp [text]

/-- Which texts without escapes are read. -/
theorem verbatimText_eq_ok_iff {s : String} {d : Document} :
    verbatimText d = .ok s ↔
      ∃ token, d = .string token ∧ token.verbatim = true ∧ token.text? = some s := by
  match d with
  | .string token =>
    by_cases hv : token.verbatim = true
    · have hread : verbatimText (.string token) = Fault.ofOption token.text? := by
        simp [verbatimText, hv]
      rw [hread]
      cases ht : token.text? <;> simp [Fault.ofOption, hv, ht]
    · simp [verbatimText, hv]
  | .null | .bool _ | .number _ | .array _ | .object _ | .broken => simp [verbatimText]

/-- Which values are read. -/
theorem json_eq_ok_iff {depth : Nat} {j : Json} {d : Document} :
    json depth d = .ok j ↔ d.toJson? depth = some j := by
  have hread : json depth d = Fault.ofOption (d.toJson? depth) := rfl
  rw [hread]
  cases d.toJson? depth <;> simp [Fault.ofOption]

/-- A value that is put into a slot was read. -/
theorem map_some_eq_ok_iff {α : Type} {read : Except Fault α} {slot : Option α} :
    read.map some = .ok slot ↔ ∃ a, read = .ok a ∧ some a = slot := by
  cases read <;> simp [Except.map]

/-- An object is read as a value. -/
theorem nullable_object {α : Type} (d : Decoder α) (ms : List (StringToken × Document)) :
    nullable d (.object ms) = (d (.object ms)).map some := rfl

/-- So is everything else. -/
theorem nullable_of_ne {α : Type} (d : Decoder α) {doc : Document} (h : doc ≠ .null) :
    nullable d doc = (d doc).map some := by
  cases doc with
  | null => exact absurd rfl h
  | _ => rfl

end Decoder

namespace Document

/-- Every key is a text, and what stands at another key than the known ones is JSON to its end. -/
def Legible (known : List String) (ms : List (StringToken × Document)) : Prop :=
  ∀ m ∈ ms, ∃ k, m.1.text? = some k ∧ (k ∉ known → m.2.complete = true)

end Document

/-- Whether an object is legible is a matter of the keys that a record knows. -/
theorem Record.legible_iff {F S : Type} {r : Record F S} {known : List String}
    (h : ∀ k, r.field? k = none ↔ k ∉ known) (ms : List (StringToken × Document)) :
    r.Legible ms ↔ Document.Legible known ms := by
  simp [Legible, Document.Legible, h]

/-! ## Errors -/

/-- The members of an error object: an integer of 64 bits as its code, a text as its message, and
perhaps a value as its data, at most `depth` arrays and objects deep. -/
structure IsErrorObject (depth : Nat) (e : RpcError) (ms : List (StringToken × Document)) :
    Prop where
  legible : Document.Legible ["code", "message", "data"] ms
  code : Document.valuesOf "code" ms = [.number (some (.integer e.code))]
  code_bounds : -2 ^ 63 ≤ e.code ∧ e.code < 2 ^ 63
  message : ∃ token, Document.valuesOf "message" ms = [.string token] ∧
    token.text? = some e.message
  data : match e.data with
    | none => Document.valuesOf "data" ms = [] ∨ Document.valuesOf "data" ms = [.null]
    | some j => ∃ d, d ≠ .null ∧ Document.valuesOf "data" ms = [d] ∧ d.toJson? depth = some j

namespace RpcError

/-- The slots of an error object. -/
def slots (depth : Nat) : (record depth).Slots where
  Value
    | .code => Option Int
    | .message => Option String
    | .data => Option Json
  parse
    | .code => fun d => (Decoder.int64 d).map some
    | .message => fun d => (Decoder.text d).map some
    | .data => Decoder.nullable (Decoder.json depth)
  get
    | .code, s => s.code
    | .message, s => s.message
    | .data, s => s.data
  set
    | .code, v, s => { s with code := v }
    | .message, v, s => { s with message := v }
    | .data, v, s => { s with data := v }
  read_eq := by
    intro f d s
    cases f with
    | code =>
      simp only [record]
      cases Decoder.int64 d <;> rfl
    | message =>
      simp only [record]
      cases Decoder.text d <;> rfl
    | data =>
      simp only [record]
      cases Decoder.nullable (Decoder.json depth) d <;> rfl
  get_set_self := by
    intro f v s
    cases f <;> rfl
  get_set_of_ne := by
    intro f g hne v s
    cases f <;> cases g <;> first | rfl | exact absurd rfl hne
  ext := by
    intro s s' h
    obtain ⟨code, message, data⟩ := s
    obtain ⟨code', message', data'⟩ := s'
    obtain rfl : code = code' := h .code
    obtain rfl : message = message' := h .message
    obtain rfl : data = data' := h .data
    rfl

/-- The fields of an error object by their keys. -/
theorem given_eq (depth : Nat) (f : Field) (ms : List (StringToken × Document)) :
    (record depth).given f ms = Document.valuesOf
      (match f with | .code => "code" | .message => "message" | .data => "data") ms := by
  refine Record.given_eq_valuesOf (fun k => ?_) ms
  unfold record
  dsimp only
  split <;> cases f <;> simp_all

/-- The keys of an error object. -/
theorem legible_iff (depth : Nat) (ms : List (StringToken × Document)) :
    (record depth).Legible ms ↔ Document.Legible ["code", "message", "data"] ms := by
  refine Record.legible_iff (fun k => ?_) ms
  unfold record
  dsimp only
  split <;> simp_all

end RpcError

/-- **An error object is read as its error.** -/
theorem IsErrorObject.decoder_eq {outer : Nat} {e : RpcError}
    {ms : List (StringToken × Document)} (h : IsErrorObject (Json.maxDepth - outer - 1) e ms) :
    RpcError.decoder outer (.object ms) = .ok e := by
  have hdecode : (RpcError.record (Json.maxDepth - outer - 1)).decode {} (.object ms)
      = .ok ⟨some e.code, some e.message, e.data⟩ := by
    refine (RpcError.slots _).decode_object_eq_ok_iff.mpr
      ⟨(RpcError.legible_iff _ ms).mpr h.legible, fun f => ?_⟩
    rw [RpcError.given_eq]
    cases f with
    | code =>
      have hbounds := h.code_bounds
      have hcode : Decoder.int64 (.number (some (.integer e.code))) = .ok e.code :=
        Decoder.intWithin_eq_ok_iff.mpr ⟨rfl, by omega, by omega⟩
      dsimp only
      rw [h.code]
      exact congrArg (Except.map some) hcode
    | message =>
      obtain ⟨token, hmessage, htext⟩ := h.message
      have hread := Decoder.text_eq_ok_iff.mpr ⟨token, rfl, htext⟩
      dsimp only
      rw [hmessage]
      exact congrArg (Except.map some) hread
    | data =>
      have hdata := h.data
      dsimp only
      cases he : e.data with
      | none =>
        rw [he] at hdata
        rcases hdata with hdata | hdata <;> rw [hdata] <;> rfl
      | some j =>
        rw [he] at hdata
        obtain ⟨d, hne, hdata, hvalue⟩ := hdata
        have hread : Decoder.nullable (Decoder.json (Json.maxDepth - outer - 1)) d
            = .ok (some j) := by
          rw [Decoder.nullable_of_ne _ hne, Decoder.json_eq_ok_iff.mpr hvalue]
          rfl
        rw [hdata]
        exact hread
  rw [RpcError.decoder, hdecode]
  rfl

/-- An object that is read as an error is an error object. -/
theorem IsErrorObject.of_decoder_eq {outer : Nat} {e : RpcError}
    {ms : List (StringToken × Document)} (h : RpcError.decoder outer (.object ms) = .ok e) :
    IsErrorObject (Json.maxDepth - outer - 1) e ms := by
  have hdecode : (RpcError.record (Json.maxDepth - outer - 1)).decode {} (.object ms)
      = .ok ⟨some e.code, some e.message, e.data⟩ := by
    cases hdecode : (RpcError.record (Json.maxDepth - outer - 1)).decode {} (.object ms) with
    | error fault =>
      rw [RpcError.decoder, hdecode] at h
      cases h
    | ok draft =>
      rw [RpcError.decoder, hdecode] at h
      obtain ⟨_ | code, _ | message, data⟩ := draft <;> cases h
      rfl
  obtain ⟨hlegible, hholds⟩ := (RpcError.slots _).decode_object_eq_ok_iff.mp hdecode
  simp only [RpcError.given_eq] at hholds
  -- code and message were given, and the data may have been
  obtain ⟨d, hcode, hint⟩ : ∃ d, Document.valuesOf "code" ms = [d] ∧
      (Decoder.int64 d).map some = .ok (some e.code) :=
    (RpcError.slots _).exists_of_holds (hholds .code) (Option.some_ne_none _)
  obtain ⟨d', hmessage, htext⟩ : ∃ d, Document.valuesOf "message" ms = [d] ∧
      (Decoder.text d).map some = .ok (some e.message) :=
    (RpcError.slots _).exists_of_holds (hholds .message) (Option.some_ne_none _)
  obtain ⟨_, hint, ⟨⟩⟩ := Decoder.map_some_eq_ok_iff.mp hint
  obtain ⟨_, htext, ⟨⟩⟩ := Decoder.map_some_eq_ok_iff.mp htext
  obtain ⟨rfl, hlow, hhigh⟩ := Decoder.intWithin_eq_ok_iff.mp hint
  obtain ⟨token, rfl, htoken⟩ := Decoder.text_eq_ok_iff.mp htext
  have hdata : Document.valuesOf "data" ms = [] ∧ e.data = none ∨
      ∃ d, Document.valuesOf "data" ms = [d] ∧
        Decoder.nullable (Decoder.json (Json.maxDepth - outer - 1)) d = .ok e.data :=
    (RpcError.slots _).holds_iff.mp (hholds .data)
  refine ⟨(RpcError.legible_iff _ ms).mp hlegible, hcode, by omega, ⟨token, hmessage, htoken⟩, ?_⟩
  rcases hdata with ⟨hdata, he⟩ | ⟨d, hdata, hread⟩
  · rw [he]
    exact .inl hdata
  · by_cases hnull : d = .null
    · subst hnull
      rw [← Except.ok.inj hread]
      exact .inr hdata
    · rw [Decoder.nullable_of_ne _ hnull] at hread
      obtain ⟨j, hjson, he⟩ := Decoder.map_some_eq_ok_iff.mp hread
      rw [← he]
      exact ⟨d, hnull, hdata, Decoder.json_eq_ok_iff.mp hjson⟩

/-! ## Responses -/

/-- What a response says: the id of its request, and a value or an error. -/
structure Reply where
  id : Nat
  outcome : Except RpcError Json

/-- What an answer says, if its result has a value. -/
def Answer.reply? (a : Answer) : Option Reply :=
  match a.outcome with
  | .error e => some ⟨a.id, .error e⟩
  | .ok doc => (Answer.value? doc).map fun v => ⟨a.id, .ok v⟩

/-- An answer that says an error holds it. -/
theorem Answer.outcome_of_reply? {a : Answer} {id : Nat} {e : RpcError}
    (h : a.reply? = some ⟨id, .error e⟩) : a.outcome = .error e := by
  obtain ⟨_, e' | doc⟩ := a
  · cases h
    rfl
  · obtain ⟨v, -, hv⟩ := Option.map_eq_some_iff.mp h
    cases hv

/-- The members of a response that stands `outer` arrays and objects deep: the version of the
protocol, an id, and either a result that has a value or an error. A null error is none, while a
null result is a result. -/
structure IsResponse (outer : Nat) (id : Document) (outcome : Except RpcError Json)
    (ms : List (StringToken × Document)) : Prop where
  legible : Document.Legible ["jsonrpc", "id", "result", "error"] ms
  version : ∃ token, Document.valuesOf "jsonrpc" ms = [.string token] ∧ token.verbatim = true ∧
    token.text? = some "2.0"
  id : Document.valuesOf "id" ms = [id]
  outcome : match outcome with
    | .ok v => (∃ d, Document.valuesOf "result" ms = [d] ∧ d.complete = true ∧
        d.decodable = true ∧ d.toJson? Json.maxDepth = some v) ∧
      (Document.valuesOf "error" ms = [] ∨ Document.valuesOf "error" ms = [.null])
    | .error e => Document.valuesOf "result" ms = [] ∧
      ∃ es, Document.valuesOf "error" ms = [.object es] ∧
        IsErrorObject (Json.maxDepth - outer - 2) e es

namespace Answer

/-- The slots of a response. -/
def slots (outer : Nat) : (record outer).Slots where
  Value
    | .version => Option String
    | .id => Option Nat
    | .result => Option Document
    | .error => Option RpcError
  parse
    | .version => fun d => (Decoder.verbatimText d).map some
    | .id => fun d => (Decoder.nat64 d).map some
    | .result => fun d => (result d).map some
    | .error => Decoder.nullable (RpcError.decoder (outer + 1))
  get
    | .version, s => s.version
    | .id, s => s.id
    | .result, s => s.result
    | .error, s => s.error
  set
    | .version, v, s => { s with version := v }
    | .id, v, s => { s with id := v }
    | .result, v, s => { s with result := v }
    | .error, v, s => { s with error := v }
  read_eq := by
    intro f d s
    cases f with
    | version =>
      simp only [record]
      cases Decoder.verbatimText d <;> rfl
    | id =>
      simp only [record]
      cases Decoder.nat64 d <;> rfl
    | result =>
      simp only [record]
      cases result d <;> rfl
    | error =>
      simp only [record]
      cases Decoder.nullable (RpcError.decoder (outer + 1)) d <;> rfl
  get_set_self := by
    intro f v s
    cases f <;> rfl
  get_set_of_ne := by
    intro f g hne v s
    cases f <;> cases g <;> first | rfl | exact absurd rfl hne
  ext := by
    intro s s' h
    obtain ⟨version, id, result, error⟩ := s
    obtain ⟨version', id', result', error'⟩ := s'
    obtain rfl : version = version' := h .version
    obtain rfl : id = id' := h .id
    obtain rfl : result = result' := h .result
    obtain rfl : error = error' := h .error
    rfl

/-- The fields of a response by their keys. -/
theorem given_eq (outer : Nat) (f : Field) (ms : List (StringToken × Document)) :
    (record outer).given f ms = Document.valuesOf
      (match f with
        | .version => "jsonrpc" | .id => "id" | .result => "result" | .error => "error") ms := by
  refine Record.given_eq_valuesOf (fun k => ?_) ms
  unfold record
  dsimp only
  split <;> cases f <;> simp_all

/-- The keys of a response. -/
theorem legible_iff (outer : Nat) (ms : List (StringToken × Document)) :
    (record outer).Legible ms ↔ Document.Legible ["jsonrpc", "id", "result", "error"] ms := by
  refine Record.legible_iff (fun k => ?_) ms
  unfold record
  dsimp only
  split <;> simp_all

/-- An answer was read from a response of version 2.0 with one outcome. -/
theorem decode_eq_of_decoder_eq {outer : Nat} {d : Document} {a : Answer}
    (h : decoder outer d = .ok a) :
    (record outer).decode {} d = .ok (match a.outcome with
      | .ok doc => ⟨some "2.0", some a.id, some doc, none⟩
      | .error e => ⟨some "2.0", some a.id, none, some e⟩) := by
  cases hdecode : (record outer).decode {} d with
  | error fault =>
    rw [decoder, hdecode] at h
    cases h
  | ok draft =>
    rw [decoder, hdecode] at h
    obtain ⟨_ | version, _ | id, result, error⟩ := draft
    · cases h
    · cases h
    · cases h
    · by_cases hversion : version = "2.0"
      · subst hversion
        cases result <;> cases error <;> cases h <;> rfl
      · change (if (version != "2.0") = true then (.error (.version version) : Except Fault Answer)
          else _) = .ok a at h
        rw [if_pos (by simpa using hversion)] at h
        cases h

end Answer

namespace IsResponse

variable {outer : Nat} {ms : List (StringToken × Document)}

/-- What is read from the members of a response. -/
theorem decode_eq {n : Nat} {outcome : Except RpcError Json} (hn : n < 2 ^ 64)
    (h : IsResponse outer (.number (some (.integer n))) outcome ms) {draft : Answer.Draft}
    (hversion : draft.version = some "2.0") (hid : draft.id = some n)
    (hresult : (Answer.slots outer).Holds {} .result (Document.valuesOf "result" ms) draft)
    (herror : (Answer.slots outer).Holds {} .error (Document.valuesOf "error" ms) draft) :
    (Answer.record outer).decode {} (.object ms) = .ok draft := by
  refine (Answer.slots outer).decode_object_eq_ok_iff.mpr
    ⟨(Answer.legible_iff outer ms).mpr h.legible, fun f => ?_⟩
  rw [Answer.given_eq]
  cases f with
  | version =>
    obtain ⟨token, hvalues, hverbatim, htext⟩ := h.version
    have hread : (Decoder.verbatimText (.string token)).map some = .ok draft.version := by
      rw [Decoder.verbatimText_eq_ok_iff.mpr ⟨token, rfl, hverbatim, htext⟩, hversion]
      rfl
    dsimp only
    rw [hvalues]
    exact hread
  | id =>
    have hread : (Decoder.nat64 (.number (some (.integer n)))).map some = .ok draft.id := by
      rw [Decoder.nat64_eq_ok_iff.mpr ⟨rfl, hn⟩, hid]
      rfl
    dsimp only
    rw [h.id]
    exact hread
  | result => exact hresult
  | error => exact herror

/-- **A response is read as what it says**, if its id has 64 bits. -/
theorem decoder_eq {n : Nat} {outcome : Except RpcError Json} (hn : n < 2 ^ 64)
    (h : IsResponse outer (.number (some (.integer n))) outcome ms) :
    ∃ a, Answer.decoder outer (.object ms) = .ok a ∧ a.reply? = some ⟨n, outcome⟩ := by
  have houtcome := h.outcome
  cases outcome with
  | ok v =>
    obtain ⟨⟨d, hresult, hcomplete, hdecodable, hvalue⟩, herror⟩ := houtcome
    have hread : Answer.result d = .ok d := by
      rw [Answer.result, hcomplete, hdecodable]
      rfl
    have hdecode : (Answer.record outer).decode {} (.object ms)
        = .ok ⟨some "2.0", some n, some d, none⟩ := h.decode_eq hn rfl rfl
      (by
        rw [hresult]
        exact congrArg (Except.map some) hread)
      (by rcases herror with herror | herror <;> rw [herror] <;> rfl)
    refine ⟨⟨n, .ok d⟩, ?_, ?_⟩
    · rw [Answer.decoder, hdecode]
      rfl
    · exact congrArg (Option.map fun v => (⟨n, .ok v⟩ : Reply)) hvalue
  | error e =>
    obtain ⟨hresult, es, herror, hes⟩ := houtcome
    have hread : Decoder.nullable (RpcError.decoder (outer + 1)) (.object es)
        = .ok (some e) := by
      have hdepth : Json.maxDepth - (outer + 1) - 1 = Json.maxDepth - outer - 2 := by omega
      rw [Decoder.nullable_object, IsErrorObject.decoder_eq (hdepth ▸ hes)]
      rfl
    have hdecode : (Answer.record outer).decode {} (.object ms)
        = .ok ⟨some "2.0", some n, none, some e⟩ := h.decode_eq hn rfl rfl
      (by
        rw [hresult]
        rfl)
      (by
        rw [herror]
        exact hread)
    refine ⟨⟨n, .error e⟩, ?_, rfl⟩
    rw [Answer.decoder, hdecode]
    rfl

/-- An object with an error object and without a result is read as an error answer or not at all,
and it is read only if it is a response. -/
theorem of_decoder_eq {es : List (StringToken × Document)} {a : Answer}
    (hresult : Document.valuesOf "result" ms = [])
    (herror : Document.valuesOf "error" ms = [.object es])
    (h : Answer.decoder outer (.object ms) = .ok a) :
    ∃ e, a.outcome = .error e ∧ a.id < 2 ^ 64 ∧
      IsResponse outer (.number (some (.integer a.id))) (.error e) ms := by
  obtain ⟨id, outcome⟩ := a
  obtain ⟨hlegible, hholds⟩ :=
    (Answer.slots outer).decode_object_eq_ok_iff.mp (Answer.decode_eq_of_decoder_eq h)
  simp only [Answer.given_eq] at hholds
  cases outcome with
  | ok doc =>
    -- no result was given
    have hgiven : ∃ d, Document.valuesOf "result" ms = [d] ∧
        (Answer.result d).map some = .ok (some doc) :=
      (Answer.slots outer).exists_of_holds (hholds .result) (Option.some_ne_none _)
    rw [hresult] at hgiven
    obtain ⟨_, hgiven, -⟩ := hgiven
    cases hgiven
  | error e =>
    obtain ⟨d, hversion, htext⟩ : ∃ d, Document.valuesOf "jsonrpc" ms = [d] ∧
        (Decoder.verbatimText d).map some = .ok (some "2.0") :=
      (Answer.slots outer).exists_of_holds (hholds .version) (Option.some_ne_none _)
    obtain ⟨d', hid, hnat⟩ : ∃ d, Document.valuesOf "id" ms = [d] ∧
        (Decoder.nat64 d).map some = .ok (some id) :=
      (Answer.slots outer).exists_of_holds (hholds .id) (Option.some_ne_none _)
    obtain ⟨d'', herr, hread⟩ : ∃ d, Document.valuesOf "error" ms = [d] ∧
        Decoder.nullable (RpcError.decoder (outer + 1)) d = .ok (some e) :=
      (Answer.slots outer).exists_of_holds (hholds .error) (Option.some_ne_none _)
    obtain rfl : d'' = .object es := by
      rw [herr] at herror
      exact List.head_eq_of_cons_eq herror
    rw [Decoder.nullable_object] at hread
    obtain ⟨_, htext, ⟨⟩⟩ := Decoder.map_some_eq_ok_iff.mp htext
    obtain ⟨_, hnat, ⟨⟩⟩ := Decoder.map_some_eq_ok_iff.mp hnat
    obtain ⟨_, hread, ⟨⟩⟩ := Decoder.map_some_eq_ok_iff.mp hread
    obtain ⟨token, rfl, htoken⟩ := Decoder.verbatimText_eq_ok_iff.mp htext
    obtain ⟨rfl, hbound⟩ := Decoder.nat64_eq_ok_iff.mp hnat
    have hdepth : Json.maxDepth - outer - 2 = Json.maxDepth - (outer + 1) - 1 := by omega
    exact ⟨e, rfl, hbound, (Answer.legible_iff outer ms).mp hlegible, ⟨token, hversion, htoken⟩,
      hid, hresult, es, herror, hdepth ▸ IsErrorObject.of_decoder_eq hread⟩

end IsResponse

end EthClient
