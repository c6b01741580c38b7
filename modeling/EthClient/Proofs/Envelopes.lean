import EthClient.Proofs.Exchange
import EthClient.Proofs.Grammar

/-! # Which responses are accepted

An **envelope** (`Document.IsEnvelope`) is an object with the version of the protocol and an id, and
with whatever else. What a call comes to is settled by its result and its error alone
(**`Document.IsEnvelope.decoder_eq_ok_iff`**): a result that is there is an answer, even if it is
null, and an error that is null is none. In an answer the result must have a value by itself; what
is no answer and no error answer is a fault of the transport
(**`decodeResponse_settles`**). -/

namespace EthClient

open Json (StringToken)

/-! ## What an answer was read from -/

namespace Answer

/-- The answer while it is read, when all of it is there. -/
def draft (a : Answer) : Draft :=
  match a.outcome with
  | .ok doc => ⟨some "2.0", some a.id, some doc, none⟩
  | .error e => ⟨some "2.0", some a.id, none, some e⟩

/-- **An answer is read exactly if its fields are.** -/
theorem decoder_eq_ok_iff {outer : Nat} {d : Document} {a : Answer} :
    decoder outer d = .ok a ↔ (record outer).decode {} d = .ok a.draft := by
  refine ⟨decode_eq_of_decoder_eq, fun h => ?_⟩
  rw [decoder, h]
  obtain ⟨id, _ | _⟩ := a <;> rfl

/-- Which documents are results: those that are JSON to the end, and text in all their bytes. -/
theorem result_eq_ok_iff {d doc : Document} :
    result d = .ok doc ↔ d = doc ∧ d.complete = true ∧ d.decodable = true := by
  rw [result]
  by_cases h : (d.complete && d.decodable) = true
  · rw [if_pos h]
    simpa using fun _ => by simpa using h
  · rw [if_neg h]
    simpa using fun _ hc => by simpa [hc] using h

end Answer

/-- A value that may be null is one. -/
theorem Decoder.nullable_eq_ok_some_iff {α : Type} {d : Decoder α} {doc : Document} {a : α} :
    nullable d doc = .ok (some a) ↔ doc ≠ .null ∧ d doc = .ok a := by
  by_cases hnull : doc = .null
  · subst hnull
    simp [nullable]
  · rw [nullable_of_ne d hnull, map_some_eq_ok_iff]
    simp [hnull]

/-- Or it is null. -/
theorem Decoder.nullable_eq_ok_none_iff {α : Type} {d : Decoder α} {doc : Document} :
    nullable d doc = .ok none ↔ doc = .null := by
  by_cases hnull : doc = .null
  · subst hnull
    simp [nullable]
  · rw [nullable_of_ne d hnull, map_some_eq_ok_iff]
    simp [hnull]

namespace Answer

/-- The result of an answer was read from the only one, and an error answer has none. -/
theorem holds_result_iff {a : Answer} {ds : List Document} :
    (slots 0).Holds {} .result ds a.draft ↔ match a.outcome with
      | .ok d => ds = [d] ∧ d.complete = true ∧ d.decodable = true
      | .error _ => ds = [] := by
  rw [Record.Slots.holds_iff]
  obtain ⟨id, e | doc⟩ := a
  · change ds = [] ∧ none = none ∨ (∃ d, ds = [d] ∧ (result d).map some = .ok none) ↔ ds = []
    simp only [Decoder.map_some_eq_ok_iff, reduceCtorEq, and_false, exists_false, or_false,
      and_true]
  · change ds = [] ∧ some doc = none ∨
        (∃ d, ds = [d] ∧ (result d).map some = .ok (some doc)) ↔
      ds = [doc] ∧ doc.complete = true ∧ doc.decodable = true
    simp only [Decoder.map_some_eq_ok_iff, result_eq_ok_iff, reduceCtorEq, and_false, false_or,
      Option.some.injEq]
    constructor
    · rintro ⟨d, hd, doc, ⟨rfl, hread⟩, rfl⟩
      exact ⟨hd, hread⟩
    · rintro ⟨hd, hread⟩
      exact ⟨doc, hd, doc, ⟨rfl, hread⟩, rfl⟩

/-- The error of an error answer was read from the only one, and an answer has none, or null. -/
theorem holds_error_iff {a : Answer} {ds : List Document} :
    (slots 0).Holds {} .error ds a.draft ↔ match a.outcome with
      | .ok _ => ds = [] ∨ ds = [.null]
      | .error e => ∃ d, ds = [d] ∧ RpcError.decoder 1 d = .ok e := by
  rw [Record.Slots.holds_iff]
  obtain ⟨id, e | doc⟩ := a
  · change ds = [] ∧ some e = none ∨
        (∃ d, ds = [d] ∧ Decoder.nullable (RpcError.decoder 1) d = .ok (some e)) ↔
      ∃ d, ds = [d] ∧ RpcError.decoder 1 d = .ok e
    simp only [Decoder.nullable_eq_ok_some_iff, reduceCtorEq, and_false, false_or]
    refine exists_congr fun d => and_congr_right fun _ => and_iff_right_of_imp ?_
    -- an error is not null
    rintro hread rfl
    cases hread
  · change ds = [] ∧ none = none ∨
        (∃ d, ds = [d] ∧ Decoder.nullable (RpcError.decoder 1) d = .ok none) ↔
      ds = [] ∨ ds = [.null]
    simp only [Decoder.nullable_eq_ok_none_iff, and_true, exists_eq_right]

end Answer

/-! ## Envelopes -/

/-- A body is an object with the version of the protocol, spelled without escapes, and an id of 64
bits. It has neither of them twice, nor a result or an error. -/
structure Document.IsEnvelope (body : Bytes) (ms : List (StringToken × Document)) (n : Nat) :
    Prop where
  body : (Document.object ms).IsBody body
  /-- The names of an object are strings of characters, and half of a surrogate pair is none. -/
  names : ∀ m ∈ ms, m.1.text?.isSome = true
  version : ∃ token, valuesOf "jsonrpc" ms = [.string token] ∧ token.verbatim = true ∧
    token.text? = some "2.0"
  id : valuesOf "id" ms = [.number (some (.integer n))]
  id_lt : n < 2 ^ 64
  result_once : (valuesOf "result" ms).length ≤ 1
  error_once : (valuesOf "error" ms).length ≤ 1

namespace Document

variable {body : Bytes} {ms : List (StringToken × Document)} {n : Nat}

/-- The error of an envelope is absent or null. -/
def NoError (ms : List (StringToken × Document)) : Prop :=
  valuesOf "error" ms = [] ∨ valuesOf "error" ms = [.null]

/-- The error of an envelope says this. -/
def SaysError (ms : List (StringToken × Document)) (e : RpcError) : Prop :=
  ∃ d, valuesOf "error" ms = [d] ∧ RpcError.decoder 1 d = .ok e

/-- The members of an object that is a body are JSON to their ends. -/
theorem complete_of_isBody (h : (Document.object ms).IsBody body) :
    ∀ m ∈ ms, m.2.complete = true := by
  obtain ⟨rest, hreads, -⟩ := ofSymbols_eq_true_iff.mp h
  have hcomplete := hreads.complete
  rw [complete, completeMembers_eq_all] at hcomplete
  simpa using hcomplete

/-- A value of an object is that of a member. -/
theorem mem_of_valuesOf {key : String} {d : Document} (h : valuesOf key ms = [d]) :
    ∃ m ∈ ms, m.2 = d := by
  have hd : d ∈ valuesOf key ms := by
    rw [h]
    exact List.mem_singleton_self d
  obtain ⟨m, hm, hd⟩ := List.mem_map.mp hd
  exact ⟨m, List.mem_of_mem_filter hm, hd⟩

namespace IsEnvelope

/-- Only the result and the error of an envelope are left to be read. -/
theorem decode_eq_ok_iff (h : IsEnvelope body ms n) {draft : Answer.Draft} :
    (Answer.record 0).decode {} (.object ms) = .ok draft ↔
      (draft.version = some "2.0" ∧ draft.id = some n) ∧
        (Answer.slots 0).Holds {} .result (valuesOf "result" ms) draft ∧
        (Answer.slots 0).Holds {} .error (valuesOf "error" ms) draft := by
  have hlegible : (Answer.record 0).Legible ms := by
    intro m hm
    obtain ⟨name, hname⟩ := Option.isSome_iff_exists.mp (h.names m hm)
    exact ⟨name, hname, fun _ => complete_of_isBody h.body m hm⟩
  obtain ⟨token, hversion, hverbatim, htext⟩ := h.version
  have hreadVersion : Decoder.verbatimText (.string token) = .ok "2.0" :=
    Decoder.verbatimText_eq_ok_iff.mpr ⟨token, rfl, hverbatim, htext⟩
  have hreadId : Decoder.nat64 (.number (some (.integer n))) = .ok n :=
    Decoder.nat64_eq_ok_iff.mpr ⟨rfl, h.id_lt⟩
  rw [(Answer.slots 0).decode_object_eq_ok_iff]
  simp only [Answer.given_eq]
  -- the version and the id are read in every envelope, so they say nothing but what is in the draft
  constructor
  · rintro ⟨-, hholds⟩
    have hfirst : (Answer.slots 0).Holds {} .version (valuesOf "jsonrpc" ms) draft :=
      hholds .version
    have hsecond : (Answer.slots 0).Holds {} .id (valuesOf "id" ms) draft := hholds .id
    rw [hversion] at hfirst
    rw [h.id] at hsecond
    have hfirst : (Decoder.verbatimText (.string token)).map some = .ok draft.version := hfirst
    have hsecond : (Decoder.nat64 (.number (some (.integer n)))).map some = .ok draft.id := hsecond
    rw [hreadVersion] at hfirst
    rw [hreadId] at hsecond
    exact ⟨⟨(Except.ok.inj hfirst).symm, (Except.ok.inj hsecond).symm⟩, hholds .result,
      hholds .error⟩
  · rintro ⟨⟨hdraftVersion, hdraftId⟩, hresult, herror⟩
    refine ⟨hlegible, fun f => ?_⟩
    cases f with
    | version =>
      have hread : (Decoder.verbatimText (.string token)).map some = .ok draft.version := by
        rw [hreadVersion, hdraftVersion]
        rfl
      dsimp only
      rw [hversion]
      exact hread
    | id =>
      have hread : (Decoder.nat64 (.number (some (.integer n)))).map some = .ok draft.id := by
        rw [hreadId, hdraftId]
        rfl
      dsimp only
      rw [h.id]
      exact hread
    | result => exact hresult
    | error => exact herror

/-- **An envelope is an answer** if there is a result, and no error but null; and it is an error
answer if there is no result, and the error can be read. -/
theorem decoder_eq_ok_iff (h : IsEnvelope body ms n) {a : Answer} :
    Answer.decoder 0 (.object ms) = .ok a ↔
      a.id = n ∧ match a.outcome with
        | .ok d => valuesOf "result" ms = [d] ∧ d.decodable = true ∧ NoError ms
        | .error e => valuesOf "result" ms = [] ∧ SaysError ms e := by
  rw [Answer.decoder_eq_ok_iff, h.decode_eq_ok_iff, Answer.holds_result_iff,
    Answer.holds_error_iff]
  obtain ⟨id, outcome⟩ := a
  cases outcome with
  | ok d =>
    have hcomplete (hd : valuesOf "result" ms = [d]) : d.complete = true := by
      obtain ⟨m, hm, rfl⟩ := mem_of_valuesOf hd
      exact complete_of_isBody h.body m hm
    simp only [Answer.draft, Option.some.injEq, true_and, NoError]
    exact ⟨fun ⟨hid, ⟨hd, _, hdecodable⟩, herror⟩ => ⟨hid, hd, hdecodable, herror⟩,
      fun ⟨hid, hd, hdecodable, herror⟩ => ⟨hid, ⟨hd, hcomplete hd, hdecodable⟩, herror⟩⟩
  | error e => simp only [Answer.draft, Option.some.injEq, true_and, SaysError]

end IsEnvelope

end Document

/-! ## What a call comes to -/

/-- A body that is text is shown as this text. -/
theorem Text.Utf8.lossy_of_decode? {body : Bytes} {t : String} (h : decode? body = some t) :
    lossy body = t := by
  obtain ⟨cs, hcs, rfl⟩ := Option.map_eq_some_iff.mp h
  clear h
  -- each symbol is a character, so none of them is replaced
  rw [lossy]
  generalize symbols body = symbols at hcs
  induction symbols generalizing cs with
  | nil =>
    cases hcs
    rfl
  | cons s symbols ih =>
    rw [List.mapM_cons] at hcs
    obtain ⟨c, hc, hcs⟩ := Option.bind_eq_some_iff.mp hcs
    obtain ⟨cs, hlater, hcs⟩ := Option.bind_eq_some_iff.mp hcs
    cases hcs
    have hs : s = some c := hc
    rw [List.map_cons, hs, String.ofList_cons, String.ofList_cons, ih cs hlater]
    rfl

/-- **A response is an answer, an error answer, or malformed.** -/
theorem decodeResponse_cases {body : Bytes} {answer : Except Fault Answer}
    (h : (Answer.decoder 0).runSymbols (Text.Utf8.symbols body) = answer) :
    (∃ n d v, answer = .ok ⟨n, .ok d⟩ ∧ Answer.value? d = some v ∧ decodeResponse body = .ok v) ∨
    (∃ n e, answer = .ok ⟨n, .error e⟩ ∧ decodeResponse body = .error (.rpc e)) ∨
    ∃ fault, decodeResponse body = .error (.malformed fault body) := by
  rw [decodeResponse, h]
  obtain fault | ⟨n, e | d⟩ := answer
  · exact .inr (.inr ⟨fault, rfl⟩)
  · exact .inr (.inl ⟨n, e, rfl, rfl⟩)
  · dsimp only
    cases hv : Answer.value? d with
    | none => exact .inr (.inr ⟨.shape, rfl⟩)
    | some v => exact .inl ⟨n, d, v, rfl, hv, rfl⟩

/-- What stands in a body at the place of a value: a text behind a colon that says this value. -/
structure Document.IsTextOf (d : Document) (body : Bytes) (t : List Text.Symbol) : Prop where
  place : some ':' :: t <:+: Text.Utf8.symbols body
  meaning : Document.ofSymbols t = (d, true)

namespace Document

variable {body : Bytes} {ms : List (StringToken × Document)} {d : Document}

/-- The text of a value has the value that the document has. -/
theorem IsTextOf.ofSymbols? {t : List Text.Symbol} (h : d.IsTextOf body t) :
    Json.ofSymbols? t = d.toJson? Json.maxDepth := by
  rw [Json.ofSymbols?, h.meaning]

/-- The values of an object in a body have texts there. -/
theorem exists_isTextOf (h : (Document.object ms).IsBody body) {key : String}
    (hd : valuesOf key ms = [d]) : ∃ t, d.IsTextOf body t := by
  obtain ⟨m, hm, rfl⟩ := mem_of_valuesOf hd
  obtain ⟨t, ht, hsays⟩ := exists_text_of_member h m hm
  exact ⟨t, ht, hsays⟩

/-- A value of an object in a body that has a value is text in all its bytes. -/
theorem decodable_of_isBody (h : (Document.object ms).IsBody body) {key : String}
    (hd : valuesOf key ms = [d]) {depth : Nat} {v : Json} (hv : d.toJson? depth = some v) :
    d.decodable = true := by
  obtain ⟨t, ht⟩ := exists_isTextOf h hd
  obtain ⟨rest, hreads, -⟩ := ofSymbols_eq_true_iff.mp ht.meaning
  exact hreads.decodable hv

/-- The only result in an envelope has a text with this value. -/
def SaysResult (body : Bytes) (ms : List (StringToken × Document)) (v : Json) : Prop :=
  ∃ d t, valuesOf "result" ms = [d] ∧ d.IsTextOf body t ∧ Json.ofSymbols? t = some v

/-- That is what the document says. -/
theorem saysResult_iff (h : (Document.object ms).IsBody body) {v : Json} :
    SaysResult body ms v ↔
      ∃ d, valuesOf "result" ms = [d] ∧ d.toJson? Json.maxDepth = some v := by
  constructor
  · rintro ⟨d, t, hd, ht, hv⟩
    exact ⟨d, hd, by rw [← ht.ofSymbols?, hv]⟩
  · rintro ⟨d, hd, hv⟩
    obtain ⟨t, ht⟩ := exists_isTextOf h hd
    exact ⟨d, t, hd, ht, by rw [ht.ofSymbols?, hv]⟩

end Document

open Document in
/-- **What a response comes to.** Let a body be an envelope, with its members in any order and any
others between them. Then:

* it is an answer with some value exactly if there is a result, the text of which has this value,
  and there is no error but null;
* it is an error answer exactly if there is no result, and the error can be read as this one;
* in all other cases it is malformed: then the call may be made again, and the error shows the body,
  literally if it is text.

What is written like an object but has a name that is no string of characters is malformed too. -/
theorem decodeResponse_settles {body : Bytes} {ms : List (StringToken × Document)} {n : Nat}
    (h : IsEnvelope body ms n) :
    (∀ v, decodeResponse body = .ok v ↔ SaysResult body ms v ∧ NoError ms) ∧
    (∀ e, decodeResponse body = .error (.rpc e) ↔
      valuesOf "result" ms = [] ∧ SaysError ms e) ∧
    ((∀ v, ¬ (SaysResult body ms v ∧ NoError ms)) →
      (∀ e, ¬ (valuesOf "result" ms = [] ∧ SaysError ms e)) →
        ∃ fault err, decodeResponse body = .error err ∧ err.isRetryable = true ∧
          err = .malformedResponse fault (Text.Utf8.lossy body) ∧
          ∀ t, Text.Utf8.decode? body = some t → Text.Utf8.lossy body = t) ∧
    (∀ (body : Bytes) (ms : List (StringToken × Document)), (Document.object ms).IsBody body →
      (∃ m ∈ ms, m.1.text? = none) →
        ∃ fault, decodeResponse body = .error (.malformed fault body)) := by
  have hread : (Answer.decoder 0).runSymbols (Text.Utf8.symbols body)
      = Answer.decoder 0 (.object ms) := Decoder.runSymbols_of_isBody _ h.body
  have hok (v : Json) : decodeResponse body = .ok v ↔ SaysResult body ms v ∧ NoError ms := by
    rw [saysResult_iff h.body]
    constructor
    · intro hv
      obtain ⟨m, d, w, hanswer, hw, hdecode⟩ | ⟨m, e, -, hdecode⟩ | ⟨fault, hdecode⟩ :=
        decodeResponse_cases hread
      · obtain ⟨-, hd, -, herror⟩ := h.decoder_eq_ok_iff.mp hanswer
        rw [hdecode] at hv
        cases hv
        exact ⟨⟨d, hd, hw⟩, herror⟩
      · cases hdecode.symm.trans hv
      · cases hdecode.symm.trans hv
    · rintro ⟨⟨d, hd, hv⟩, herror⟩
      have hanswer : Answer.decoder 0 (.object ms) = .ok ⟨n, .ok d⟩ :=
        h.decoder_eq_ok_iff.mpr ⟨rfl, hd, decodable_of_isBody h.body hd hv, herror⟩
      rw [decodeResponse, hread, hanswer]
      dsimp only
      rw [Answer.value?, hv]
  have herr (e : RpcError) : decodeResponse body = .error (.rpc e) ↔
      valuesOf "result" ms = [] ∧ SaysError ms e := by
    constructor
    · intro he
      obtain ⟨m, d, w, -, -, hdecode⟩ | ⟨m, e', hanswer, hdecode⟩ | ⟨fault, hdecode⟩ :=
        decodeResponse_cases hread
      · cases hdecode.symm.trans he
      · rw [hdecode] at he
        cases he
        exact (h.decoder_eq_ok_iff.mp hanswer).2
      · cases hdecode.symm.trans he
    · intro herror
      have hanswer : Answer.decoder 0 (.object ms) = .ok ⟨n, .error e⟩ :=
        h.decoder_eq_ok_iff.mpr ⟨rfl, herror⟩
      rw [decodeResponse, hread, hanswer]
  refine ⟨hok, herr, fun hnoResult hnoError => ?_, fun body ms hbody hnames => ?_⟩
  · obtain ⟨-, -, v, -, -, hdecode⟩ | ⟨-, e, -, hdecode⟩ | ⟨fault, hdecode⟩ :=
      decodeResponse_cases hread
    · exact absurd ((hok v).mp hdecode) (hnoResult v)
    · exact absurd ((herr e).mp hdecode) (hnoError e)
    · exact ⟨fault, _, hdecode, rfl, rfl, fun t => Text.Utf8.lossy_of_decode?⟩
  · obtain ⟨m, hm, hname⟩ := hnames
    cases hanswer : Answer.decoder 0 (.object ms) with
    | error fault =>
      refine ⟨fault, ?_⟩
      rw [decodeResponse, Decoder.runSymbols_of_isBody _ hbody, hanswer]
    | ok a =>
      -- all names would have been texts
      obtain ⟨hlegible, -⟩ :=
        (Answer.slots 0).decode_object_eq_ok_iff.mp (Answer.decoder_eq_ok_iff.mp hanswer)
      obtain ⟨name, hsome, -⟩ := hlegible m hm
      cases hname.symm.trans hsome

/-- A body with a null result beside a null error, and with half of a surrogate pair in another
member. -/
def Text.nullResponse : String :=
  "\x7b\"error\":null,\"note\":\"\\ud800\",\"id\":7,\"result\":null,\"jsonrpc\":\"2.0\"\x7d"

/-- A body with this half in the place of the result. -/
def Text.halfResponse : String :=
  "\x7b\"id\":7,\"result\":\"\\ud800\",\"jsonrpc\":\"2.0\"\x7d"

set_option maxRecDepth 4000 in
/-- The one is an answer, whatever the other member. In the other one the result has no value. -/
theorem decodeResponse_settles_null :
    decodeResponse (Text.Utf8.encode Text.nullResponse) = .ok .null ∧
      ∃ fault, decodeResponse (Text.Utf8.encode Text.halfResponse)
        = .error (.malformedResponse fault Text.halfResponse) := by
  have hnull : Document.IsEnvelope (Text.Utf8.encode Text.nullResponse)
      [(.ofText "error", .null), (.ofText "note", .string (.ofPieces [.escaped 0xD800])),
        (.ofText "id", .number (some (.integer 7))), (.ofText "result", .null),
        (.ofText "jsonrpc", .string (.ofText "2.0"))] 7 := by
    refine ⟨?_, ?_, ⟨.ofText "2.0", rfl, rfl, rfl⟩, rfl, by decide, by decide, by decide⟩
    · unfold Document.IsBody
      cbv
    · simp [StringToken.ofText]
  have hhalf : Document.IsEnvelope (Text.Utf8.encode Text.halfResponse)
      [(.ofText "id", .number (some (.integer 7))),
        (.ofText "result", .string (.ofPieces [.escaped 0xD800])),
        (.ofText "jsonrpc", .string (.ofText "2.0"))] 7 := by
    refine ⟨?_, ?_, ⟨.ofText "2.0", rfl, rfl, rfl⟩, rfl, by decide, by decide, by decide⟩
    · unfold Document.IsBody
      cbv
    · simp [StringToken.ofText]
  obtain ⟨hanswer, -⟩ := decodeResponse_settles hnull
  obtain ⟨-, -, hmalformed, -⟩ := decodeResponse_settles hhalf
  have hresult : Document.SaysResult (Text.Utf8.encode Text.nullResponse) _ .null :=
    (Document.saysResult_iff hnull.body).mpr ⟨.null, rfl, rfl⟩
  refine ⟨(hanswer .null).mpr ⟨hresult, .inr rfl⟩, ?_⟩
  have hvalues : Document.valuesOf "result"
      [(.ofText "id", .number (some (.integer 7))),
        (.ofText "result", .string (.ofPieces [.escaped 0xD800])),
        (.ofText "jsonrpc", .string (.ofText "2.0"))]
      = [.string (.ofPieces [.escaped 0xD800])] := rfl
  obtain ⟨fault, err, hdecode, -, rfl, htext⟩ := hmalformed
    (by
      rintro v ⟨hv, -⟩
      obtain ⟨d, hd, hv⟩ := (Document.saysResult_iff hhalf.body).mp hv
      rw [hvalues] at hd
      cases hd
      cases hv)
    (by
      rintro e ⟨hresult, -⟩
      rw [hvalues] at hresult
      cases hresult)
  rw [hdecode, htext Text.halfResponse (by cbv)]
  exact ⟨fault, rfl⟩

end EthClient
