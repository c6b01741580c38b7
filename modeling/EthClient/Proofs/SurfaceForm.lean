import EthClient.Proofs.Arguments
import EthClient.Proofs.Rearrangement

/-! # Transaction arguments in any form

The same arguments can be written as an object with its members in any order, with or without
members that say nothing, with `data` under either of its names, or as an array. What is read does
not depend on it (**`TransactionArgs.decoder_ignores_form`**). -/

namespace EthClient

open Json (StringToken)
open Text (Symbol)

/-! ## Access lists -/

namespace AccessEntry

/-- The slots of an entry. -/
def slots : record.Slots where
  Value
    | .address => Option Address
    | .storageKeys => Option (List Hash)
  parse
    | .address => fun d => (Decoder.fixedBytes d).map some
    | .storageKeys => fun d => (Decoder.list Decoder.fixedBytes d).map some
  get
    | .address, s => s.1
    | .storageKeys, s => s.2
  set
    | .address, v, s => (v, s.2)
    | .storageKeys, v, s => (s.1, v)
  read_eq := by
    intro f d s
    cases f with
    | address =>
      simp only [record]
      cases Decoder.fixedBytes d <;> rfl
    | storageKeys =>
      simp only [record]
      cases Decoder.list Decoder.fixedBytes d <;> rfl
  get_set_self := by
    intro f v s
    cases f <;> rfl
  get_set_of_ne := by
    intro f g hne v s
    cases f <;> cases g <;> first | rfl | exact absurd rfl hne
  ext := by
    intro s s' h
    exact Prod.ext (h .address) (h .storageKeys)

/-- **An entry is read in any arrangement.** -/
theorem steady_decoder : Decoder.Steady decoder := by
  have hdecode : (record.decode (none, none)).Steady := by
    refine slots.steady_decode (fun f => ?_) (none, none)
    cases f with
    | address => exact (Decoder.steady_ofText _).map some
    | storageKeys => exact (Decoder.steady_ofText _).list.map some
  exact hdecode.bind _

end AccessEntry

/-! ## Arguments -/

namespace TransactionArgs

/-- The slots of arguments. -/
def slots : record.Slots where
  Value
    | .sender | .recipient => Option Address
    | .gas | .gasPrice | .maxFee | .maxPriorityFee | .value | .nonce => Option Amount
    | .data => Option Bytes
    | .accessList => Option AccessList
    | .chainId => Option Number64
    | .txType => Option TxType
  parse
    | .sender | .recipient => Decoder.nullable Decoder.fixedBytes
    | .gas | .gasPrice | .maxFee | .maxPriorityFee | .value | .nonce =>
      Decoder.nullable Decoder.quantity
    | .data => Decoder.nullable Decoder.bytes
    | .accessList => Decoder.nullable AccessList.decoder
    | .chainId => Decoder.nullable Decoder.quantity
    | .txType => Decoder.nullable TxType.decoder
  get
    | .sender, s => s.sender
    | .recipient, s => s.recipient
    | .gas, s => s.gas
    | .gasPrice, s => s.gasPrice
    | .maxFee, s => s.maxFee
    | .maxPriorityFee, s => s.maxPriorityFee
    | .value, s => s.value
    | .nonce, s => s.nonce
    | .data, s => s.data
    | .accessList, s => s.accessList
    | .chainId, s => s.chainId
    | .txType, s => s.txType
  set
    | .sender, v, s => { s with sender := v }
    | .recipient, v, s => { s with recipient := v }
    | .gas, v, s => { s with gas := v }
    | .gasPrice, v, s => { s with gasPrice := v }
    | .maxFee, v, s => { s with maxFee := v }
    | .maxPriorityFee, v, s => { s with maxPriorityFee := v }
    | .value, v, s => { s with value := v }
    | .nonce, v, s => { s with nonce := v }
    | .data, v, s => { s with data := v }
    | .accessList, v, s => { s with accessList := v }
    | .chainId, v, s => { s with chainId := v }
    | .txType, v, s => { s with txType := v }
  read_eq := by
    have hmap {α : Type} (r : Except Fault α) (put : α → TransactionArgs) :
        (do return put (← r)) = r.map put := by
      cases r <;> rfl
    intro f d s
    cases f <;> exact hmap _ _
  get_set_self := by
    intro f v s
    cases f <;> rfl
  get_set_of_ne := by
    intro f g hne v s
    cases f <;> cases g <;> first | rfl | exact absurd rfl hne
  ext := by
    intro s s' h
    cases s
    cases s'
    simp only [TransactionArgs.mk.injEq]
    exact ⟨h .sender, h .recipient, h .gas, h .gasPrice, h .maxFee, h .maxPriorityFee, h .value,
      h .nonce, h .data, h .accessList, h .chainId, h .txType⟩

/-- **Arguments are read in any arrangement.** -/
theorem steady_decoder : Decoder.Steady decoder := by
  refine slots.steady_decode (fun f => ?_) {}
  cases f with
  | sender | recipient => exact (Decoder.steady_ofText _).nullable
  | gas | gasPrice | maxFee | maxPriorityFee | value | nonce =>
    exact (Decoder.steady_ofText _).nullable
  | data => exact (Decoder.steady_ofText _).nullable
  | accessList => exact AccessEntry.steady_decoder.list.nullable
  | chainId => exact (Decoder.steady_ofText _).nullable
  | txType => exact ((Decoder.steady_ofText _).bind _).nullable

/-- A field goes by its key, and `data` also by `input`. -/
theorem Field.key_of_ofKey? {k : String} {f : Field} (h : ofKey? k = some f) :
    k = f.key ∨ k = "input" ∧ f = .data := by
  unfold ofKey? at h
  by_cases hinput : k = "input"
  · rw [if_pos (beq_iff_eq.mpr hinput)] at h
    exact .inr ⟨hinput, (Option.some.inj h).symm⟩
  · rw [if_neg (by simpa using hinput)] at h
    have hkey := List.find?_some h
    exact .inl (beq_iff_eq.mp hkey).symm

/-- **No field is named twice** if no name is and `data` goes by one of its names only. -/
theorem nodup_named {ms : List (StringToken × Document)} (hnames : (Document.names ms).Nodup)
    (hone : ¬ (some "data" ∈ Document.names ms ∧ some "input" ∈ Document.names ms)) :
    (ms.filterMap record.named).Nodup := by
  have hpairs : ms.Pairwise fun m m' => m.1.text? ≠ m'.1.text? := List.pairwise_map.mp hnames
  rw [List.Nodup, List.pairwise_filterMap]
  refine hpairs.imp_of_mem fun {m m'} hm hm' hne f hf f' hf' => ?_
  rintro rfl
  obtain ⟨k, hk, hf⟩ := Option.bind_eq_some_iff.mp hf
  obtain ⟨k', hk', hf'⟩ := Option.bind_eq_some_iff.mp hf'
  have hmem : some k ∈ Document.names ms := hk ▸ List.mem_map_of_mem hm
  have hmem' : some k' ∈ Document.names ms := hk' ▸ List.mem_map_of_mem hm'
  rw [hk, hk'] at hne
  rcases Field.key_of_ofKey? hf with rfl | ⟨rfl, rfl⟩ <;>
    rcases Field.key_of_ofKey? hf' with rfl | ⟨rfl, hdata⟩
  · exact hne rfl
  · subst hdata
    exact hone ⟨hmem, hmem'⟩
  · exact hone ⟨hmem', hmem⟩
  · exact hne rfl

/-- The member says nothing: it is null, or its name is none of a field. -/
def Idle (m : StringToken × Document) : Prop :=
  ∃ name, m.1.text? = some name ∧ (m.2 = .null ∨ Field.ofKey? name = none)

/-- Null is what the slot of a field holds at first. -/
theorem parse_null (f : Field) : slots.parse f .null = .ok (slots.get f {}) := by
  cases f <;> rfl

/-- **Members that say nothing may be left out.** -/
theorem decoder_filter {ms : List (StringToken × Document)}
    (hdistinct : (Document.object ms).Distinct)
    (hone : ¬ (some "data" ∈ Document.names ms ∧ some "input" ∈ Document.names ms))
    {keep : StringToken × Document → Bool} (hidle : ∀ m ∈ ms, keep m = false → Idle m) :
    decoder (.object (ms.filter keep)) = decoder (.object ms) := by
  obtain ⟨hnames, hvalues⟩ := Document.distinct_object.mp hdistinct
  refine slots.members_filter (nodup_named hnames hone) (fun _ _ => List.not_mem_nil)
    (fun _ _ => List.not_mem_nil) fun m hm hdrop => ?_
  obtain ⟨name, hname, hsays⟩ := hidle m hm hdrop
  refine ⟨by rw [hname]; rfl, (hvalues m hm).complete, fun f hf => ?_⟩
  have hfield : Field.ofKey? name = some f := by
    obtain ⟨k, hk, hf⟩ := Option.bind_eq_some_iff.mp hf
    obtain rfl : name = k := Option.some.inj (hname.symm.trans hk)
    exact hf
  rcases hsays with hnull | hnone
  · rw [hnull]
    exact parse_null f
  · rw [hfield] at hnone
    cases hnone

/-- The member is the same, or it goes by `input` instead of `data`. -/
def Renamed (m m' : StringToken × Document) : Prop :=
  m.2 = m'.2 ∧
    (m.1.text? = m'.1.text? ∨ m.1.text? = some "data" ∧ m'.1.text? = some "input")

/-- **Call data is read under both of its names.** -/
theorem decoder_renamed {ms ms' : List (StringToken × Document)} (h : List.Forall₂ Renamed ms ms') :
    decoder (.object ms') = decoder (.object ms) := by
  refine (record.members_congr (h.imp fun m m' hm => ?_) [] {}).symm
  obtain ⟨hvalue, hname | ⟨hdata, hinput⟩⟩ := hm
  · exact ⟨by rw [hname], by rw [Record.named, Record.named, hname], hvalue⟩
  · have hboth : Field.ofKey? "data" = Field.ofKey? "input" := by decide
    refine ⟨by rw [hdata, hinput]; rfl, ?_, hvalue⟩
    rw [Record.named, Record.named, hdata, hinput]
    exact hboth

/-- **An array is read like the object that gives its items** to the fields in wire order. -/
theorem decoder_array {items : List Document} (h : items.length ≤ 12) :
    decoder (.array items)
      = decoder (.object (List.zipWith (fun f d => (.ofText (Field.key f), d)) Field.all items)) :=
  record.positional_eq_members Field.ofKey?_key h (by decide) (fun _ _ => List.not_mem_nil) {}

/-- **What is read does not depend on the form of the arguments.** Let no object in a document name
a member twice, and let it not have both `data` and `input`. Then:

* with its members in any other order, those of inner objects included, the arguments are the same,
  or none are read;
* what is read from a text with this object is what is read from its value, the members of which are
  in ascending order of their keys, if it has a value;
* members that are null or no field may be left out, and `data` may be called `input`;
* an array of at most twelve items is read like the object that gives them to the fields in
  order. -/
theorem decoder_ignores_form {ms : List (StringToken × Document)}
    (hdistinct : (Document.object ms).Distinct)
    (hone : ¬ (some "data" ∈ Document.names ms ∧ some "input" ∈ Document.names ms)) :
    (∀ ms', ms'.Perm ms →
      (decoder (.object ms')).toOption = (decoder (.object ms)).toOption) ∧
    (∀ doc, (Document.object ms).Rearranged doc →
      (decoder doc).toOption = (decoder (.object ms)).toOption) ∧
    (∀ (s : List Symbol) (clean : Bool) (j : Json), Document.ofSymbols s = (.object ms, clean) →
      Json.ofSymbols? s = some j →
        (decoder.runSymbols s).toOption = (decoder.runJson j).toOption) ∧
    (∀ keep : StringToken × Document → Bool, (∀ m ∈ ms, keep m = false → Idle m) →
      decoder (.object (ms.filter keep)) = decoder (.object ms)) ∧
    (∀ ms', List.Forall₂ Renamed ms ms' → decoder (.object ms') = decoder (.object ms)) ∧
    (∀ items : List Document, items.length ≤ 12 →
      decoder (.array items)
        = decoder (.object (List.zipWith (fun name d => (.ofText name, d))
            ["from", "to", "gas", "gasPrice", "maxFeePerGas", "maxPriorityFeePerGas", "value",
              "nonce", "data", "accessList", "chainId", "type"] items))) := by
  refine ⟨fun ms' hperm => ?_, fun doc hdoc => (steady_decoder hdoc).symm,
    fun s clean j hs hj => ?_, fun keep => decoder_filter hdistinct hone,
    fun ms' => decoder_renamed, fun items hlength => ?_⟩
  · exact steady_decoder (.of_perm hperm)
  · rw [Json.ofSymbols?, hs] at hj
    cases clean with
    | false => cases hj
    | true =>
      rw [decoder.runSymbols_of_ofSymbols hs]
      exact steady_decoder (hdistinct.rearranged_ofJson hj)
  · rw [decoder_array hlength]
    have hkeys : ["from", "to", "gas", "gasPrice", "maxFeePerGas", "maxPriorityFeePerGas", "value",
        "nonce", "data", "accessList", "chainId", "type"] = Field.all.map Field.key := rfl
    rw [hkeys, List.zipWith_map_left]

/-- The members of an object with an access list, an unknown member that is an object, and a member
that is null. -/
def announcing : List (String × Json) :=
  [("type", .string "0x1"),
    ("accessList", .array [.object [("storageKeys", .array []),
      ("address", .string "0x2222222222222222222222222222222222222222")]]),
    ("note", .object [("b", .bool true), ("a", .null)]), ("value", .null),
    ("data", .string "0x01")]

/-- The arguments with this access list and this call data. -/
def announced : TransactionArgs where
  data := some [1]
  accessList := some [⟨⟨List.replicate 20 0x22, rfl⟩, []⟩]
  txType := some .accessList

set_option maxRecDepth 4000 in
/-- They are read from a text, from its value, and with the members in reverse order. -/
theorem decoder_ignores_form_announcing :
    (Document.object (Document.ofMembers announcing)).Distinct ∧
      ¬ (some "data" ∈ Document.names (Document.ofMembers announcing) ∧
        some "input" ∈ Document.names (Document.ofMembers announcing)) ∧
      (decoder.runText (Json.object announcing).render).toOption = some announced ∧
      (∃ j, Json.ofText? (Json.object announcing).render = some j ∧
        (decoder.runJson j).toOption = some announced) ∧
      (decoder (.object (Document.ofMembers announcing).reverse)).toOption = some announced := by
  have hdistinct : (Document.object (Document.ofMembers announcing)).Distinct := by decide
  have hone : ¬ (some "data" ∈ Document.names (Document.ofMembers announcing) ∧
      some "input" ∈ Document.names (Document.ofMembers announcing)) := by decide
  have hsays : Document.ofSymbols (Text.symbols (Json.object announcing).render)
      = (.object (Document.ofMembers announcing), true) := by cbv
  have hread : decoder (.object (Document.ofMembers announcing)) = .ok announced := by cbv
  have hvalue : (Document.toJson? Json.maxDepth
      (.object (Document.ofMembers announcing))).isSome = true := by cbv
  obtain ⟨j, hj⟩ := Option.isSome_iff_exists.mp hvalue
  rw [Decoder.runText, Json.ofText?]
  generalize Text.symbols (Json.object announcing).render = text at hsays ⊢
  generalize Document.ofMembers announcing = ms at *
  have htold : Json.ofSymbols? text = some j := by
    rw [Json.ofSymbols?, hsays]
    exact hj
  have hrun : (decoder.runSymbols text).toOption = some announced := by
    rw [decoder.runSymbols_of_ofSymbols hsays, hread]
    rfl
  obtain ⟨hperm, -, htext, -⟩ := decoder_ignores_form hdistinct hone
  refine ⟨hdistinct, hone, hrun, ⟨j, htold, ?_⟩, ?_⟩
  · rw [← htext text true j hsays htold, hrun]
  · rw [hperm _ ms.reverse_perm, hread]
    rfl

end TransactionArgs

end EthClient
