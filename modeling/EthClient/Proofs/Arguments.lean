import EthClient.Proofs.Codec
import EthClient.Transaction.Args
import Mathlib.Data.List.Perm.Basic

/-! # Transaction arguments are read as what they were written for

Each field that is set is written as one member, and the reader of this member sets the field
again (**`TransactionArgs.Field.read_json`**). Fields that were not written stay unset, and so the
arguments are read as they were (**`TransactionArgs.runJson_toJson`**). -/

namespace EthClient

/-! ## Types and access lists -/

/-- **An envelope is read.** -/
theorem TxType.runJson_toText (t : TxType) : decoder.runJson (.string t.toText) = .ok t := by
  have htag := Decoder.runJson_quantity (Quantity.ofNat t.tag : Number64) rfl (by decide)
  unfold Decoder.runJson at htag ⊢
  rw [decoder, toText, htag]
  cases t <;> rfl

namespace AccessEntry

/-- The entry with a field as in another one. -/
def Field.copy (e : AccessEntry) : Field → Draft → Draft
  | .address, s => (some e.address, s.2)
  | .storageKeys, s => (s.1, some e.storageKeys)

/-- **An entry of an access list is read.** -/
theorem runJson_toJson (e : AccessEntry) : decoder.runJson e.toJson = .ok e := by
  have haddress : ∀ s, record.read .address (.ofJson (.string e.address.toText)) s
      = .ok (Field.copy e .address s) := by
    intro s
    have hread : Decoder.fixedBytes (.ofJson (.string e.address.toText)) = .ok e.address :=
      Decoder.runJson_fixedBytes e.address
    simp only [record, hread]
    rfl
  have hkeys : ∀ s, record.read .storageKeys
      (.ofJson (.array (e.storageKeys.map fun k => .string k.toText))) s
      = .ok (Field.copy e .storageKeys s) := by
    intro s
    have hread : Decoder.list Decoder.fixedBytes
        (.ofJson (.array (e.storageKeys.map fun k => .string k.toText))) = .ok e.storageKeys :=
      Decoder.runJson_list fun k _ => Decoder.runJson_fixedBytes k
    simp only [record, hread]
    rfl
  have hsteps : List.Forall₂ (fun (m : String × Json) (f : Field) => record.field? m.1 = some f ∧
      ∀ s, record.read f (.ofJson m.2) s = .ok (f.copy e s))
      [("address", .string e.address.toText),
        ("storageKeys", .array (e.storageKeys.map fun k => .string k.toText))]
      [.address, .storageKeys] :=
    .cons ⟨rfl, haddress⟩ (.cons ⟨rfl, hkeys⟩ .nil)
  have hmembers : record.decode (none, none) (.ofJson e.toJson)
      = .ok (some e.address, some e.storageKeys) :=
    Record.members_eq_foldl hsteps (by decide) (fun _ _ => List.not_mem_nil) (none, none)
  unfold Decoder.runJson
  rw [decoder, hmembers]
  rfl

end AccessEntry

/-- **An access list is read.** -/
theorem AccessList.runJson_toJson (l : AccessList) : decoder.runJson (toJson l) = .ok l :=
  Decoder.runJson_list fun e _ => e.runJson_toJson

/-! ## Arguments -/

namespace TransactionArgs

namespace Field

/-- The arguments with a field as in other ones. -/
def copy (a : TransactionArgs) : Field → TransactionArgs → TransactionArgs
  | .sender, s => { s with sender := a.sender }
  | .recipient, s => { s with recipient := a.recipient }
  | .gas, s => { s with gas := a.gas }
  | .gasPrice, s => { s with gasPrice := a.gasPrice }
  | .maxFee, s => { s with maxFee := a.maxFee }
  | .maxPriorityFee, s => { s with maxPriorityFee := a.maxPriorityFee }
  | .value, s => { s with value := a.value }
  | .nonce, s => { s with nonce := a.nonce }
  | .data, s => { s with data := a.data }
  | .accessList, s => { s with accessList := a.accessList }
  | .chainId, s => { s with chainId := a.chainId }
  | .txType, s => { s with txType := a.txType }

/-- A copy changes one field. -/
theorem json?_copy (a s : TransactionArgs) (f g : Field) :
    g.json? (f.copy a s) = if g = f then f.json? a else g.json? s := by
  cases f <;> cases g <;> rfl

/-- Copies change the fields that were copied. -/
theorem json?_foldl_copy (a s : TransactionArgs) (fs : List Field) (g : Field) :
    g.json? (fs.foldl (fun s f => f.copy a s) s) = if g ∈ fs then g.json? a else g.json? s := by
  induction fs generalizing s with
  | nil => rfl
  | cons f fs ih =>
    rw [List.foldl_cons, ih, json?_copy]
    by_cases hg : g ∈ fs
    · rw [if_pos hg, if_pos (List.mem_cons_of_mem _ hg)]
    · rw [if_neg hg]
      by_cases hf : g = f
      · rw [if_pos hf, if_pos (hf ▸ List.mem_cons_self ..), hf]
      · rw [if_neg hf, if_neg (by simp [hf, hg])]

/-- Every field has its key. -/
theorem ofKey?_key (f : Field) : ofKey? f.key = some f := by
  cases f <;> rfl

/-- **What was written for a field is read as this field.** -/
theorem read_json (a s : TransactionArgs) {f : Field} {j : Json} (h : f.json? a = some j) :
    f.read (.ofJson j) s = .ok (f.copy a s) := by
  have haddress {o : Option Address} (ho : o.map (fun x => Json.string x.toText) = some j) :
      Decoder.nullable Decoder.fixedBytes (.ofJson j) = .ok o :=
    Decoder.nullable_of_map ho Decoder.runJson_fixedBytes nofun
  have hamount {o : Option Amount} (ho : o.map (fun x => Json.string x.toText) = some j) :
      Decoder.nullable Decoder.quantity (.ofJson j) = .ok o :=
    Decoder.nullable_of_map ho (fun q => Decoder.runJson_quantity q rfl (by decide)) nofun
  cases f with
  | sender | recipient =>
    rw [read, haddress h]
    rfl
  | gas | gasPrice | maxFee | maxPriorityFee | value | nonce =>
    rw [read, hamount h]
    rfl
  | data =>
    rw [read, Decoder.nullable_of_map h Decoder.runJson_bytes nofun]
    rfl
  | accessList =>
    rw [read, Decoder.nullable_of_map h AccessList.runJson_toJson nofun]
    rfl
  | chainId =>
    rw [read, Decoder.nullable_of_map h (fun q => Decoder.runJson_quantity q rfl (by decide)) nofun]
    rfl
  | txType =>
    rw [read, Decoder.nullable_of_map h TxType.runJson_toText nofun]
    rfl

end Field

/-- **Arguments that are written alike are equal.** -/
theorem eq_of_json? {a b : TransactionArgs} (h : ∀ f : Field, f.json? a = f.json? b) : a = b := by
  have hamount {o o' : Option Amount}
      (ho : o.map (fun x => Json.string x.toText) = o'.map fun x => Json.string x.toText) :
      o = o' :=
    Decoder.map_inj (fun q => Decoder.runJson_quantity q rfl (by decide)) ho
  obtain ⟨sender, recipient, gas, gasPrice, maxFee, maxPriorityFee, value, nonce, data, accessList,
    chainId, txType⟩ := a
  obtain ⟨sender', recipient', gas', gasPrice', maxFee', maxPriorityFee', value', nonce', data',
    accessList', chainId', txType'⟩ := b
  obtain rfl : sender = sender' := Decoder.map_inj Decoder.runJson_fixedBytes (h .sender)
  obtain rfl : recipient = recipient' := Decoder.map_inj Decoder.runJson_fixedBytes (h .recipient)
  obtain rfl : gas = gas' := hamount (h .gas)
  obtain rfl : gasPrice = gasPrice' := hamount (h .gasPrice)
  obtain rfl : maxFee = maxFee' := hamount (h .maxFee)
  obtain rfl : maxPriorityFee = maxPriorityFee' := hamount (h .maxPriorityFee)
  obtain rfl : value = value' := hamount (h .value)
  obtain rfl : nonce = nonce' := hamount (h .nonce)
  obtain rfl : data = data' := Decoder.map_inj Decoder.runJson_bytes (h .data)
  obtain rfl : accessList = accessList' :=
    Decoder.map_inj AccessList.runJson_toJson (h .accessList)
  obtain rfl : chainId = chainId' :=
    Decoder.map_inj (fun q => Decoder.runJson_quantity q rfl (by decide)) (h .chainId)
  obtain rfl : txType = txType' := Decoder.map_inj TxType.runJson_toText (h .txType)
  rfl

/-- The members that are written are those of the fields that are set. -/
theorem forall₂_toMembers (a : TransactionArgs) :
    List.Forall₂ (fun m f => m.1 = Field.key f ∧ f.json? a = some m.2) a.toMembers
      (Field.all.filter fun f => (f.json? a).isSome) := by
  unfold toMembers
  induction Field.all with
  | nil => exact .nil
  | cons f fs ih =>
    cases hf : f.json? a with
    | none =>
      rw [List.filterMap_cons_none (by rw [hf]; rfl), List.filter_cons_of_neg (by rw [hf]; simp)]
      exact ih
    | some j =>
      rw [List.filterMap_cons_some (by rw [hf]; rfl), List.filter_cons_of_pos (by rw [hf]; rfl)]
      exact .cons ⟨rfl, hf⟩ ih

/-- No key is written twice. -/
theorem nodup_keys_toMembers (a : TransactionArgs) : (a.toMembers.map Prod.fst).Nodup := by
  have hkeys : a.toMembers.map Prod.fst
      = (Field.all.filter fun f => (f.json? a).isSome).map Field.key := by
    have hmembers := a.forall₂_toMembers
    generalize a.toMembers = ms at hmembers ⊢
    generalize (Field.all.filter fun f => (f.json? a).isSome) = fs at hmembers ⊢
    induction hmembers with
    | nil => rfl
    | cons h _ ih => rw [List.map_cons, List.map_cons, h.1, ih]
  have hall : (Field.all.map Field.key).Nodup := by decide
  rw [hkeys]
  exact hall.sublist (List.filter_sublist.map Field.key)

/-- Every field is listed. -/
theorem Field.mem_all (f : Field) : f ∈ Field.all := by
  cases f <;> decide

/-- **The order of the members does not matter**: from those that are set the arguments are read as
they were. -/
theorem runJson_object_of_perm (a : TransactionArgs) {ms : List (String × Json)}
    (h : ms.Perm a.toMembers) : decoder.runJson (.object ms) = .ok a := by
  -- the order of the members is an order of the fields
  obtain ⟨fs, hfields, hperm⟩ := List.perm_comp_forall₂ h a.forall₂_toMembers
  have hnodup : fs.Nodup := by
    have hall : Field.all.Nodup := by decide
    exact hperm.nodup_iff.mpr (hall.filter _)
  have hsteps : List.Forall₂ (fun (m : String × Json) (f : Field) => record.field? m.1 = some f ∧
      ∀ s, record.read f (.ofJson m.2) s = .ok (f.copy a s)) ms fs := by
    refine hfields.imp fun m f hm => ⟨?_, fun s => Field.read_json a s hm.2⟩
    rw [hm.1]
    exact f.ofKey?_key
  have hdecode : decoder.runJson (.object ms) = .ok (fs.foldl (fun s f => f.copy a s) {}) := by
    have hread : decoder.runJson (.object ms)
        = record.members [] {} (Document.ofMembers ms) := rfl
    rw [hread]
    exact Record.members_eq_foldl hsteps hnodup (fun _ _ => List.not_mem_nil) {}
  rw [hdecode]
  refine congrArg Except.ok (eq_of_json? fun f => ?_)
  rw [Field.json?_foldl_copy]
  by_cases hf : f ∈ fs
  · rw [if_pos hf]
  · -- what was not written is unset on both sides
    have hunset : f.json? a = none := by
      rw [hperm.mem_iff, List.mem_filter] at hf
      simpa [f.mem_all] using hf
    rw [if_neg hf, hunset]
    cases f <;> rfl

/-- **Arguments are read as they were written**, from an object. -/
theorem runJson_toJson (a : TransactionArgs) :
    (∃ members, a.toJson = .object members) ∧ decoder.runJson a.toJson = .ok a := by
  obtain ⟨sorted, hperm, hobject⟩ := Json.exists_perm_ofMembers a.nodup_keys_toMembers
  refine ⟨⟨sorted, hobject⟩, ?_⟩
  rw [toJson, hobject]
  exact a.runJson_object_of_perm hperm

end TransactionArgs

end EthClient
