import EthClient.Proofs.Arguments
import EthClient.Proofs.Printing
import EthClient.Rpc.Call

/-! # The wire form of transaction arguments loses nothing

Arguments are written as a value, with the members in ascending order, or as a text, with the
members in wire order. All that is printed are keys and hexadecimal digits, so what is written is
plain (**`TransactionArgs.plain_object_of_perm`**), and its text says the same as the value.

* **`TransactionArgs.runText_of_perm`**: arguments are read from a text with their members as they
  were, in whatever order the members stand;
* **`TransactionArgs.ofText?_toWire`**: as a value, the text is the one that the arguments have;
* **`TransactionArgs.wire_roundTrip`**: both forms lose nothing, and so writing what was read from
  any document gives a document that is read alike. -/

namespace EthClient

/-! ## Digits -/

namespace Hex

/-- A digit is printed as it is. -/
theorem escape_digit : ∀ n < 16, Json.escape (digit n) = [digit n] := by decide

/-- Digits behind a mark are printed as they are. -/
theorem verbatim_digits {ds : List Nat} (h : ∀ d ∈ ds, d < 16) :
    Json.Verbatim (String.ofList ('0' :: 'x' :: ds.map digit)) := by
  intro c hc
  rw [String.toList_ofList] at hc
  simp only [List.mem_cons, List.mem_map] at hc
  rcases hc with rfl | rfl | ⟨d, hd, rfl⟩
  · decide
  · decide
  · exact escape_digit d (h d hd)

/-- So is a byte string. -/
theorem verbatim_marked (bytes : Bytes) : Json.Verbatim (marked bytes) := by
  have hdigits : ofBytes bytes
      = (bytes.flatMap fun b => [b.toNat / 16, b.toNat % 16]).map digit := by
    rw [List.map_flatMap]
    rfl
  rw [marked, hdigits]
  refine verbatim_digits fun d hd => ?_
  obtain ⟨b, -, hd⟩ := List.mem_flatMap.mp hd
  have hb := b.toNat_lt
  simp only [List.mem_cons, List.not_mem_nil, or_false] at hd
  omega

end Hex

/-- A quantity is printed as it is. -/
theorem Quantity.verbatim_toText {bits : Nat} (q : Quantity bits) (h : bits % 4 = 0)
    (hpos : 0 < bits) : Json.Verbatim q.toText := by
  obtain ⟨ds, htext, -, -, hlt, -⟩ := q.exists_digits h hpos
  rw [htext]
  exact Hex.verbatim_digits hlt

/-! ## Access lists -/

namespace AccessEntry

/-- The keys of an entry need no escapes. -/
theorem verbatim_key : ∀ key ∈ ["address", "storageKeys"], Json.Verbatim key := by
  intro key hkey
  simp only [List.mem_cons, List.not_mem_nil, or_false] at hkey
  rcases hkey with rfl | rfl
  · exact Json.verbatim_of_all rfl
  · exact Json.verbatim_of_all rfl

/-- **An entry is plain.** -/
theorem plain_toJson (e : AccessEntry) : e.toJson.Plain := by
  have hstorage : ∀ j ∈ e.storageKeys.map fun k => Json.string k.toText, j.Plain := by
    intro j hj
    obtain ⟨k, -, rfl⟩ := List.mem_map.mp hj
    exact .string (Hex.verbatim_marked k.toList)
  have haddress : (Json.string e.address.toText).Plain := .string (Hex.verbatim_marked _)
  refine .object (fun m hm => ?_) fun m hm => ?_
  · simp only [List.mem_cons, List.not_mem_nil, or_false] at hm
    rcases hm with rfl | rfl
    · exact verbatim_key _ (by simp)
    · exact verbatim_key _ (by simp)
  · simp only [List.mem_cons, List.not_mem_nil, or_false] at hm
    rcases hm with rfl | rfl
    · exact haddress
    · exact .array hstorage

/-- The value of its document is the entry again, two levels deep. -/
theorem toJson?_ofJson_toJson (e : AccessEntry) (depth : Nat) :
    (Document.ofJson e.toJson).toJson? (depth + 2) = some e.toJson := by
  have hstorage : (Document.ofJson (.array (e.storageKeys.map fun k => .string k.toText))).toJson?
      (depth + 1) = some (.array (e.storageKeys.map fun k => .string k.toText)) := by
    refine Document.toJson?_ofJson_array fun j hj => ?_
    obtain ⟨k, -, rfl⟩ := List.mem_map.mp hj
    rfl
  -- the two keys are in order
  have hordered : Json.ofMembers [("address", .string e.address.toText),
      ("storageKeys", .array (e.storageKeys.map fun k => .string k.toText))] = e.toJson := by
    simp only [Json.ofMembers, List.foldl_cons, List.foldl_nil, Json.insert]
    rw [if_neg (by decide), if_neg (by decide)]
    rfl
  refine Eq.trans (Document.toJson?_ofJson_object fun m hm => ?_) (congrArg some hordered)
  simp only [List.mem_cons, List.not_mem_nil, or_false] at hm
  rcases hm with rfl | rfl
  · rfl
  · exact hstorage

end AccessEntry

/-- **An access list is plain.** -/
theorem AccessList.plain_toJson (l : AccessList) : (toJson l).Plain := by
  refine .array fun j hj => ?_
  obtain ⟨e, -, rfl⟩ := List.mem_map.mp hj
  exact e.plain_toJson

namespace TransactionArgs

/-! ## The printed form -/

/-- **What is printed for a field is plain.** -/
theorem Field.plain_json? {a : TransactionArgs} {f : Field} {j : Json} (h : f.json? a = some j) :
    j.Plain := by
  cases f with
  | sender | recipient | data =>
    obtain ⟨x, -, rfl⟩ := Option.map_eq_some_iff.mp h
    exact .string (Hex.verbatim_marked _)
  | gas | gasPrice | maxFee | maxPriorityFee | value | nonce | chainId | txType =>
    obtain ⟨x, -, rfl⟩ := Option.map_eq_some_iff.mp h
    exact .string (Quantity.verbatim_toText _ rfl (by decide))
  | accessList =>
    obtain ⟨l, -, rfl⟩ := Option.map_eq_some_iff.mp h
    exact AccessList.plain_toJson l

/-- No key has to be escaped. -/
theorem Field.verbatim_key (f : Field) : Json.Verbatim f.key := by
  cases f <;> exact Json.verbatim_of_all rfl

/-- Every member that is written is the one of a field. -/
theorem exists_field_of_mem_toMembers {a : TransactionArgs} {m : String × Json}
    (h : m ∈ a.toMembers) : ∃ f : Field, m.1 = f.key ∧ f.json? a = some m.2 := by
  obtain ⟨f, -, hm⟩ := List.mem_filterMap.mp h
  obtain ⟨j, hj, rfl⟩ := Option.map_eq_some_iff.mp hm
  exact ⟨f, rfl, hj⟩

/-- **What is printed of arguments is plain**, in whatever order the members stand. -/
theorem plain_object_of_perm (a : TransactionArgs) {ms : List (String × Json)}
    (h : ms.Perm a.toMembers) : (Json.object ms).Plain := by
  refine .object (fun m hm => ?_) fun m hm => ?_
  · obtain ⟨f, hkey, -⟩ := exists_field_of_mem_toMembers (h.subset hm)
    rw [hkey]
    exact f.verbatim_key
  · obtain ⟨f, -, hvalue⟩ := exists_field_of_mem_toMembers (h.subset hm)
    exact Field.plain_json? hvalue

/-- **Arguments are read from a text with their members**, in whatever order these stand. -/
theorem runText_of_perm (a : TransactionArgs) {ms : List (String × Json)}
    (h : ms.Perm a.toMembers) : decoder.runText (Json.object ms).render = .ok a := by
  rw [(a.plain_object_of_perm h).runText_render]
  exact a.runJson_object_of_perm h

/-- **The value of a field is at most three levels deep**, and it is the value of its document. -/
theorem Field.toJson?_ofJson {a : TransactionArgs} {f : Field} {j : Json} (h : f.json? a = some j)
    (depth : Nat) : (Document.ofJson j).toJson? (depth + 3) = some j := by
  cases f with
  | accessList =>
    obtain ⟨l, -, rfl⟩ := Option.map_eq_some_iff.mp h
    refine Document.toJson?_ofJson_array fun j hj => ?_
    obtain ⟨e, -, rfl⟩ := List.mem_map.mp hj
    exact e.toJson?_ofJson_toJson depth
  | _ =>
    obtain ⟨x, -, rfl⟩ := Option.map_eq_some_iff.mp h
    rfl

/-- **As a value, the text is the one that the arguments have**: only the order of the members is
another one. -/
theorem ofText?_toWire (a : TransactionArgs) : Json.ofText? a.toWire.render = some a.toJson := by
  have hplain : a.toWire.Plain := a.plain_object_of_perm (.refl _)
  rw [hplain.ofText?_render]
  refine Document.toJson?_ofJson_object fun m hm => ?_
  obtain ⟨f, -, hvalue⟩ := exists_field_of_mem_toMembers hm
  exact f.toJson?_ofJson hvalue 123

/-- **The wire form loses nothing.** Whatever the arguments are:

* they are read as they were from the value that they are sent as, from the text that is printed
  of them in wire order, and from the text of the value;
* the text in wire order has this value.

So, if a value or a text is read as some arguments, then writing these arguments, as a value or as a
text, gives what is read alike. -/
theorem wire_roundTrip :
    (∀ a : TransactionArgs,
      decoder.runJson (Param.transaction a).toJson = .ok a ∧
      decoder.runText (Param.transaction a).toWire.render = .ok a ∧
      decoder.runText (Param.transaction a).toJson.render = .ok a ∧
      Json.ofText? (Param.transaction a).toWire.render = some (Param.transaction a).toJson) ∧
    (∀ (j : Json) (a : TransactionArgs), decoder.runJson j = .ok a →
      decoder.runJson a.toJson = decoder.runJson j ∧
      decoder.runText a.toWire.render = decoder.runJson j) ∧
    (∀ (text : String) (a : TransactionArgs), decoder.runText text = .ok a →
      decoder.runJson a.toJson = decoder.runText text ∧
      decoder.runText a.toWire.render = decoder.runText text) := by
  have hvalue : ∀ a : TransactionArgs, decoder.runJson a.toJson = .ok a :=
    fun a => a.runJson_toJson.2
  have hwire : ∀ a : TransactionArgs, decoder.runText a.toWire.render = .ok a :=
    fun a => a.runText_of_perm (.refl _)
  refine ⟨fun a => ⟨hvalue a, hwire a, ?_, a.ofText?_toWire⟩, fun j a h => ?_, fun text a h => ?_⟩
  · -- the value has the same members in ascending order
    obtain ⟨sorted, hperm, hobject⟩ := Json.exists_perm_ofMembers a.nodup_keys_toMembers
    rw [Param.toJson, toJson, hobject]
    exact a.runText_of_perm hperm
  · rw [h]
    exact ⟨hvalue a, hwire a⟩
  · rw [h]
    exact ⟨hvalue a, hwire a⟩

/-- The second name of the data, digits in upper case or without a mark, zeros in front, a null and
an unknown member are read, and reading what is written of them gives the same again. -/
theorem wire_roundTrip_settled :
    let text := "\x7b\"input\":\"0X60aB\",\"gas\":\"005208\",\"to\":null,\"memo\":[1],\"type\":\"0x2\"\x7d"
    let args : TransactionArgs :=
      { gas := some 0x5208, data := some [0x60, 0xAB], txType := some .dynamicFee }
    decoder.runText text = .ok args ∧
      decoder.runText args.toWire.render = decoder.runText text := by
  intro text args
  have hread : decoder.runText text = .ok args := by decide +kernel
  exact ⟨hread, (wire_roundTrip.2.2 text args hread).2⟩

end TransactionArgs

end EthClient
