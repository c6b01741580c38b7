import EthClient.Proofs.Printing

/-! # Untyped values

A value is **ordered** (`Json.Ordered`) if the members of every object in it are in ascending order
of their keys, which is how the client holds values. Putting such members into an object leaves them
as they are (**`Json.ofMembers_of_ascending`**), so an ordered value that is decoded without a type
is the same value again (**`Json.Ordered.runJson_untyped`**). -/

namespace EthClient

namespace Json

/-- The members of every object are in ascending order of their keys, each key once. -/
inductive Ordered : Json → Prop where
  | null : Ordered .null
  | bool (b : Bool) : Ordered (.bool b)
  | number (n : Number) : Ordered (.number n)
  | string (s : String) : Ordered (.string s)
  | array {items : List Json} (h : ∀ j ∈ items, Ordered j) : Ordered (.array items)
  | object {ms : List (String × Json)} (hkeys : ms.Pairwise fun m m' => m.1 < m'.1)
      (h : ∀ m ∈ ms, Ordered m.2) : Ordered (.object ms)

/-! ## Members in order -/

/-- A member whose key comes after all others is put behind them. -/
theorem insert_of_forall_lt {key : String} {ms : List (String × Json)}
    (h : ∀ m ∈ ms, m.1 < key) (value : Json) : insert key value ms = ms ++ [(key, value)] := by
  induction ms with
  | nil => rfl
  | cons m ms ih =>
    obtain ⟨k, v⟩ := m
    have hlt : k < key := h (k, v) (List.mem_cons_self ..)
    have hbehind : ¬ key < k := String.lt_asymm hlt
    have hne : ¬ (key == k) = true := by
      rw [beq_iff_eq]
      rintro rfl
      exact hbehind hlt
    rw [insert, if_neg hbehind, if_neg hne, ih fun m hm => h m (List.mem_cons_of_mem _ hm)]
    rfl

/-- **Members in ascending order stay as they are.** -/
theorem ofMembers_of_ascending {ms : List (String × Json)}
    (h : ms.Pairwise fun m m' => m.1 < m'.1) : ofMembers ms = .object ms := by
  -- one member after the other is put behind those that are there
  have hput : ∀ (ms acc : List (String × Json)),
      (acc ++ ms).Pairwise (fun m m' => m.1 < m'.1) →
        ms.foldl (fun acc m => insert m.1 m.2 acc) acc = acc ++ ms := by
    intro ms
    induction ms with
    | nil => exact fun acc _ => (List.append_nil acc).symm
    | cons m ms ih =>
      intro acc hacc
      have hlast : ∀ k ∈ acc, k.1 < m.1 := fun k hk =>
        (List.pairwise_append.mp hacc).2.2 k hk m (List.mem_cons_self ..)
      have happend : acc ++ m :: ms = (acc ++ [m]) ++ ms := by simp
      rw [List.foldl_cons, insert_of_forall_lt hlast, happend]
      exact ih (acc ++ [m]) (happend ▸ hacc)
  rw [ofMembers, hput ms [] h, List.nil_append]

end Json

/-! ## Depth -/

namespace Document

open Json

/-- No item is deeper than the deepest one. -/
theorem depth_le_depthItems {j : Json} {js : List Json} (h : j ∈ js) :
    (ofJson j).depth ≤ depthItems (ofItems js) := by
  induction js with
  | nil => cases h
  | cons k js ih =>
    rw [ofItems, depthItems]
    rcases List.mem_cons.mp h with rfl | h
    · exact Nat.le_max_left ..
    · exact Nat.le_trans (ih h) (Nat.le_max_right ..)

/-- No member is deeper than the deepest one. -/
theorem depth_le_depthMembers {m : String × Json} {ms : List (String × Json)} (h : m ∈ ms) :
    (ofJson m.2).depth ≤ depthMembers (ofMembers ms) := by
  induction ms with
  | nil => cases h
  | cons k ms ih =>
    rw [ofMembers, depthMembers]
    rcases List.mem_cons.mp h with rfl | h
    · exact Nat.le_max_left ..
    · exact Nat.le_trans (ih h) (Nat.le_max_right ..)

end Document

namespace Json

/-- The document of an ordered value is read as this value, if it is not too deep. -/
theorem Ordered.toJson?_ofJson {j : Json} (h : j.Ordered) {depth : Nat}
    (hdepth : (Document.ofJson j).depth ≤ depth) :
    (Document.ofJson j).toJson? depth = some j := by
  induction h generalizing depth with
  | null | bool | number | string => rfl
  | @array items _ ih =>
    rw [Document.ofJson, Document.depth] at hdepth
    obtain ⟨depth, rfl⟩ := Nat.exists_eq_add_one_of_ne_zero (by omega : depth ≠ 0)
    refine Document.toJson?_ofJson_array fun j hj => ih j hj ?_
    have hitem := Document.depth_le_depthItems hj
    omega
  | @object ms hkeys _ ih =>
    rw [Document.ofJson, Document.depth] at hdepth
    obtain ⟨depth, rfl⟩ := Nat.exists_eq_add_one_of_ne_zero (by omega : depth ≠ 0)
    have hobject : (Document.ofJson (.object ms)).toJson? (depth + 1) = some (ofMembers ms) := by
      refine Document.toJson?_ofJson_object fun m hm => ih m hm ?_
      have hmember := Document.depth_le_depthMembers hm
      omega
    rw [hobject, ofMembers_of_ascending hkeys]

/-- **An ordered value is read back as it is** when no type is asked for. -/
theorem Ordered.runJson_untyped {j : Json} (h : j.Ordered) :
    Decoder.untyped.runJson j = .ok j := by
  have hread := h.toJson?_ofJson (Nat.le_refl (Document.ofJson j).depth)
  rw [Decoder.runJson, Decoder.untyped, Decoder.json, hread]
  rfl

end Json

end EthClient
