import EthClient.Decode
import EthClient.Proofs.Digits
import Mathlib.Data.List.Forall2

/-! # Values are read as what they were written for

For each kind of value that is written there is one lemma about the decoder that reads it. An
object is written with its members in ascending order, which is some order of the members that were
given (**`Json.exists_perm_ofMembers`**), and a record is read from an object by one step for each
member, in whatever order they come (**`Record.members_eq_foldl`**). -/

namespace EthClient

/-! ## Members of an object -/

namespace Json

/-- A member with a new key is put between the others. -/
theorem insert_perm {key : String} {ms : List (String × Json)} (h : key ∉ ms.map Prod.fst)
    (value : Json) : (insert key value ms).Perm ((key, value) :: ms) := by
  induction ms with
  | nil => exact .refl _
  | cons m ms ih =>
    obtain ⟨k, v⟩ := m
    rw [List.map_cons, List.mem_cons, not_or] at h
    rw [insert, if_neg (by simpa using h.1 : ¬ (key == k) = true)]
    by_cases hlt : key < k
    · rw [if_pos hlt]
    · rw [if_neg hlt]
      exact ((ih h.2).cons (k, v)).trans (List.Perm.swap ..)

/-- Members with different keys are put together one by one. -/
theorem foldl_insert_perm {ms acc : List (String × Json)}
    (h : ((acc ++ ms).map Prod.fst).Nodup) :
    (ms.foldl (fun acc m => insert m.1 m.2 acc) acc).Perm (acc ++ ms) := by
  induction ms generalizing acc with
  | nil => rw [List.append_nil, List.foldl_nil]
  | cons m ms ih =>
    have hmid : (acc ++ m :: ms).Perm ((m :: acc) ++ ms) := List.perm_middle
    have hnodup := (hmid.map Prod.fst).nodup_iff.mp h
    have hnew : m.1 ∉ acc.map Prod.fst := by
      rw [List.cons_append, List.map_cons, List.nodup_cons, List.map_append] at hnodup
      exact fun hm => hnodup.1 (List.mem_append_left _ hm)
    have hput : (insert m.1 m.2 acc ++ ms).Perm ((m :: acc) ++ ms) :=
      (insert_perm hnew m.2).append_right ms
    rw [List.foldl_cons]
    exact (ih ((hput.map Prod.fst).nodup_iff.mpr hnodup)).trans (hput.trans hmid.symm)

/-- **An object of members with different keys has these members**, in some order. -/
theorem exists_perm_ofMembers {ms : List (String × Json)} (h : (ms.map Prod.fst).Nodup) :
    ∃ sorted, sorted.Perm ms ∧ ofMembers ms = .object sorted := by
  have hperm : (ms.foldl (fun acc m => insert m.1 m.2 acc) []).Perm ([] ++ ms) :=
    foldl_insert_perm h
  exact ⟨_, hperm, rfl⟩

end Json

/-! ## Decoders -/

namespace Decoder

variable {α : Type} {d : Decoder α} {write : α → Json}

/-- A text is read as what it means. -/
theorem runJson_ofText {read : String → Option α} {s : String} {x : α} (h : read s = some x) :
    (ofText read).runJson (.string s) = .ok x := by
  have hread : (ofText read).runJson (.string s) = Fault.ofOption (read s) := rfl
  rw [hread, h]
  rfl

/-- **A quantity is read.** -/
theorem runJson_quantity {bits : Nat} (q : Quantity bits) (h : bits % 4 = 0) (hpos : 0 < bits) :
    quantity.runJson (.string q.toText) = .ok q :=
  runJson_ofText (q.ofText?_toText h hpos)

/-- **A byte string of fixed size is read.** -/
theorem runJson_fixedBytes {size : Nat} (b : FixedBytes size) :
    fixedBytes.runJson (.string b.toText) = .ok b :=
  runJson_ofText b.ofText?_toText

/-- **A byte string is read.** -/
theorem runJson_bytes (b : Bytes) : bytes.runJson (.string (Hex.marked b)) = .ok b :=
  runJson_ofText (bytesOfText?_marked b)

/-- **A list is read** if its items are. -/
theorem runJson_list {xs : List α} (h : ∀ x ∈ xs, d.runJson (write x) = .ok x) :
    (list d).runJson (.array (xs.map write)) = .ok xs := by
  have hlist : (list d).runJson (.array (xs.map write))
      = (Document.ofItems (xs.map write)).mapM d := rfl
  rw [hlist]
  induction xs with
  | nil => rfl
  | cons x xs ih =>
    have hx : d (.ofJson (write x)) = .ok x := h x (List.mem_cons_self ..)
    rw [List.map_cons, Document.ofItems, List.mapM_cons, hx,
      ih (fun y hy => h y (List.mem_cons_of_mem _ hy)) rfl]
    rfl

/-- **What is set is read as such**, if it is not written as null. -/
theorem nullable_of_map {o : Option α} {j : Json} (hj : o.map write = some j)
    (h : ∀ x, d.runJson (write x) = .ok x) (hnull : ∀ x, write x ≠ .null) :
    nullable d (.ofJson j) = .ok o := by
  obtain ⟨x, rfl, rfl⟩ := Option.map_eq_some_iff.mp hj
  have hx := h x
  have hne := hnull x
  generalize write x = j at hx hne
  have hsome : (some <$> d (.ofJson j)) = (.ok (some x) : Except Fault (Option α)) := by
    rw [show d (.ofJson j) = .ok x from hx]
    rfl
  cases j with
  | null => exact absurd rfl hne
  | _ => exact hsome

/-- What is read back was written in different ways. -/
theorem map_inj {o o' : Option α} (h : ∀ x, d.runJson (write x) = .ok x)
    (heq : o.map write = o'.map write) : o = o' := by
  refine Option.map_injective (fun x y hxy => ?_) heq
  exact Except.ok.inj ((h x).symm.trans (hxy ▸ h y))

end Decoder

/-! ## Records -/

/-- **A record is read by one step for each member** of an object, if the members are different
fields. -/
theorem Record.members_eq_foldl {F S : Type} [DecidableEq F] {r : Record F S} {step : F → S → S}
    {ms : List (String × Json)} {fs : List F}
    (h : List.Forall₂ (fun m f => r.field? m.1 = some f ∧
      ∀ s, r.read f (.ofJson m.2) s = .ok (step f s)) ms fs)
    (hnodup : fs.Nodup) {seen : List F} (hseen : ∀ f ∈ fs, f ∉ seen) (s : S) :
    r.members seen s (Document.ofMembers ms) = .ok (fs.foldl (fun s f => step f s) s) := by
  induction h generalizing seen s with
  | nil => rfl
  | @cons m f ms fs hm _ ih =>
    obtain ⟨hfield, hread⟩ := hm
    obtain ⟨hnew, hrest⟩ := List.nodup_cons.mp hnodup
    have hunseen : ∀ g ∈ fs, g ∉ f :: seen := by
      intro g hg hmem
      rcases List.mem_cons.mp hmem with rfl | hmem
      · exact hnew hg
      · exact hseen g (List.mem_cons_of_mem _ hg) hmem
    have hstep : r.members seen s (Document.ofMembers (m :: ms))
        = r.members (f :: seen) (step f s) (Document.ofMembers ms) := by
      rw [Document.ofMembers, members]
      dsimp only [Json.StringToken.ofText]
      rw [hfield]
      dsimp only
      rw [if_neg (hseen f (List.mem_cons_self ..)), hread]
      rfl
    rw [hstep, ih hrest hunseen, List.foldl_cons]

end EthClient
