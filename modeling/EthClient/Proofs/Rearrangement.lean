import EthClient.Proofs.Codec
import EthClient.Proofs.Members
import Mathlib

/-! # Documents that differ in their arrangement

The members of an object may come in any order, and a text may be spelled with or without escapes.
Documents that differ in nothing else are **rearranged** (`Document.Rearranged`). A decoder is
**steady** (`Decoder.Steady`) if it makes the same of every arrangement. Only the fault may be
another one, since the first fault that is met is the one that is reported.

* **`Record.Slots.steady_decode`**: a record is read steadily if each of its fields is;
* **`Document.Distinct.rearranged_ofJson`**: if no object names a member twice, the value of a
  document is an arrangement of it;
* **`Record.Slots.members_filter`**: members that are passed over, or that say what a slot holds
  already, may be left out;
* **`Record.positional_eq_members`**: an array is read like the object that names its items. -/

namespace EthClient

open Json (StringToken)

variable {α β : Type}

/-! ## Arrangements -/

namespace Document

/-- The documents say the same, with the members of objects in any order and texts in any
spelling. -/
inductive Rearranged : Document → Document → Prop where
  | null : Rearranged .null .null
  | bool (b : Bool) : Rearranged (.bool b) (.bool b)
  | number (n : Option Json.Number) : Rearranged (.number n) (.number n)
  | string {t t' : StringToken} (h : t.text? = t'.text?) : Rearranged (.string t) (.string t')
  | array {items items' : List Document} (hlength : items.length = items'.length)
      (h : ∀ p ∈ items.zip items', Rearranged p.1 p.2) : Rearranged (.array items) (.array items')
  /-- The members say the same one by one in the order `mid`, which is some order of `ms'`. -/
  | object {ms mid ms' : List (StringToken × Document)} (hlength : ms.length = mid.length)
      (hkeys : ∀ p ∈ ms.zip mid, p.1.1.text? = p.2.1.text?)
      (h : ∀ p ∈ ms.zip mid, Rearranged p.1.2 p.2.2) (hperm : mid.Perm ms') :
      Rearranged (.object ms) (.object ms')
  | broken : Rearranged .broken .broken

/-- The members say the same one by one. -/
def SameMembers (ms ms' : List (StringToken × Document)) : Prop :=
  List.Forall₂ (fun m m' => m.1.text? = m'.1.text? ∧ Rearranged m.2 m'.2) ms ms'

/-- Arrays are rearranged item by item. -/
theorem Rearranged.of_forall₂ {items items' : List Document}
    (h : List.Forall₂ Rearranged items items') : Rearranged (.array items) (.array items') := by
  obtain ⟨hlength, hzip⟩ := List.forall₂_iff_zip.mp h
  exact .array hlength fun p hp => hzip hp

/-- Objects are rearranged member by member, in some order. -/
theorem Rearranged.of_sameMembers {ms mid ms' : List (StringToken × Document)}
    (h : SameMembers ms mid) (hperm : mid.Perm ms') : Rearranged (.object ms) (.object ms') := by
  obtain ⟨hlength, hzip⟩ := List.forall₂_iff_zip.mp h
  exact .object hlength (fun p hp => (hzip hp).1) (fun p hp => (hzip hp).2) hperm

/-- The members of rearranged objects say the same in some order. -/
theorem Rearranged.exists_sameMembers {ms ms' : List (StringToken × Document)}
    (h : Rearranged (.object ms) (.object ms')) : ∃ mid, SameMembers ms mid ∧ mid.Perm ms' := by
  cases h with
  | @object _ mid _ hlength hkeys h hperm =>
    exact ⟨mid, List.forall₂_iff_zip.mpr ⟨hlength, fun hp => ⟨hkeys _ hp, h _ hp⟩⟩, hperm⟩

/-- The items of rearranged arrays are rearranged one by one. -/
theorem Rearranged.forall₂ {items items' : List Document}
    (h : Rearranged (.array items) (.array items')) : List.Forall₂ Rearranged items items' := by
  cases h with
  | array hlength h => exact List.forall₂_iff_zip.mpr ⟨hlength, fun hp => h _ hp⟩

/-- **Induction over a document**: what holds of the items of an array holds of the array, and what
holds of the values of its members holds of an object. -/
theorem induction_on_parts {motive : Document → Prop} (d : Document) (null : motive .null)
    (bool : ∀ b, motive (.bool b)) (number : ∀ n, motive (.number n))
    (string : ∀ t, motive (.string t))
    (array : ∀ items, (∀ item ∈ items, motive item) → motive (.array items))
    (object : ∀ ms, (∀ m ∈ ms, motive m.2) → motive (.object ms)) (broken : motive .broken) :
    motive d := by
  refine Document.rec (motive_2 := fun items => ∀ item ∈ items, motive item)
    (motive_3 := fun ms => ∀ m ∈ ms, motive m.2) (motive_4 := fun m => motive m.2)
    null bool number string array object broken nofun ?_ nofun ?_ (fun _ _ h => h) d
  · exact fun _ _ hitem hitems => List.forall_mem_cons.mpr ⟨hitem, hitems⟩
  · exact fun _ _ hm hms => List.forall_mem_cons.mpr ⟨hm, hms⟩

/-- Every document is an arrangement of itself. -/
theorem Rearranged.refl (d : Document) : Rearranged d d := by
  induction d using induction_on_parts with
  | null => exact .null
  | bool b => exact .bool b
  | number n => exact .number n
  | string t => exact .string rfl
  | array items ih => exact .of_forall₂ (List.forall₂_same.mpr ih)
  | object ms ih =>
    exact .of_sameMembers (List.forall₂_same.mpr fun m hm => ⟨rfl, ih m hm⟩) (.refl ms)
  | broken => exact .broken

/-- **Members may change places.** -/
theorem Rearranged.of_perm {ms ms' : List (StringToken × Document)} (h : ms.Perm ms') :
    Rearranged (.object ms) (.object ms') :=
  .of_sameMembers (List.forall₂_same.mpr fun m _ => ⟨rfl, .refl m.2⟩) h

/-- Items are complete if each of them is. -/
theorem completeItems_eq_all (items : List Document) :
    completeItems items = (items.map complete).all id := by
  induction items with
  | nil => rfl
  | cons item items ih => rw [completeItems, List.map_cons, List.all_cons, ih, id]

/-- Members are complete if each of their values is. -/
theorem completeMembers_eq_all (ms : List (StringToken × Document)) :
    completeMembers ms = (ms.map fun m => complete m.2).all id := by
  induction ms with
  | nil => rfl
  | cons m ms ih => rw [completeMembers, List.map_cons, List.all_cons, ih, id]

/-- An arrangement is JSON to its end exactly if the document is. -/
theorem Rearranged.complete_eq {d d' : Document} (h : Rearranged d d') :
    d.complete = d'.complete := by
  induction h with
  | null | bool | number | string | broken => rfl
  | @array items items' hlength _ ih =>
    have hall : List.Forall₂ (fun d d' => complete d = complete d') items items' :=
      List.forall₂_iff_zip.mpr ⟨hlength, fun hp => ih _ hp⟩
    have hmap : items.map complete = items'.map complete := by
      rw [← List.forall₂_eq_eq_eq, List.forall₂_map_left_iff, List.forall₂_map_right_iff]
      exact hall
    rw [complete, complete, completeItems_eq_all, completeItems_eq_all, hmap]
  | @object ms mid ms' hlength _ _ hperm ih =>
    have hall : List.Forall₂ (fun m m' => complete m.2 = complete m'.2) ms mid :=
      List.forall₂_iff_zip.mpr ⟨hlength, fun hp => ih _ hp⟩
    have hmap : (ms.map fun m => complete m.2) = mid.map fun m => complete m.2 := by
      rw [← List.forall₂_eq_eq_eq, List.forall₂_map_left_iff, List.forall₂_map_right_iff]
      exact hall
    rw [complete, complete, completeMembers_eq_all, completeMembers_eq_all, hmap]
    exact (hperm.map _).all_eq

end Document

/-! ## Steady decoders -/

namespace Decoder

open Document (Rearranged)

/-- The decoder makes the same of every arrangement of a document, if it can read it at all. -/
def Steady (d : Decoder α) : Prop :=
  ∀ ⦃doc doc' : Document⦄, doc.Rearranged doc' → (d doc).toOption = (d doc').toOption

/-- Values that are read one after the other. -/
theorem toOption_bind (r : Except Fault α) (f : α → Except Fault β) :
    (r >>= f).toOption = r.toOption.bind fun a => (f a).toOption := by
  cases r <;> rfl

/-- Outcomes with the same value. -/
theorem eq_ok_iff_of_toOption_eq {r r' : Except Fault α} (h : r.toOption = r'.toOption) (a : α) :
    r = .ok a ↔ r' = .ok a := by
  cases r <;> cases r' <;> simp_all [Except.toOption]

/-- And outcomes that are values alike have the same value. -/
theorem toOption_eq_of_eq_ok_iff {r r' : Except Fault α} (h : ∀ a, r = .ok a ↔ r' = .ok a) :
    r.toOption = r'.toOption := by
  cases r with
  | ok a => rw [(h a).mp rfl]
  | error e =>
    cases r' with
    | ok a => cases (h a).mpr rfl
    | error e' => rfl

/-- What is made of a value that was read steadily. -/
theorem Steady.bind {d : Decoder α} (h : d.Steady) (f : α → Except Fault β) :
    Steady fun doc => d doc >>= f := by
  intro doc doc' hdoc
  rw [toOption_bind, toOption_bind, h hdoc]

/-- A value that is put into a slot. -/
theorem Steady.map {d : Decoder α} (h : d.Steady) (f : α → β) :
    Steady fun doc => (d doc).map f := by
  intro doc doc' hdoc
  have hmap (doc : Document) : ((d doc).map f).toOption = (d doc).toOption.map f := by
    cases d doc <;> rfl
  rw [hmap, hmap, h hdoc]

/-- Texts are read in any spelling. -/
theorem steady_text : Steady text := by
  intro doc doc' h
  cases h with
  | string h => rw [text, text, h]
  | _ => rfl

/-- So are texts with a meaning. -/
theorem steady_ofText (read : String → Option α) : Steady (ofText read) :=
  steady_text.bind _

/-- Null is null in every arrangement. -/
theorem Steady.nullable {d : Decoder α} (h : d.Steady) : Steady (nullable d) := by
  intro doc doc' hdoc
  have hsome := h.map some hdoc
  cases hdoc with
  | null => rfl
  | _ => exact hsome

/-- Lists are read item by item. -/
theorem Steady.list {d : Decoder α} (h : d.Steady) : Steady (list d) := by
  intro doc doc' hdoc
  cases hdoc with
  | @array items items' hlength hitems =>
    have hall := (Rearranged.array hlength hitems).forall₂
    have hmapM : (items.mapM d).toOption = (items'.mapM d).toOption := by
      clear hlength hitems
      induction hall with
      | nil => rfl
      | cons hitem _ ih =>
        rw [List.mapM_cons, List.mapM_cons, toOption_bind, toOption_bind, h hitem]
        congr 1
        funext a
        rw [toOption_bind, toOption_bind, ih]
    exact hmapM
  | _ => rfl

end Decoder

namespace Record

open Document (Rearranged SameMembers)

variable {F S : Type} [DecidableEq F] {r : Record F S}

/-- The values for a field say the same if the members do. -/
theorem given_of_sameMembers {ms ms' : List (StringToken × Document)} (h : SameMembers ms ms')
    (f : F) : List.Forall₂ Rearranged (r.given f ms) (r.given f ms') := by
  induction h with
  | nil => exact .nil
  | @cons m m' ms ms' hm _ ih =>
    by_cases hf : m.1.text?.bind r.field? = some f
    · have hf' : m'.1.text?.bind r.field? = some f := hm.1 ▸ hf
      rw [given_cons_of_eq hf, given_cons_of_eq hf']
      exact .cons hm.2 ih
    · have hf' : m'.1.text?.bind r.field? ≠ some f := hm.1 ▸ hf
      rw [given_cons_of_ne hf, given_cons_of_ne hf']
      exact ih

/-- And they come in the order of the members. -/
theorem given_perm {ms ms' : List (StringToken × Document)} (h : ms.Perm ms') (f : F) :
    (r.given f ms).Perm (r.given f ms') :=
  (h.filter _).map _

omit [DecidableEq F] in
/-- Members that say the same are legible alike. -/
theorem legible_of_sameMembers {ms ms' : List (StringToken × Document)} (h : SameMembers ms ms') :
    r.Legible ms ↔ r.Legible ms' := by
  induction h with
  | nil => rfl
  | cons hm _ ih => rw [legible_cons, legible_cons, ih, hm.1, hm.2.complete_eq]

namespace Slots

variable (l : r.Slots)

omit [DecidableEq F] in
/-- A slot holds the same for values that say the same. -/
theorem holds_of_forall₂ {f : F} (hf : (l.parse f).Steady) {ds ds' : List Document}
    (h : List.Forall₂ Rearranged ds ds') (s s' : S) : l.Holds s f ds s' ↔ l.Holds s f ds' s' := by
  match h with
  | .nil => rfl
  | .cons hd .nil => exact Decoder.eq_ok_iff_of_toOption_eq (hf hd) _
  | .cons _ (.cons _ _) => rfl

omit [DecidableEq F] in
/-- And for values in any order, since there may be no more than one. -/
theorem holds_of_perm {f : F} {ds ds' : List Document} (h : ds.Perm ds') (s s' : S) :
    l.Holds s f ds s' ↔ l.Holds s f ds' s' := by
  match ds, ds' with
  | [], [] => rfl
  | [], _ :: _ => exact absurd h.length_eq (by simp)
  | [d], ds' => rw [List.singleton_perm.mp h]
  | _ :: _ :: _, [] => exact absurd h.length_eq (by simp)
  | _ :: _ :: _, [_] => exact absurd h.length_eq (by simp)
  | _ :: _ :: _, _ :: _ :: _ => rfl

/-- **A record is read steadily** if each of its fields is. -/
theorem steady_decode (h : ∀ f, (l.parse f).Steady) (start : S) : (r.decode start).Steady := by
  intro doc doc' hdoc
  cases hdoc with
  | object hlength hkeys hms hperm =>
    obtain ⟨mid, hsame, hperm⟩ := (Rearranged.object hlength hkeys hms hperm).exists_sameMembers
    -- one by one up to `mid`, and from there in another order
    refine Decoder.toOption_eq_of_eq_ok_iff fun s' => ?_
    rw [l.decode_object_eq_ok_iff, l.decode_object_eq_ok_iff, legible_of_sameMembers hsame]
    refine and_congr (forall_congr' fun m => by rw [hperm.mem_iff]) (forall_congr' fun f => ?_)
    exact (l.holds_of_forall₂ (h f) (given_of_sameMembers hsame f) start s').trans
      (l.holds_of_perm (given_perm hperm f) start s')
  | @array items items' hlength hitems =>
    have hall := (Rearranged.array hlength hitems).forall₂
    have hread : ∀ fs, (r.positional start fs items).toOption
        = (r.positional start fs items').toOption := by
      clear hlength hitems
      induction hall generalizing start with
      | nil => exact fun _ => rfl
      | @cons d d' ds ds' hd _ ih =>
        intro fs
        cases fs with
        | nil => rfl
        | cons f fs =>
          have hfield : (r.read f d start).toOption = (r.read f d' start).toOption := by
            rw [l.read_eq, l.read_eq]
            exact (h f).map _ hd
          rw [positional, positional, Decoder.toOption_bind, Decoder.toOption_bind, hfield]
          congr 1
          funext s
          exact ih s fs
    exact hread r.fields
  | _ => rfl

end Slots

end Record

/-! ## The value of a document -/

namespace Document

/-- The names of members, in document order. -/
def names (ms : List (StringToken × Document)) : List (Option String) := ms.map fun m => m.1.text?

mutual

/-- Whether the document is JSON to its end and no object in it names a member twice. -/
def distinct : Document → Bool
  | .broken => false
  | .array items => distinctItems items
  | .object members => decide (names members).Nodup && distinctMembers members
  | _ => true
termination_by structural d => d

/-- Whether this is so of every item. -/
def distinctItems : List Document → Bool
  | [] => true
  | item :: items => distinct item && distinctItems items
termination_by structural items => items

/-- Whether this is so of every member. -/
def distinctMembers : List (StringToken × Document) → Bool
  | [] => true
  | (_, value) :: members => distinct value && distinctMembers members
termination_by structural members => members

end

/-- The document is JSON to its end, and no object in it names a member twice. -/
def Distinct (d : Document) : Prop := d.distinct = true

instance (d : Document) : Decidable d.Distinct := inferInstanceAs (Decidable (d.distinct = true))

/-- An array is distinct if its items are. -/
theorem distinct_array {items : List Document} :
    (Document.array items).Distinct ↔ ∀ d ∈ items, d.Distinct := by
  change distinctItems items = true ↔ _
  induction items with
  | nil => simp [distinctItems]
  | cons item items ih => simp [distinctItems, ih, Distinct]

/-- An object is distinct if its names are and its values are. -/
theorem distinct_object {ms : List (StringToken × Document)} :
    (Document.object ms).Distinct ↔ (names ms).Nodup ∧ ∀ m ∈ ms, m.2.Distinct := by
  have hvalues : distinctMembers ms = true ↔ ∀ m ∈ ms, m.2.Distinct := by
    induction ms with
    | nil => simp [distinctMembers]
    | cons m ms ih =>
      simp only [distinctMembers, Bool.and_eq_true, ih, List.forall_mem_cons, Distinct]
  rw [Distinct, distinct, Bool.and_eq_true, decide_eq_true_eq, hvalues]

/-- Such a document can be passed over. -/
theorem Distinct.complete {d : Document} (h : d.Distinct) : d.complete = true := by
  induction d using induction_on_parts with
  | null => rfl
  | bool b => rfl
  | number n => rfl
  | string t => rfl
  | array items ih =>
    have hparts := distinct_array.mp h
    simpa [Document.complete, completeItems_eq_all] using fun d hd => ih d hd (hparts d hd)
  | object ms ih =>
    have hparts := (distinct_object.mp h).2
    rw [Document.complete, completeMembers_eq_all, List.all_map, List.all_eq_true]
    exact fun m hm => ih m hm (hparts m hm)
  | broken => cases h

/-- The values of items are built one by one. -/
theorem forall₂_of_toItems? {depth : Nat} {items : List Document} {js : List Json}
    (h : toItems? depth items = some js) :
    List.Forall₂ (fun d j => d.toJson? depth = some j) items js := by
  induction items generalizing js with
  | nil =>
    obtain rfl : [] = js := Option.some.inj h
    exact .nil
  | cons item items ih =>
    rw [toItems?] at h
    obtain ⟨j, hj, h⟩ := Option.bind_eq_some_iff.mp h
    obtain ⟨js', hjs, h⟩ := Option.bind_eq_some_iff.mp h
    obtain rfl : j :: js' = js := Option.some.inj h
    exact .cons hj (ih hjs)

/-- So are the values of members. -/
theorem forall₂_of_toMembers? {depth : Nat} {ms : List (StringToken × Document)}
    {js : List (String × Json)} (h : toMembers? depth ms = some js) :
    List.Forall₂ (fun m j => m.1.text? = some j.1 ∧ m.2.toJson? depth = some j.2) ms js := by
  induction ms generalizing js with
  | nil =>
    obtain rfl : [] = js := Option.some.inj h
    exact .nil
  | cons m ms ih =>
    rw [toMembers?] at h
    obtain ⟨k, hk, h⟩ := Option.bind_eq_some_iff.mp h
    obtain ⟨j, hj, h⟩ := Option.bind_eq_some_iff.mp h
    obtain ⟨js', hjs, h⟩ := Option.bind_eq_some_iff.mp h
    obtain rfl : (k, j) :: js' = js := Option.some.inj h
    exact .cons ⟨hk, hj⟩ (ih hjs)

/-- The document of a list of values, item by item. -/
theorem ofItems_eq_map (js : List Json) : ofItems js = js.map ofJson := by
  induction js with
  | nil => rfl
  | cons j js ih => rw [ofItems, List.map_cons, ih]

/-- The document of an object, member by member. -/
theorem ofMembers_eq_map (ms : List (String × Json)) :
    ofMembers ms = ms.map fun m => (.ofText m.1, ofJson m.2) := by
  induction ms with
  | nil => rfl
  | cons m ms ih => rw [ofMembers, List.map_cons, ih]

/-- **The value of a document is an arrangement of it**, if no object names a member twice: members
are put in the order of their keys, and texts are spelled without escapes. -/
theorem Distinct.rearranged_ofJson {d : Document} (hd : d.Distinct) {depth : Nat} {j : Json}
    (h : d.toJson? depth = some j) : d.Rearranged (ofJson j) := by
  induction d using induction_on_parts generalizing depth j with
  | null =>
    obtain rfl : .null = j := Option.some.inj h
    exact .null
  | bool b =>
    obtain rfl : .bool b = j := Option.some.inj h
    exact .bool b
  | number n =>
    obtain ⟨n, rfl, rfl⟩ := Option.map_eq_some_iff.mp h
    exact .number (some n)
  | string t =>
    obtain ⟨s, hs, rfl⟩ := Option.map_eq_some_iff.mp h
    exact .string hs
  | array items ih =>
    rw [toJson?] at h
    split at h
    · cases h
    · obtain ⟨js, hjs, rfl⟩ := Option.map_eq_some_iff.mp h
      refine .of_forall₂ ?_
      rw [ofItems_eq_map, List.forall₂_map_right_iff]
      have hparts := (List.forall₂_and_left _ _).mpr
        ⟨fun d hmem => @ih d hmem (distinct_array.mp hd d hmem), forall₂_of_toItems? hjs⟩
      exact hparts.imp fun _ _ h => h.1 h.2
  | object ms ih =>
    obtain ⟨hnames, hvalues⟩ := distinct_object.mp hd
    rw [toJson?] at h
    split at h
    · cases h
    · obtain ⟨js, hjs, rfl⟩ := Option.map_eq_some_iff.mp h
      have hbuilt := forall₂_of_toMembers? hjs
      have hsame : SameMembers ms (ofMembers js) := by
        rw [ofMembers_eq_map, SameMembers, List.forall₂_map_right_iff]
        have hparts := (List.forall₂_and_left _ _).mpr
          ⟨fun m hmem => @ih m hmem (hvalues m hmem), hbuilt⟩
        exact hparts.imp fun _ _ h => ⟨h.2.1, h.1 h.2.2⟩
      have hnodup : (js.map Prod.fst).Nodup := by
        have htexts : names ms = (js.map Prod.fst).map some := by
          rw [names, ← List.forall₂_eq_eq_eq, List.map_map, List.forall₂_map_left_iff,
            List.forall₂_map_right_iff]
          exact hbuilt.imp fun _ _ hm => hm.1
        exact .of_map _ (htexts ▸ hnames)
      obtain ⟨sorted, hsorted, hobject⟩ := Json.exists_perm_ofMembers hnodup
      have hperm : (ofMembers js).Perm (ofMembers sorted) := by
        rw [ofMembers_eq_map, ofMembers_eq_map]
        exact hsorted.symm.map _
      rw [hobject]
      exact .of_sameMembers hsame hperm
  | broken => cases h

end Document

/-! ## Members that make no difference -/

namespace Record

variable {F S : Type} [DecidableEq F] {r : Record F S}

/-- The field that a member names. -/
def named (r : Record F S) (m : StringToken × Document) : Option F := m.1.text?.bind r.field?

namespace Slots

variable (l : r.Slots)

omit [DecidableEq F] in
/-- A slot is set to what it holds. -/
theorem set_get (f : F) (s : S) : l.set f (l.get f s) s = s := by
  classical
  refine l.ext fun g => ?_
  by_cases hg : g = f
  · rw [hg, l.get_set_self]
  · rw [l.get_set_of_ne hg]

/-- **Members that make no difference may be left out**: those that are no field, and those that say
what the slot of their field holds already. No field is named twice. -/
theorem members_filter {keep : StringToken × Document → Bool}
    {ms : List (StringToken × Document)} {seen seen' : List F} {s : S}
    (hnodup : (ms.filterMap r.named).Nodup) (hseen : ∀ f ∈ ms.filterMap r.named, f ∉ seen)
    (hseen' : ∀ f ∈ ms.filterMap r.named, f ∉ seen')
    (hidle : ∀ m ∈ ms, keep m = false → m.1.text?.isSome = true ∧ m.2.complete = true ∧
      ∀ f, r.named m = some f → l.parse f m.2 = .ok (l.get f s)) :
    r.members seen' s (ms.filter keep) = r.members seen s ms := by
  induction ms generalizing seen seen' s with
  | nil => rfl
  | cons m ms ih =>
    obtain ⟨key, value⟩ := m
    have hrest := fun m hm => hidle m (List.mem_cons_of_mem _ hm)
    cases hk : key.text? with
    | none =>
      have hkept : keep (key, value) = true := by
        by_contra hdrop
        simpa [hk] using (hidle _ (List.mem_cons_self ..) (by simpa using hdrop)).1
      rw [List.filter_cons_of_pos hkept, members, members, hk]
    | some k =>
      cases hf : r.field? k with
      | none =>
        have hnone : r.named (key, value) = none := by simp [named, hk, hf]
        rw [List.filterMap_cons_none hnone] at hnodup hseen hseen'
        have hih := ih hnodup hseen hseen' hrest
        cases hkeep : keep (key, value) with
        | true =>
          rw [List.filter_cons_of_pos hkeep, members, members, hk]
          simp only [hf, hih]
        | false =>
          have hcomplete := (hidle _ (List.mem_cons_self ..) hkeep).2.1
          rw [List.filter_cons_of_neg (by simp [hkeep]), members, hk]
          simp only [hf, Decoder.skip, if_pos hcomplete, hih]
          rfl
      | some f =>
        have hsome : r.named (key, value) = some f := by simp [named, hk, hf]
        rw [List.filterMap_cons_some hsome] at hnodup hseen hseen'
        obtain ⟨hnew, hnodup⟩ := List.nodup_cons.mp hnodup
        obtain ⟨hf₁, hseen⟩ := List.forall_mem_cons.mp hseen
        obtain ⟨hf₂, hseen'⟩ := List.forall_mem_cons.mp hseen'
        have hseenf : ∀ g ∈ ms.filterMap r.named, g ∉ f :: seen := by
          intro g hg hmem
          rcases List.mem_cons.mp hmem with rfl | hmem
          · exact hnew hg
          · exact hseen g hg hmem
        cases hkeep : keep (key, value) with
        | true =>
          have hseenf' : ∀ g ∈ ms.filterMap r.named, g ∉ f :: seen' := by
            intro g hg hmem
            rcases List.mem_cons.mp hmem with rfl | hmem
            · exact hnew hg
            · exact hseen' g hg hmem
          rw [List.filter_cons_of_pos hkeep, members, members, hk]
          simp only [hf, if_neg hf₁, if_neg hf₂, l.read_eq]
          cases hp : l.parse f value with
          | error e => rfl
          | ok v =>
            -- the slots of the fields to come are as they were
            refine ih hnodup hseenf hseenf' fun m hm hdrop => ?_
            obtain ⟨hkey, hcomplete, hholds⟩ := hrest m hm hdrop
            refine ⟨hkey, hcomplete, fun g hg => ?_⟩
            have hne : g ≠ f := by
              rintro rfl
              exact hnew (List.mem_filterMap.mpr ⟨m, hm, hg⟩)
            rw [hholds g hg, l.get_set_of_ne hne]
        | false =>
          have hparse := (hidle _ (List.mem_cons_self ..) hkeep).2.2 f hsome
          have hread : r.read f value s = .ok s := by
            rw [l.read_eq, hparse, Except.map, l.set_get]
          rw [List.filter_cons_of_neg (by simp [hkeep]), members, hk]
          simp only [hf, if_neg hf₁, hread]
          exact ih hnodup hseenf hseen' hrest

end Slots

/-- **A member may go by another name** of its field. -/
theorem members_congr (r : Record F S) {ms ms' : List (StringToken × Document)}
    (h : List.Forall₂ (fun m m' => m.1.text?.isSome = m'.1.text?.isSome ∧
      r.named m = r.named m' ∧ m.2 = m'.2) ms ms') (seen : List F) (s : S) :
    r.members seen s ms = r.members seen s ms' := by
  induction h generalizing seen s with
  | nil => rfl
  | @cons m m' ms ms' hm _ ih =>
    obtain ⟨key, value⟩ := m
    obtain ⟨key', value'⟩ := m'
    obtain ⟨hkey, hnamed, rfl⟩ := hm
    rw [members, members]
    cases hk : key.text? <;> cases hk' : key'.text? <;> simp_all [named]

/-- **An array is read like the object that names its items.** -/
theorem positional_eq_members (r : Record F S) {key : F → String}
    (hkey : ∀ f, r.field? (key f) = some f) {fs : List F} {items : List Document}
    (hlength : items.length ≤ fs.length) (hnodup : fs.Nodup) {seen : List F}
    (hseen : ∀ f ∈ fs, f ∉ seen) (s : S) :
    r.positional s fs items
      = r.members seen s (List.zipWith (fun f d => (.ofText (key f), d)) fs items) := by
  induction fs generalizing items seen s with
  | nil =>
    obtain rfl : items = [] := List.eq_nil_of_length_eq_zero (by simpa using hlength)
    rfl
  | cons f fs ih =>
    cases items with
    | nil => rfl
    | cons d items =>
      obtain ⟨hnew, hnodup⟩ := List.nodup_cons.mp hnodup
      obtain ⟨hf, hseen⟩ := List.forall_mem_cons.mp hseen
      have hseenf : ∀ g ∈ fs, g ∉ f :: seen := by
        intro g hg hmem
        rcases List.mem_cons.mp hmem with rfl | hmem
        · exact hnew hg
        · exact hseen g hg hmem
      have htext : (StringToken.ofText (key f)).text? = some (key f) := rfl
      rw [positional, List.zipWith_cons_cons, members, htext]
      simp only [hkey, if_neg hf]
      congr 1
      funext s'
      exact ih (by simpa using hlength) hnodup hseenf s'

end Record

end EthClient
