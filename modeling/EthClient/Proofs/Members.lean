import EthClient.Decode
import Mathlib.Tactic.Common

/-! # Objects that are read field by field

An object is read member by member in document order, and each member that names a field sets a part
of the state. `Record.Slots` says where these parts lie. With it the outcome can be told from what
the object has for each field, in whatever order:

* **`Record.Slots.members_eq_ok_iff`**: an object is read exactly if all keys are texts, what is no
  field is JSON to its end, and no field is given twice; every slot then holds what was read for its
  field, or what it held before. -/

namespace EthClient

open Json (StringToken)

/-- A text that says one thing is read as what it says. -/
theorem Decoder.runSymbols_of_ofSymbols {α : Type} (d : Decoder α) {s : List Text.Symbol}
    {doc : Document} (h : Document.ofSymbols s = (doc, true)) : d.runSymbols s = d doc := by
  rw [runSymbols, h]
  cases hd : d doc <;> simp [hd, bind, Except.bind]

/-- The values of the members with a key, in document order. -/
def Document.valuesOf (key : String) (ms : List (StringToken × Document)) : List Document :=
  (ms.filter fun m => m.1.text? = some key).map Prod.snd

namespace Record

variable {F S : Type} [DecidableEq F] {r : Record F S}

/-- The values of the members that name a field, in document order. -/
def given (r : Record F S) (f : F) (ms : List (StringToken × Document)) : List Document :=
  (ms.filter fun m => m.1.text?.bind r.field? = some f).map Prod.snd

/-- A member that names the field comes first. -/
theorem given_cons_of_eq {f : F} {m : StringToken × Document} (h : m.1.text?.bind r.field? = some f)
    (ms : List (StringToken × Document)) : r.given f (m :: ms) = m.2 :: r.given f ms := by
  simp [given, h]

/-- Another member is passed over. -/
theorem given_cons_of_ne {f : F} {m : StringToken × Document} (h : m.1.text?.bind r.field? ≠ some f)
    (ms : List (StringToken × Document)) : r.given f (m :: ms) = r.given f ms := by
  simp [given, h]

/-- A field with one key is given by the members with this key. -/
theorem given_eq_valuesOf {f : F} {key : String} (h : ∀ k, r.field? k = some f ↔ k = key)
    (ms : List (StringToken × Document)) : r.given f ms = Document.valuesOf key ms := by
  have hnames : ∀ m : StringToken × Document,
      m.1.text?.bind r.field? = some f ↔ m.1.text? = some key := by
    intro m
    cases m.1.text? <;> simp [h]
  simp [given, Document.valuesOf, hnames]

/-- Every key is a text, and what is no field is JSON to its end. -/
def Legible (r : Record F S) (ms : List (StringToken × Document)) : Prop :=
  ∀ m ∈ ms, ∃ k, m.1.text? = some k ∧ (r.field? k = none → m.2.complete = true)

omit [DecidableEq F] in
/-- Members are legible one by one. -/
@[simp] theorem legible_cons (m : StringToken × Document) (ms : List (StringToken × Document)) :
    r.Legible (m :: ms) ↔
      (∃ k, m.1.text? = some k ∧ (r.field? k = none → m.2.complete = true)) ∧ r.Legible ms := by
  simp [Legible]

/-- Where the fields of a record lie in its state: each has a slot, which the value that is read for
it is put into. -/
structure Slots (r : Record F S) where
  Value : F → Type
  parse : (f : F) → Decoder (Value f)
  get : (f : F) → S → Value f
  set : (f : F) → Value f → S → S
  read_eq : ∀ f d s, r.read f d s = (parse f d).map fun v => set f v s
  get_set_self : ∀ f v s, get f (set f v s) = v
  get_set_of_ne : ∀ {f g}, g ≠ f → ∀ v s, get g (set f v s) = get g s
  ext : ∀ {s s'}, (∀ f, get f s = get f s') → s = s'

namespace Slots

variable (l : r.Slots)

/-- What a slot holds when some values were given for its field: what it held before if there are
none, and what the value says if there is one. -/
def Holds (s : S) (f : F) : List Document → S → Prop
  | [], s' => l.get f s' = l.get f s
  | [d], s' => l.parse f d = .ok (l.get f s')
  | _, _ => False

omit [DecidableEq F] in
/-- There are no values for the field, or there is one and it can be read. -/
theorem holds_iff {s s' : S} {f : F} {ds : List Document} :
    l.Holds s f ds s' ↔
      ds = [] ∧ l.get f s' = l.get f s ∨ ∃ d, ds = [d] ∧ l.parse f d = .ok (l.get f s') := by
  match ds with
  | [] => simp [Holds]
  | [_] => simp [Holds]
  | _ :: _ :: _ => simp [Holds]

omit [DecidableEq F] in
/-- A slot that holds something new was given a value. -/
theorem exists_of_holds {s s' : S} {f : F} {ds : List Document} (h : l.Holds s f ds s')
    (hne : l.get f s' ≠ l.get f s) : ∃ d, ds = [d] ∧ l.parse f d = .ok (l.get f s') :=
  (l.holds_iff.mp h).resolve_left fun hnone => hne hnone.2

omit [DecidableEq F] in
/-- A slot that was not set holds the same. -/
theorem holds_set_of_ne {f g : F} (hne : f ≠ g) (v : l.Value g) (s s' : S) (ds : List Document) :
    l.Holds (l.set g v s) f ds s' ↔ l.Holds s f ds s' := by
  match ds with
  | [] => simp [Holds, l.get_set_of_ne hne]
  | [_] => rfl
  | _ :: _ :: _ => rfl

omit [DecidableEq F] in
/-- A slot that was set holds the only value. -/
theorem holds_cons_iff {f : F} {d : Document} {v : l.Value f} (hd : l.parse f d = .ok v) (s s' : S)
    (ds : List Document) :
    l.Holds s f (d :: ds) s' ↔ ds = [] ∧ l.Holds (l.set f v s) f ds s' := by
  match ds with
  | [] => simp [Holds, hd, l.get_set_self, eq_comm]
  | _ :: _ => simp [Holds]

omit [DecidableEq F] in
/-- And it can be read. -/
theorem parse_of_holds {f : F} {d : Document} {s s' : S} {ds : List Document}
    (h : l.Holds s f (d :: ds) s') : l.parse f d = .ok (l.get f s') := by
  match ds with
  | [] => exact h
  | _ :: _ => exact h.elim

/-- The members of an object are read one after the other. -/
theorem members_cons_eq_ok_iff {seen : List F} {s s' : S} {m : StringToken × Document}
    {ms : List (StringToken × Document)} :
    r.members seen s (m :: ms) = .ok s' ↔
      ∃ k, m.1.text? = some k ∧
        (r.field? k = none ∧ m.2.complete = true ∧ r.members seen s ms = .ok s' ∨
          ∃ f v, r.field? k = some f ∧ f ∉ seen ∧ l.parse f m.2 = .ok v ∧
            r.members (f :: seen) (l.set f v s) ms = .ok s') := by
  obtain ⟨key, value⟩ := m
  rw [members]
  cases key.text? with
  | none => simp
  | some k =>
    dsimp only
    cases hf : r.field? k with
    | none =>
      by_cases hc : value.complete = true
      · simp [Decoder.skip, hc, hf, bind, Except.bind]
      · simp [Decoder.skip, hc, hf, bind, Except.bind]
    | some f =>
      by_cases hs : f ∈ seen
      · simp [hs, hf]
      · cases hp : l.parse f value with
        | error e => simp [hs, hf, l.read_eq, hp, Except.map, bind, Except.bind]
        | ok v => simp [hs, hf, l.read_eq, hp, Except.map, bind, Except.bind]

/-- **When an object is read, and as what.** -/
theorem members_eq_ok_iff {seen : List F} {s s' : S} {ms : List (StringToken × Document)} :
    r.members seen s ms = .ok s' ↔
      r.Legible ms ∧ ∀ f, (f ∈ seen → r.given f ms = []) ∧ l.Holds s f (r.given f ms) s' := by
  induction ms generalizing seen s with
  | nil =>
    have hnil : r.members seen s [] = .ok s := rfl
    rw [hnil]
    constructor
    · rintro ⟨rfl⟩
      exact ⟨nofun, fun f => ⟨fun _ => rfl, rfl⟩⟩
    · rintro ⟨-, h⟩
      exact congrArg _ (l.ext fun f => (h f).2.symm)
  | cons m ms ih =>
    rw [l.members_cons_eq_ok_iff, legible_cons]
    cases hk : m.1.text? with
    | none => simp
    | some k =>
      cases hf : r.field? k with
      | none =>
        -- a member that is no field changes nothing for any of them
        have hgiven : ∀ f, r.given f (m :: ms) = r.given f ms :=
          fun f => given_cons_of_ne (by simp [hk, hf]) ms
        simp [hgiven, hf, ih, and_assoc]
      | some g =>
        have hself : r.given g (m :: ms) = m.2 :: r.given g ms :=
          given_cons_of_eq (by simp [hk, hf]) ms
        have hother : ∀ f, f ≠ g → r.given f (m :: ms) = r.given f ms :=
          fun f hne => given_cons_of_ne (by simp [hk, hf, hne.symm]) ms
        simp only [Option.some.injEq, exists_eq_left', hf, reduceCtorEq, false_and, false_or,
          false_implies, true_and, ih]
        constructor
        · rintro ⟨_, v, rfl, hseen, hp, hms, h⟩
          refine ⟨hms, fun f => ?_⟩
          rcases eq_or_ne f g with rfl | hne
          · rw [hself, l.holds_cons_iff hp]
            exact ⟨fun hmem => absurd hmem hseen, (h f).1 (List.mem_cons_self ..), (h f).2⟩
          · rw [hother f hne]
            exact ⟨fun hmem => (h f).1 (List.mem_cons_of_mem _ hmem),
              (l.holds_set_of_ne hne ..).mp (h f).2⟩
        · rintro ⟨hms, h⟩
          obtain ⟨hseen, hholds⟩ := h g
          rw [hself] at hseen hholds
          have hp := l.parse_of_holds hholds
          obtain ⟨hnone, hset⟩ := (l.holds_cons_iff hp ..).mp hholds
          refine ⟨g, _, rfl, fun hmem => List.cons_ne_nil _ _ (hseen hmem), hp, hms, fun f => ?_⟩
          rcases eq_or_ne f g with rfl | hne
          · exact ⟨fun _ => hnone, hset⟩
          · have hf := h f
            rw [hother f hne] at hf
            refine ⟨fun hmem => hf.1 ?_, (l.holds_set_of_ne hne ..).mpr hf.2⟩
            exact (List.mem_cons.mp hmem).resolve_left hne

/-- **An object as a whole.** -/
theorem decode_object_eq_ok_iff {s s' : S} {ms : List (StringToken × Document)} :
    r.decode s (.object ms) = .ok s' ↔ r.Legible ms ∧ ∀ f, l.Holds s f (r.given f ms) s' := by
  have hread : r.decode s (.object ms) = r.members [] s ms := rfl
  simp [hread, l.members_eq_ok_iff]

end Slots

end Record

end EthClient
