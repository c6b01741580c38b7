import EthClient.Json.Document
import Mathlib.Tactic.Common

/-! # What follows a literal does not matter

The readers of literals take what they can from the front of a text, and what follows tells them
where to stop. None of them needs all of it: a reader that takes something takes the same if less
follows (`Document.Cuts`), down to nothing at all. So do the readers of numbers
(**`Document.cuts_literal?`**), of strings (**`Document.cuts_pieces?`**), of words and of blanks.
`Document.CutAt` says this of any relation between a text and what is left of it, and relations of
this kind may be put in a row. -/

namespace EthClient

open Text (Symbol)

namespace Document

open Json

/-! ## Readers -/

section Cuts

variable {α β : Type}

/-- A reader that takes the same from a text if less follows what it takes. -/
def Cuts (read : List Symbol → Option (α × List Symbol)) : Prop :=
  ∀ ⦃s a rest⦄, read s = some (a, rest) →
    ∃ t, s = t ++ rest ∧ ∀ u, u <+: rest → read (t ++ u) = some (a, u)

/-- One such reader after another. -/
theorem Cuts.bind {read : List Symbol → Option (α × List Symbol)}
    {next : α → List Symbol → Option (β × List Symbol)} (h : Cuts read)
    (hnext : ∀ a, Cuts (next a)) : Cuts fun s => (read s).bind fun p => next p.1 p.2 := by
  intro s b rest hb
  obtain ⟨⟨a, middle⟩, ha, hlast⟩ := Option.bind_eq_some_iff.mp hb
  obtain ⟨t, rfl, ht⟩ := h ha
  obtain ⟨t', rfl, ht'⟩ := hnext a hlast
  refine ⟨t ++ t', (List.append_assoc ..).symm, fun u hu => ?_⟩
  have hmiddle : t' ++ u <+: t' ++ rest := (List.prefix_append_right_inj t').mpr hu
  have hread := ht (t' ++ u) hmiddle
  dsimp only
  rw [List.append_assoc, hread, Option.bind_some, ht' u hu]

/-- A reader some of whose results are used. -/
theorem Cuts.filterMap {read : List Symbol → Option (α × List Symbol)} (h : Cuts read)
    (f : α → Option β) : Cuts fun s => (read s).bind fun p => (f p.1).map fun b => (b, p.2) := by
  intro s b rest hb
  obtain ⟨⟨a, rest'⟩, ha, hlast⟩ := Option.bind_eq_some_iff.mp hb
  obtain ⟨b', hf, heq⟩ := Option.map_eq_some_iff.mp hlast
  cases heq
  obtain ⟨t, hs, ht⟩ := h ha
  refine ⟨t, hs, fun u hu => ?_⟩
  have hf : f a = some b := hf
  dsimp only
  rw [ht u hu, Option.bind_some, hf]
  rfl

/-- The digits at the front. -/
theorem cuts_digits : Cuts fun s => some (digits s) := by
  intro s ds rest h
  have h : digits s = (ds, rest) := Option.some.inj h
  dsimp only
  induction s generalizing ds with
  | nil =>
    cases h
    exact ⟨[], rfl, fun u hu => by rw [List.prefix_nil.mp hu]; rfl⟩
  | cons x s ih =>
    rw [digits] at h
    cases hx : decimal? x with
    | none =>
      rw [hx] at h
      cases h
      refine ⟨[], rfl, fun u hu => ?_⟩
      -- the symbol that is no digit stands in front of what is left of the rest, if anything is
      cases u with
      | nil => rfl
      | cons y u =>
        obtain ⟨rfl, -⟩ := List.cons_prefix_cons.mp hu
        rw [List.nil_append, digits, hx]
    | some d =>
      rw [hx] at h
      rcases hrest : digits s with ⟨ds', after⟩
      rw [hrest] at h
      cases h
      obtain ⟨t, rfl, ht⟩ := ih (congrArg some hrest) hrest
      refine ⟨x :: t, rfl, fun u hu => ?_⟩
      have hmore : digits (t ++ u) = (ds', u) := Option.some.inj (ht u hu)
      rw [List.cons_append, digits, hx, hmore]

/-- A reader that needs something to read keeps the first symbol. -/
theorem Cuts.cons {read : List Symbol → Option (α × List Symbol)} (h : Cuts read)
    (hnil : read [] = none) {x : Symbol} {s rest : List Symbol} {a : α}
    (ha : read (x :: s) = some (a, rest)) :
    ∃ t, s = t ++ rest ∧ ∀ u, u <+: rest → read (x :: (t ++ u)) = some (a, u) := by
  obtain ⟨t, hs, ht⟩ := h ha
  cases t with
  | nil =>
    have hread := ht [] List.nil_prefix
    rw [List.append_nil, hnil] at hread
    cases hread
  | cons y t =>
    obtain ⟨rfl, rfl⟩ := List.cons.inj hs
    exact ⟨t, rfl, ht⟩

/-- The digits at the front, of which there must be some. -/
def someDigits? (s : List Symbol) : Option (List Nat × List Symbol) :=
  match digits s with
  | ([], _) => none
  | (ds, rest) => some (ds, rest)

/-- They are read alike if less follows. -/
theorem cuts_someDigits? : Cuts someDigits? := by
  have heq : someDigits? = fun s => (some (digits s)).bind fun p =>
      (if p.1 = [] then none else some p.1).map fun ds => (ds, p.2) := by
    funext s
    rw [someDigits?, Option.bind_some]
    rcases digits s with ⟨_ | ⟨d, ds⟩, rest⟩ <;> rfl
  rw [heq]
  exact cuts_digits.filterMap fun ds => if ds = [] then none else some ds

/-- The digits before the point, of which the first is not zero unless it is the only one. -/
def noLeadingZero? : List Nat → Option (List Nat)
  | 0 :: _ :: _ => none
  | ds => some ds

/-- The part before the point. -/
theorem cuts_wholePart? : Cuts wholePart? := by
  have heq : wholePart? = fun s => (someDigits? s).bind fun p =>
      (noLeadingZero? p.1).map fun ds => (ds, p.2) := by
    funext s
    rw [wholePart?, someDigits?]
    rcases digits s with ⟨_ | ⟨_ | d, _ | ⟨d', ds⟩⟩, rest⟩ <;> rfl
  rw [heq]
  exact cuts_someDigits?.filterMap noLeadingZero?

/-- The part after the point. -/
theorem cuts_fractionPart? : Cuts fractionPart? := by
  intro s ds rest h
  unfold fractionPart? at h
  split at h
  · rename_i after
    have hdigits : someDigits? after = some (ds, rest) := h
    obtain ⟨t, rfl, ht⟩ := cuts_someDigits? hdigits
    exact ⟨some '.' :: t, rfl, ht⟩
  · rename_i hpoint
    cases h
    refine ⟨[], rfl, fun u hu => ?_⟩
    rw [List.nil_append]
    -- less of the rest has no point in front either
    unfold fractionPart?
    split
    · obtain ⟨more, hs⟩ := hu
      exact absurd hs.symm (hpoint _)
    · rfl

/-- A sign at the front is dropped, and told by a truth value. -/
structure DropsSign (drop : List Symbol → Bool × List Symbol) : Prop where
  nil : drop [] = (false, [])
  cons (x : Symbol) : (∃ negative, ∀ s, drop (x :: s) = (negative, s)) ∨
    ∀ s, drop (x :: s) = (false, x :: s)

/-- What is read after a sign. -/
theorem Cuts.signed {drop : List Symbol → Bool × List Symbol}
    {read : Bool → List Symbol → Option (α × List Symbol)} (hdrop : DropsSign drop)
    (h : ∀ negative, Cuts (read negative)) (hnil : read false [] = none) :
    Cuts fun s => read (drop s).1 (drop s).2 := by
  intro s a rest ha
  dsimp only at ha ⊢
  cases s with
  | nil =>
    rw [hdrop.nil, hnil] at ha
    cases ha
  | cons x s =>
    rcases hdrop.cons x with ⟨negative, hx⟩ | hx
    · rw [hx] at ha
      obtain ⟨t, rfl, ht⟩ := h negative ha
      exact ⟨x :: t, rfl, fun u hu => by rw [List.cons_append, hx]; exact ht u hu⟩
    · rw [hx] at ha
      obtain ⟨t, rfl, ht⟩ := (h false).cons hnil ha
      exact ⟨x :: t, rfl, fun u hu => by rw [List.cons_append, hx]; exact ht u hu⟩

/-- The sign of an exponent. -/
def exponentSign : List Symbol → Bool × List Symbol
  | some '-' :: rest => (true, rest)
  | some '+' :: rest => (false, rest)
  | rest => (false, rest)

/-- It is dropped. -/
theorem dropsSign_exponentSign : DropsSign exponentSign where
  nil := rfl
  cons x := by
    by_cases hminus : x = some '-'
    · subst hminus
      exact .inl ⟨true, fun _ => rfl⟩
    · by_cases hplus : x = some '+'
      · subst hplus
        exact .inl ⟨false, fun _ => rfl⟩
      · refine .inr fun s => ?_
        unfold exponentSign
        split <;> simp_all

/-- The digits of an exponent. -/
def exponentDigits? (negative : Bool) (s : List Symbol) : Option (Option Int × List Symbol) :=
  (someDigits? s).bind fun p =>
    (some (some (if negative then -(Literal.ofDigits p.1 : Int) else Literal.ofDigits p.1))).map
      fun e => (e, p.2)

/-- They are read alike if less follows. -/
theorem cuts_exponentDigits? (negative : Bool) : Cuts (exponentDigits? negative) :=
  cuts_someDigits?.filterMap fun ds =>
    some (some (if negative then -(Literal.ofDigits ds : Int) else Literal.ofDigits ds))

/-- What follows the letter of an exponent. -/
theorem exponentPart?_cons {x : Symbol} (hx : x = some 'e' ∨ x = some 'E') (s : List Symbol) :
    exponentPart? (x :: s) = exponentDigits? (exponentSign s).1 (exponentSign s).2 := by
  have hdigits (negative : Bool) (rest : List Symbol) : exponentDigits? negative rest
      = match digits rest with
        | ([], _) => none
        | (ds, rest) =>
          let n : Int := Literal.ofDigits ds
          some (some (if negative then -n else n), rest) := by
    rw [exponentDigits?, someDigits?]
    rcases digits rest with ⟨_ | ⟨d, ds⟩, after⟩ <;> rfl
  rw [hdigits]
  rcases hx with rfl | rfl
  · rfl
  · rfl

/-- The exponent. -/
theorem cuts_exponentPart? : Cuts exponentPart? := by
  have hsigned : Cuts fun s => exponentDigits? (exponentSign s).1 (exponentSign s).2 :=
    Cuts.signed dropsSign_exponentSign cuts_exponentDigits? rfl
  have hnone (s : List Symbol) (h : ∀ x ∈ s.head?, x ≠ some 'e' ∧ x ≠ some 'E') :
      exponentPart? s = some (none, s) := by
    unfold exponentPart?
    split
    · exact absurd rfl (h _ rfl).1
    · exact absurd rfl (h _ rfl).2
    · rfl
  intro s e rest h
  by_cases hx : ∃ x ∈ s.head?, x = some 'e' ∨ x = some 'E'
  · obtain ⟨x, hhead, hx⟩ := hx
    obtain ⟨after, rfl⟩ := List.head?_eq_some_iff.mp hhead
    rw [exponentPart?_cons hx] at h
    obtain ⟨t, rfl, ht⟩ := hsigned h
    refine ⟨x :: t, rfl, fun u hu => ?_⟩
    rw [List.cons_append, exponentPart?_cons hx]
    exact ht u hu
  · have hother : ∀ x ∈ s.head?, x ≠ some 'e' ∧ x ≠ some 'E' := fun x hhead =>
      not_or.mp fun heq => hx ⟨x, hhead, heq⟩
    rw [hnone s hother] at h
    cases h
    refine ⟨[], rfl, fun u hu => hnone u fun x hhead => hother x ?_⟩
    obtain ⟨after, rfl⟩ := List.head?_eq_some_iff.mp hhead
    obtain ⟨more, rfl⟩ := hu
    rfl

/-- The sign of a number. -/
def numberSign : List Symbol → Bool × List Symbol
  | some '-' :: rest => (true, rest)
  | s => (false, s)

/-- It is dropped. -/
theorem dropsSign_numberSign : DropsSign numberSign where
  nil := rfl
  cons x := by
    by_cases hminus : x = some '-'
    · subst hminus
      exact .inl ⟨true, fun _ => rfl⟩
    · refine .inr fun s => ?_
      unfold numberSign
      split <;> simp_all

/-- A number without its sign. -/
def unsigned? (negative : Bool) (s : List Symbol) : Option (Literal × List Symbol) :=
  (wholePart? s).bind fun w => (fractionPart? w.2).bind fun f => (exponentPart? f.2).bind fun e =>
    (some (⟨negative, w.1, f.1, e.1⟩ : Literal)).map fun l => (l, e.2)

/-- **A number is read alike if less follows.** -/
theorem cuts_literal? : Cuts literal? := by
  have hunsigned (negative : Bool) : Cuts (unsigned? negative) :=
    cuts_wholePart?.bind fun w => cuts_fractionPart?.bind fun f =>
      cuts_exponentPart?.filterMap fun e => some (⟨negative, w, f, e⟩ : Literal)
  have heq : literal? = fun s => unsigned? (numberSign s).1 (numberSign s).2 := rfl
  rw [heq]
  exact Cuts.signed dropsSign_numberSign hunsigned rfl

/-- A unit in front of a literal. -/
theorem cut_cons {read : List Symbol → Option (List Piece × List Symbol)} {s rest : List Symbol}
    {pieces : List Piece} (front : List Symbol) (piece : Piece)
    (hfront : ∀ s, read (front ++ s) = (read s).map fun p => (piece :: p.1, p.2))
    (ih : ∀ pieces, read s = some (pieces, rest) →
      ∃ t, s = t ++ rest ∧ ∀ u, u <+: rest → read (t ++ u) = some (pieces, u))
    (h : read (front ++ s) = some (pieces, rest)) :
    ∃ t, front ++ s = t ++ rest ∧ ∀ u, u <+: rest → read (t ++ u) = some (pieces, u) := by
  rw [hfront] at h
  obtain ⟨⟨later, rest'⟩, hlater, heq⟩ := Option.map_eq_some_iff.mp h
  cases heq
  obtain ⟨t, rfl, ht⟩ := ih later hlater
  refine ⟨front ++ t, (List.append_assoc ..).symm, fun u hu => ?_⟩
  rw [List.append_assoc, hfront, ht u hu]
  rfl

/-- **A string is read alike if less follows.** -/
theorem cuts_pieces? : Cuts pieces? := by
  intro s pieces rest h
  induction s using pieces?.induct generalizing pieces with
  | case1 => cases h
  | case2 after =>
    cases h
    exact ⟨[some '"'], rfl, fun u _ => rfl⟩
  | case3 a b c d after ih =>
    cases hunit : unit? a b c d with
    | none =>
      rw [pieces?, hunit] at h
      cases h
    | some unit =>
      refine cut_cons [some '\\', some 'u', some a, some b, some c, some d]
        (.escaped unit) (fun s => ?_) @ih h
      simp only [List.cons_append, List.nil_append]
      rw [pieces?, hunit]
      cases pieces? s <;> rfl
  | case4 c after hunit ih =>
    cases hshort : shortEscape? c with
    | none =>
      rw [pieces?, hshort] at h
      · cases h
      · exact hunit
    | some unit =>
      have hu : c ≠ 'u' := by
        rintro rfl
        cases hshort
      refine cut_cons [some '\\', some c] (.escaped unit) (fun s => ?_) @ih h
      simp only [List.cons_append, List.nil_append]
      rw [pieces?, hshort]
      · cases pieces? s <;> rfl
      · exact fun _ _ _ _ _ _ hc => hu hc
  | case5 after hunit hshort =>
    rw [pieces?] at h
    · cases h
    · exact hunit
    · exact hshort
  | case6 x after hquote hunit hshort hback hcontrol =>
    rw [pieces?, if_pos hcontrol] at h
    · cases h
    all_goals assumption
  | case7 x after hquote hunit hshort hback hcontrol ih =>
    refine cut_cons [x] (.plain x) (fun s => ?_) @ih h
    simp only [List.cons_append, List.nil_append]
    rw [pieces?, if_neg hcontrol]
    · exact hquote
    · exact fun _ _ _ _ _ heq _ => hback heq
    · exact fun _ _ heq _ => hback heq
    · exact hback

/-- A word. -/
theorem cuts_keyword? (letters : List Char) :
    Cuts fun s => (keyword? letters s).map fun rest => ((), rest) := by
  intro s _ rest h
  obtain ⟨rest', hword, heq⟩ := Option.map_eq_some_iff.mp h
  cases heq
  rw [keyword?] at hword
  split at hword
  · rename_i hfront
    obtain ⟨after, rfl⟩ := hfront
    cases hword
    refine ⟨letters.map some, by simp, fun u _ => ?_⟩
    simp [keyword?]
  · cases hword

/-- Blanks. -/
theorem cut_skipBlanks (s : List Symbol) :
    ∃ t, s = t ++ skipBlanks s ∧ ∀ u, u <+: skipBlanks s → skipBlanks (t ++ u) = u := by
  induction s with
  | nil => exact ⟨[], rfl, fun u hu => by rw [List.prefix_nil.mp hu]; rfl⟩
  | cons x s ih =>
    by_cases hx : ∃ c, x = some c ∧ Hex.isBlank c = true
    · obtain ⟨c, rfl, hc⟩ := hx
      have hskip (s : List Symbol) : skipBlanks (some c :: s) = skipBlanks s := by
        rw [skipBlanks, if_pos hc]
      obtain ⟨t, hs, ht⟩ := ih
      rw [hskip]
      refine ⟨some c :: t, congrArg _ hs, fun u hu => ?_⟩
      rw [List.cons_append, hskip, ht u hu]
    · have hkeep (s : List Symbol) : skipBlanks (x :: s) = x :: s := by
        cases x with
        | none => rfl
        | some c => rw [skipBlanks, if_neg fun hc => hx ⟨c, rfl, hc⟩]
      rw [hkeep]
      refine ⟨[], rfl, fun u hu => ?_⟩
      cases u with
      | nil => rfl
      | cons y u =>
        obtain ⟨rfl, -⟩ := List.cons_prefix_cons.mp hu
        exact hkeep u

end Cuts

/-! ## Relations -/

/-- A relation between a text and what follows that holds as well if less follows. -/
def CutAt (R : List Symbol → List Symbol → Prop) (s rest : List Symbol) : Prop :=
  ∃ t, t ≠ [] ∧ s = t ++ rest ∧ ∀ u, u <+: rest → R (t ++ u) u

section CutAt

variable {α : Type} {R R' : List Symbol → List Symbol → Prop} {s middle rest : List Symbol}

/-- A weaker relation. -/
theorem CutAt.imp (h : CutAt R s rest) (himp : ∀ {s rest}, R s rest → R' s rest) :
    CutAt R' s rest := by
  obtain ⟨t, hne, hs, ht⟩ := h
  exact ⟨t, hne, hs, fun u hu => himp (ht u hu)⟩

/-- One such relation after another. -/
theorem CutAt.trans (h : CutAt R s middle) (h' : CutAt R' middle rest) :
    CutAt (fun s rest => ∃ middle, R s middle ∧ R' middle rest) s rest := by
  obtain ⟨t, hne, rfl, ht⟩ := h
  obtain ⟨t', -, rfl, ht'⟩ := h'
  refine ⟨t ++ t', by simp [hne], (List.append_assoc ..).symm, fun u hu => ?_⟩
  have hmiddle : t' ++ u <+: t' ++ rest := (List.prefix_append_right_inj t').mpr hu
  rw [List.append_assoc]
  exact ⟨t' ++ u, ht _ hmiddle, ht' u hu⟩

/-- A reader that needs something to read. -/
theorem Cuts.cutAt {read : List Symbol → Option (α × List Symbol)} (h : Cuts read)
    (hnil : read [] = none) {a : α} (ha : read s = some (a, rest)) :
    CutAt (fun s rest => read s = some (a, rest)) s rest := by
  obtain ⟨t, hs, ht⟩ := h ha
  refine ⟨t, fun hempty => ?_, hs, ht⟩
  have hread := ht [] List.nil_prefix
  rw [hempty, List.append_nil, hnil] at hread
  cases hread

/-- The first symbol is the same if less follows. -/
theorem CutAt.withHead {P : Option Symbol → Prop} (hP : P s.head?) (h : CutAt R s rest) :
    CutAt (fun s rest => P s.head? ∧ R s rest) s rest := by
  obtain ⟨_ | ⟨x, t⟩, hne, rfl, ht⟩ := h
  · exact absurd rfl hne
  · exact ⟨x :: t, hne, rfl, fun u hu => ⟨hP, ht u hu⟩⟩

/-- Blanks may stand before. -/
theorem CutAt.afterBlanks (h : CutAt R (skipBlanks s) rest) :
    CutAt (fun s rest => R (skipBlanks s) rest) s rest := by
  obtain ⟨b, hs, hb⟩ := cut_skipBlanks s
  obtain ⟨t, hne, hskip, ht⟩ := h
  rw [hskip] at hs hb
  refine ⟨b ++ t, by simp [hne], by rw [List.append_assoc, ← hs], fun u hu => ?_⟩
  have hblanks := hb _ ((List.prefix_append_right_inj t).mpr hu)
  dsimp only
  rw [List.append_assoc, hblanks]
  exact ht u hu

/-- A symbol after blanks. -/
theorem cutAt_symbol {x : Symbol} (hs : skipBlanks s = x :: rest) :
    CutAt (fun s rest => skipBlanks s = x :: rest) s rest := by
  have hx : CutAt (fun s rest => s = x :: rest) (skipBlanks s) rest :=
    ⟨[x], by simp, hs, fun u _ => rfl⟩
  exact hx.afterBlanks

/-- Something is taken. -/
theorem CutAt.length_lt (h : CutAt R s rest) : rest.length < s.length := by
  obtain ⟨t, hne, rfl, -⟩ := h
  have hpos := List.length_pos_iff.mpr hne
  rw [List.length_append]
  omega

/-- What follows is the end of a text. -/
theorem CutAt.suffix (h : CutAt R s rest) : rest <:+ s := by
  obtain ⟨t, -, hs, -⟩ := h
  exact ⟨t, hs.symm⟩

end CutAt

/-- Blanks are dropped at the front. -/
theorem skipBlanks_suffix (s : List Symbol) : skipBlanks s <:+ s := by
  obtain ⟨t, hs, -⟩ := cut_skipBlanks s
  exact ⟨t, hs.symm⟩

end Document

end EthClient
