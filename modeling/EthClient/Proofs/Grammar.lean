import EthClient.Proofs.Cuts
import EthClient.Proofs.Rearrangement

/-! # The grammar of the texts that are read

`Document.Reads` says what a JSON text is: which part of a document may stand at the front of a
text, and what follows it. The reader takes exactly the texts of this grammar, for it never runs out
of steps (**`Document.ofSymbols_eq_true_iff`**).

So what is known of a document that was read comes from the grammar:

* it is JSON to its end, and all its bytes are text if it has a value
  (**`Document.Reads.complete`**, **`Document.Reads.decodable`**);
* a part of it is what its own text says: the text around it does not matter
  (**`Document.Reads.cut`**, **`Document.exists_text_of_member`**). -/

namespace EthClient

open Text (Symbol)

namespace Document

open Json

/-! ## The grammar -/

/-- What stands at the front of a text: a value, or what is left of an array or of an object up to
the closing bracket. -/
inductive Part where
  | value (d : Document)
  | items (ds : List Document)
  | members (ms : List (StringToken × Document))

/-- The words that are values, the first letter apart. -/
def words : List (Char × List Char × Document) :=
  [('n', ['u', 'l', 'l'], .null), ('t', ['r', 'u', 'e'], .bool true),
    ('f', ['a', 'l', 's', 'e'], .bool false)]

/-- A part stands at the front of a text, and something follows it. -/
inductive Reads : Part → List Symbol → List Symbol → Prop where
  | word {c : Char} {letters : List Char} {d : Document} {s after rest : List Symbol}
    (hword : (c, letters, d) ∈ words) (hs : skipBlanks s = some c :: after)
    (hletters : keyword? letters after = some rest) : Reads (.value d) s rest
  | string {pieces : List Piece} {s after rest : List Symbol}
    (hs : skipBlanks s = some '"' :: after) (hpieces : pieces? after = some (pieces, rest)) :
    Reads (.value (.string (.ofPieces pieces))) s rest
  | number {l : Literal} {s after rest : List Symbol} (hs : skipBlanks s = after)
    (hother : ∀ c ∈ ['n', 't', 'f', '"', '[', '{'], after.head? ≠ some (some c))
    (hliteral : literal? after = some (l, rest)) : Reads (.value (.number l.number?)) s rest
  | noItems {s after rest : List Symbol} (hs : skipBlanks s = some '[' :: after)
    (hclose : skipBlanks after = some ']' :: rest) : Reads (.value (.array [])) s rest
  | array {ds : List Document} {s after rest : List Symbol}
    (hs : skipBlanks s = some '[' :: after)
    (hopen : (skipBlanks after).head? ≠ some (some ']'))
    (hitems : Reads (.items ds) (skipBlanks after) rest) : Reads (.value (.array ds)) s rest
  | noMembers {s after rest : List Symbol} (hs : skipBlanks s = some '{' :: after)
    (hclose : skipBlanks after = some '}' :: rest) : Reads (.value (.object [])) s rest
  | object {ms : List (StringToken × Document)} {s after rest : List Symbol}
    (hs : skipBlanks s = some '{' :: after)
    (hopen : (skipBlanks after).head? ≠ some (some '}'))
    (hmembers : Reads (.members ms) (skipBlanks after) rest) : Reads (.value (.object ms)) s rest
  | lastItem {d : Document} {s after rest : List Symbol} (hitem : Reads (.value d) s after)
    (hclose : skipBlanks after = some ']' :: rest) : Reads (.items [d]) s rest
  | item {d : Document} {ds : List Document} {s after more rest : List Symbol}
    (hitem : Reads (.value d) s after) (hcomma : skipBlanks after = some ',' :: more)
    (hitems : Reads (.items ds) more rest) : Reads (.items (d :: ds)) s rest
  | lastMember {pieces : List Piece} {d : Document} {s name colon value after rest : List Symbol}
    (hs : skipBlanks s = some '"' :: name) (hname : pieces? name = some (pieces, colon))
    (hcolon : skipBlanks colon = some ':' :: value) (hvalue : Reads (.value d) value after)
    (hclose : skipBlanks after = some '}' :: rest) :
    Reads (.members [(.ofPieces pieces, d)]) s rest
  | member {pieces : List Piece} {d : Document} {ms : List (StringToken × Document)}
    {s name colon value after more rest : List Symbol}
    (hs : skipBlanks s = some '"' :: name) (hname : pieces? name = some (pieces, colon))
    (hcolon : skipBlanks colon = some ':' :: value) (hvalue : Reads (.value d) value after)
    (hcomma : skipBlanks after = some ',' :: more) (hmembers : Reads (.members ms) more rest) :
    Reads (.members ((.ofPieces pieces, d) :: ms)) s rest

/-- A text is read as a part, with something left. -/
def Takes (fuel : Nat) (s rest : List Symbol) : Part → Prop
  | .value d => Document.value fuel s = (d, some rest)
  | .items ds => Document.items fuel s = (ds, some rest)
  | .members ms => Document.members fuel s = (ms, some rest)

/-- A word that was read. -/
theorem word_eq_some_iff {meaning d : Document} {letters : List Char} {s rest : List Symbol} :
    word meaning letters s = (d, some rest) ↔ d = meaning ∧ keyword? letters s = some rest := by
  unfold word
  cases keyword? letters s <;> simp [eq_comm]

/-- Another symbol comes first. -/
theorem head?_ne {x : Symbol} {s : List Symbol} (h : ∀ rest, s = x :: rest → False) :
    s.head? ≠ some x := by
  intro hx
  obtain ⟨rest, hs⟩ := List.head?_eq_some_iff.mp hx
  exact h rest hs

section Reading

variable {fuel : Nat} (ih : ∀ {s rest p}, Takes fuel s rest p → Reads p s rest)
variable {s rest : List Symbol}

include ih

/-- A value that is read is in the grammar, if what is read in fewer steps is. -/
theorem reads_value {d : Document} (h : value (fuel + 1) s = (d, some rest)) :
    Reads (.value d) s rest := by
  rw [value] at h
  split at h
  · rename_i after hs
    obtain ⟨rfl, hletters⟩ := word_eq_some_iff.mp h
    exact Reads.word (by simp [words]) hs hletters
  · rename_i after hs
    obtain ⟨rfl, hletters⟩ := word_eq_some_iff.mp h
    exact Reads.word (by simp [words]) hs hletters
  · rename_i after hs
    obtain ⟨rfl, hletters⟩ := word_eq_some_iff.mp h
    exact Reads.word (by simp [words]) hs hletters
  · rename_i after hs
    split at h
    · rename_i pieces rest' hpieces
      cases h
      exact .string hs hpieces
    · cases h
  · rename_i after hs
    split at h
    · rename_i rest' hclose
      cases h
      exact .noItems hs hclose
    · rename_i hopen
      rcases hitems : items fuel (skipBlanks after) with ⟨found, rest'⟩
      rw [hitems] at h
      cases h
      exact .array hs (head?_ne hopen) (ih (p := .items found) hitems)
  · rename_i after hs
    split at h
    · rename_i rest' hclose
      cases h
      exact .noMembers hs hclose
    · rename_i hopen
      rcases hmembers : members fuel (skipBlanks after) with ⟨found, rest'⟩
      rw [hmembers] at h
      cases h
      exact .object hs (head?_ne hopen) (ih (p := .members found) hmembers)
  · -- no other value starts like this
    rename_i hn ht hf hq ha ho
    split at h
    · rename_i l rest' hliteral
      cases h
      refine .number rfl ?_ hliteral
      simp only [List.forall_mem_cons, List.not_mem_nil, false_implies, implies_true, and_true]
      exact ⟨head?_ne hn, head?_ne ht, head?_ne hf, head?_ne hq, head?_ne ha, head?_ne ho⟩
    · cases h

/-- So are the items of an array. -/
theorem reads_items {ds : List Document} (h : items (fuel + 1) s = (ds, some rest)) :
    Reads (.items ds) s rest := by
  rw [items] at h
  split at h
  · cases h
  · rename_i item after hitem
    have hitem : Reads (.value item) s after := ih (p := .value item) hitem
    split at h
    · rename_i more hcomma
      rcases hitems : items fuel more with ⟨found, rest'⟩
      rw [hitems] at h
      cases h
      exact .item hitem hcomma (ih (p := .items found) hitems)
    · rename_i more hclose
      cases h
      exact .lastItem hitem hclose
    · cases h

/-- And the members of an object. -/
theorem reads_members {ms : List (StringToken × Document)}
    (h : members (fuel + 1) s = (ms, some rest)) : Reads (.members ms) s rest := by
  rw [members] at h
  split at h
  · rename_i name hs
    split at h
    · cases h
    · rename_i pieces colon hname
      dsimp only at h
      split at h
      · rename_i value hcolon
        split at h
        · cases h
        · rename_i item after hvalue
          have hvalue : Reads (.value item) value after := ih (p := .value item) hvalue
          split at h
          · rename_i more hcomma
            rcases hmembers : members fuel more with ⟨found, rest'⟩
            rw [hmembers] at h
            cases h
            exact .member hs hname hcolon hvalue hcomma (ih (p := .members found) hmembers)
          · rename_i more hclose
            cases h
            exact .lastMember hs hname hcolon hvalue hclose
          · cases h
      · cases h
  · cases h

end Reading

/-- **What is read is in the grammar.** -/
theorem Takes.reads {fuel : Nat} {s rest : List Symbol} {p : Part} (h : Takes fuel s rest p) :
    Reads p s rest := by
  induction fuel generalizing s rest p with
  | zero => cases p <;> cases h
  | succ fuel ih =>
    cases p with
    | value d => exact reads_value ih h
    | items ds => exact reads_items ih h
    | members ms => exact reads_members ih h

/-! ## What follows does not matter -/

/-- **A part of a text is the same if less follows.** -/
theorem Reads.cut {p : Part} {s rest : List Symbol} (h : Reads p s rest) :
    CutAt (Reads p) s rest := by
  have hname {s pieces rest} (h : pieces? s = some (pieces, rest)) := cuts_pieces?.cutAt rfl h
  induction h with
  | @word c letters d s after rest hword hs hletters =>
    have hnil : keyword? letters [] = none := by
      simp only [words, List.mem_cons, Prod.mk.injEq, List.not_mem_nil, or_false] at hword
      rcases hword with ⟨-, rfl, -⟩ | ⟨-, rfl, -⟩ | ⟨-, rfl, -⟩ <;> rfl
    have hrest : (keyword? letters after).map (fun rest => ((), rest)) = some ((), rest) := by
      rw [hletters]
      rfl
    have hkeyword : CutAt (fun s rest => keyword? letters s = some rest) after rest :=
      ((cuts_keyword? letters).cutAt (by rw [hnil]; rfl) hrest).imp fun h => by simpa using h
    exact ((cutAt_symbol hs).trans hkeyword).imp fun ⟨_, hs, hletters⟩ => .word hword hs hletters
  | string hs hpieces =>
    exact ((cutAt_symbol hs).trans (hname hpieces)).imp fun ⟨_, hs, hpieces⟩ => .string hs hpieces
  | number hs hother hliteral =>
    subst hs
    have hnumber := (cuts_literal?.cutAt rfl hliteral).withHead
      (P := fun x => ∀ c ∈ ['n', 't', 'f', '"', '[', '{'], x ≠ some (some c)) hother
    exact hnumber.afterBlanks.imp fun ⟨hother, hliteral⟩ => .number rfl hother hliteral
  | noItems hs hclose =>
    exact ((cutAt_symbol hs).trans (cutAt_symbol hclose)).imp
      fun ⟨_, hs, hclose⟩ => .noItems hs hclose
  | array hs hopen hitems ih =>
    have hitems := (ih.withHead (P := fun x => x ≠ some (some ']')) hopen).afterBlanks
    exact ((cutAt_symbol hs).trans hitems).imp
      fun ⟨_, hs, hopen, hitems⟩ => .array hs hopen hitems
  | noMembers hs hclose =>
    exact ((cutAt_symbol hs).trans (cutAt_symbol hclose)).imp
      fun ⟨_, hs, hclose⟩ => .noMembers hs hclose
  | object hs hopen hmembers ih =>
    have hmembers := (ih.withHead (P := fun x => x ≠ some (some '}')) hopen).afterBlanks
    exact ((cutAt_symbol hs).trans hmembers).imp
      fun ⟨_, hs, hopen, hmembers⟩ => .object hs hopen hmembers
  | lastItem hitem hclose ih =>
    exact (ih.trans (cutAt_symbol hclose)).imp fun ⟨_, hitem, hclose⟩ => .lastItem hitem hclose
  | item hitem hcomma hitems ih ih' =>
    exact (ih.trans ((cutAt_symbol hcomma).trans ih')).imp
      fun ⟨_, hitem, _, hcomma, hitems⟩ => .item hitem hcomma hitems
  | lastMember hs hpieces hcolon hvalue hclose ih =>
    exact ((cutAt_symbol hs).trans ((hname hpieces).trans ((cutAt_symbol hcolon).trans
      (ih.trans (cutAt_symbol hclose))))).imp
      fun ⟨_, hs, _, hname, _, hcolon, _, hvalue, hclose⟩ =>
        .lastMember hs hname hcolon hvalue hclose
  | member hs hpieces hcolon hvalue hcomma hmembers ih ih' =>
    exact ((cutAt_symbol hs).trans ((hname hpieces).trans ((cutAt_symbol hcolon).trans
      (ih.trans ((cutAt_symbol hcomma).trans ih'))))).imp
      fun ⟨_, hs, _, hname, _, hcolon, _, hvalue, _, hcomma, hmembers⟩ =>
        .member hs hname hcolon hvalue hcomma hmembers

/-! ## The reader has steps enough -/

/-- A part of a text takes some of it, so it is read with one step at least. -/
theorem Reads.exists_steps {p : Part} {s rest : List Symbol} (h : Reads p s rest) {fuel : Nat}
    (hfuel : 2 * s.length ≤ 2 * rest.length + fuel) : ∃ k, fuel = k + 1 := by
  have hlt := h.cut.length_lt
  exact ⟨fuel - 1, by omega⟩

/-- **What is in the grammar is read**, with two steps for each symbol that it takes. -/
theorem Reads.takes {p : Part} {s rest : List Symbol} (h : Reads p s rest) {fuel : Nat}
    (hfuel : 2 * s.length ≤ 2 * rest.length + fuel) : Takes fuel s rest p := by
  -- an array or an object takes a bracket before its parts are read, and each further part a comma
  induction h generalizing fuel with
  | @word c letters d s after rest hword hs hletters =>
    obtain ⟨fuel, rfl⟩ := (Reads.word hword hs hletters).exists_steps hfuel
    simp only [words, List.mem_cons, Prod.mk.injEq, List.not_mem_nil, or_false] at hword
    rcases hword with ⟨rfl, rfl, rfl⟩ | ⟨rfl, rfl, rfl⟩ | ⟨rfl, rfl, rfl⟩ <;>
      simp only [Takes, value, hs] <;> exact word_eq_some_iff.mpr ⟨rfl, hletters⟩
  | string hs hpieces =>
    obtain ⟨fuel, rfl⟩ := (Reads.string hs hpieces).exists_steps hfuel
    simp only [Takes, value, hs, hpieces]
  | number hs hother hliteral =>
    obtain ⟨fuel, rfl⟩ := (Reads.number hs hother hliteral).exists_steps hfuel
    rw [Takes, value, hs]
    split
    case h_7 => rw [hliteral]
    all_goals exact absurd rfl (hother _ (by simp))
  | noItems hs hclose =>
    obtain ⟨fuel, rfl⟩ := (Reads.noItems hs hclose).exists_steps hfuel
    simp only [Takes, value, hs, hclose]
  | @array ds s after rest hs hopen hitems ih =>
    obtain ⟨fuel, rfl⟩ := (Reads.array hs hopen hitems).exists_steps hfuel
    have hopened := (cutAt_symbol hs).length_lt
    have hrest := hitems.cut.length_lt
    have hblanks := (skipBlanks_suffix after).length_le
    have hlater : items fuel (skipBlanks after) = (ds, some rest) := ih (by omega)
    simp only [Takes, value, hs]
    split
    · rename_i hclose
      exact absurd (congrArg List.head? hclose) hopen
    · rw [hlater]
  | noMembers hs hclose =>
    obtain ⟨fuel, rfl⟩ := (Reads.noMembers hs hclose).exists_steps hfuel
    simp only [Takes, value, hs, hclose]
  | @object ms s after rest hs hopen hmembers ih =>
    obtain ⟨fuel, rfl⟩ := (Reads.object hs hopen hmembers).exists_steps hfuel
    have hopened := (cutAt_symbol hs).length_lt
    have hrest := hmembers.cut.length_lt
    have hblanks := (skipBlanks_suffix after).length_le
    have hlater : members fuel (skipBlanks after) = (ms, some rest) := ih (by omega)
    simp only [Takes, value, hs]
    split
    · rename_i hclose
      exact absurd (congrArg List.head? hclose) hopen
    · rw [hlater]
  | lastItem hitem hclose ih =>
    have hclosed := (cutAt_symbol hclose).length_lt
    have hlt := hitem.cut.length_lt
    obtain ⟨fuel, rfl⟩ := (Reads.lastItem hitem hclose).exists_steps hfuel
    have hvalue : value fuel _ = (_, some _) := ih (by omega)
    simp only [Takes, items, hvalue, hclose]
  | item hitem hcomma hitems ih ih' =>
    have hlt := hitem.cut.length_lt
    have hmore := (cutAt_symbol hcomma).length_lt
    have hrest := hitems.cut.length_lt
    obtain ⟨fuel, rfl⟩ := (Reads.item hitem hcomma hitems).exists_steps hfuel
    have hvalue : value fuel _ = (_, some _) := ih (by omega)
    have hlater : items fuel _ = (_, some _) := ih' (by omega)
    simp only [Takes, items, hvalue, hcomma, hlater]
  | lastMember hs hname hcolon hvalue hclose ih =>
    have hopened := (cutAt_symbol hs).length_lt
    have hnamed := (cuts_pieces?.cutAt rfl hname).length_lt
    have hdivided := (cutAt_symbol hcolon).length_lt
    have hlt := hvalue.cut.length_lt
    have hclosed := (cutAt_symbol hclose).length_lt
    obtain ⟨fuel, rfl⟩ := (Reads.lastMember hs hname hcolon hvalue hclose).exists_steps hfuel
    have hread : value fuel _ = (_, some _) := ih (by omega)
    simp only [Takes, members, hs, hname, hcolon, hread, hclose]
  | member hs hname hcolon hvalue hcomma hmembers ih ih' =>
    have hopened := (cutAt_symbol hs).length_lt
    have hnamed := (cuts_pieces?.cutAt rfl hname).length_lt
    have hdivided := (cutAt_symbol hcolon).length_lt
    have hlt := hvalue.cut.length_lt
    have hmore := (cutAt_symbol hcomma).length_lt
    have hrest := hmembers.cut.length_lt
    obtain ⟨fuel, rfl⟩ := (Reads.member hs hname hcolon hvalue hcomma hmembers).exists_steps hfuel
    have hread : value fuel _ = (_, some _) := ih (by omega)
    have hlater : members fuel _ = (_, some _) := ih' (by omega)
    simp only [Takes, members, hs, hname, hcolon, hread, hcomma, hlater]

/-! ## Whole texts -/

/-- **The texts that are read** are those of the grammar with nothing but blanks behind them. -/
theorem ofSymbols_eq_true_iff {s : List Symbol} {d : Document} :
    ofSymbols s = (d, true) ↔ ∃ rest, Reads (.value d) s rest ∧ skipBlanks rest = [] := by
  rw [ofSymbols]
  constructor
  · intro h
    split at h
    · rename_i found rest hread
      obtain ⟨rfl, hrest⟩ := Prod.mk.inj h
      exact ⟨rest, Takes.reads (p := .value found) hread, List.isEmpty_iff.mp hrest⟩
    · cases h
  · rintro ⟨rest, hreads, hrest⟩
    have hread : value (2 * s.length + 2) s = (d, some rest) := hreads.takes (by omega)
    rw [hread]
    simp [hrest]

/-! ## What holds of what is read -/

section All

variable {P : Document → Prop} {Q : StringToken → Prop} {p : Part} {s rest : List Symbol}

/-- Something holds of the documents in a part, and something else of the names. -/
def Part.All (P : Document → Prop) (Q : StringToken → Prop) : Part → Prop
  | .value d => P d
  | .items ds => ∀ d ∈ ds, P d
  | .members ms => ∀ m ∈ ms, Q m.1 ∧ P m.2

/-- **What literals, arrays and objects have from their parts** holds of all that is read. -/
theorem Reads.all (h : Reads p s rest) (hliteral : ∀ pieces, Q (.ofPieces pieces))
    (hnull : P .null) (hbool : ∀ b, P (.bool b)) (hnumber : ∀ value?, P (.number value?))
    (hstring : ∀ token, Q token → P (.string token))
    (harray : ∀ ds, (∀ d ∈ ds, P d) → P (.array ds))
    (hobject : ∀ ms : List (StringToken × Document), (∀ m ∈ ms, Q m.1 ∧ P m.2) → P (.object ms)) :
    p.All P Q := by
  induction h with
  | word hword =>
    simp only [words, List.mem_cons, Prod.mk.injEq, List.not_mem_nil, or_false] at hword
    rcases hword with ⟨-, -, rfl⟩ | ⟨-, -, rfl⟩ | ⟨-, -, rfl⟩
    · exact hnull
    · exact hbool true
    · exact hbool false
  | string => exact hstring _ (hliteral _)
  | number => exact hnumber _
  | noItems => exact harray [] nofun
  | array _ _ _ ih => exact harray _ ih
  | noMembers => exact hobject [] nofun
  | object _ _ _ ih => exact hobject _ ih
  | lastItem _ _ ih => exact List.forall_mem_singleton.mpr ih
  | item _ _ _ ih ih' => exact List.forall_mem_cons.mpr ⟨ih, ih'⟩
  | lastMember _ _ _ _ _ ih => exact List.forall_mem_singleton.mpr ⟨hliteral _, ih⟩
  | member _ _ _ _ _ _ ih ih' => exact List.forall_mem_cons.mpr ⟨⟨hliteral _, ih⟩, ih'⟩

end All

/-- **What is read to its end has no break in it.** -/
theorem Reads.complete {d : Document} {s rest : List Symbol} (h : Reads (.value d) s rest) :
    d.complete = true := by
  refine h.all (P := fun d => d.complete = true) (Q := fun _ => True) (fun _ => trivial) rfl
    (fun _ => rfl) (fun _ => rfl) (fun _ _ => rfl) (fun ds hds => ?_) fun ms hms => ?_
  · rw [Document.complete, completeItems_eq_all]
    simpa using hds
  · rw [Document.complete, completeMembers_eq_all]
    simpa using hms

/-- Units that are characters were text. -/
theorem all_isText_of_text? {pieces : List Piece} {cs : List Char}
    (h : Piece.text? pieces = some cs) :
    (pieces.all fun | .plain s => s.isSome | .escaped _ => true) = true := by
  induction pieces using Piece.text?.induct generalizing cs with
  | case1 => rfl
  | case2 rest => cases h
  | case3 c rest ih =>
    obtain ⟨later, hlater, -⟩ := Option.map_eq_some_iff.mp h
    exact ih hlater
  | case4 high low rest hhigh hlow ih =>
    rw [Piece.text?, if_pos hhigh, if_pos hlow] at h
    obtain ⟨later, hlater, -⟩ := Option.map_eq_some_iff.mp h
    exact ih hlater
  | case5 high low rest hhigh hlow =>
    rw [Piece.text?, if_pos hhigh, if_neg hlow] at h
    cases h
  | case6 high low rest hhigh hlow =>
    rw [Piece.text?, if_neg hhigh, if_pos hlow] at h
    cases h
  | case7 high low rest hhigh hlow ih =>
    rw [Piece.text?, if_neg hhigh, if_neg hlow] at h
    obtain ⟨later, hlater, -⟩ := Option.map_eq_some_iff.mp h
    exact ih hlater
  | case8 unit rest hnext hunit =>
    rw [Piece.text?, if_pos hunit] at h
    · cases h
    · exact hnext
  | case9 unit rest hnext hunit ih =>
    rw [Piece.text?, if_neg hunit] at h
    · obtain ⟨later, hlater, -⟩ := Option.map_eq_some_iff.mp h
      exact ih hlater
    · exact hnext

/-- A literal that is a text is text in all its bytes. -/
theorem decodable_of_text? {pieces : List Piece} {text : String}
    (h : (StringToken.ofPieces pieces).text? = some text) :
    (StringToken.ofPieces pieces).decodable = true := by
  obtain ⟨cs, hcs, -⟩ := Option.map_eq_some_iff.mp h
  exact all_isText_of_text? hcs

/-- What is related to something one by one has something for each item. -/
theorem exists_of_forall₂ {α β : Type} {R : α → β → Prop} {as : List α} {bs : List β}
    (h : List.Forall₂ R as bs) : ∀ a ∈ as, ∃ b, R a b := by
  induction h with
  | nil => nofun
  | cons hab _ ih => exact List.forall_mem_cons.mpr ⟨⟨_, hab⟩, ih⟩

/-- Items are text in all their bytes if each of them is. -/
theorem decodableItems_iff {ds : List Document} :
    decodableItems ds = true ↔ ∀ d ∈ ds, d.decodable = true := by
  induction ds with
  | nil => simp [decodableItems]
  | cons d ds ih => simp [decodableItems, ih]

/-- So are members. -/
theorem decodableMembers_iff {ms : List (StringToken × Document)} :
    decodableMembers ms = true ↔ ∀ m ∈ ms, m.1.decodable = true ∧ m.2.decodable = true := by
  induction ms with
  | nil => simp [decodableMembers]
  | cons m ms ih => simp [decodableMembers, ih]

/-- **What is read and has a value is text in all its bytes.** -/
theorem Reads.decodable {d : Document} {s rest : List Symbol} (h : Reads (.value d) s rest)
    {depth : Nat} {j : Json} (hj : d.toJson? depth = some j) : d.decodable = true := by
  have hall := h.all (P := fun d => ∀ depth j, d.toJson? depth = some j → d.decodable = true)
    (Q := fun token => ∀ text, token.text? = some text → token.decodable = true)
    (fun pieces text => decodable_of_text?) (fun _ _ _ => rfl) (fun _ _ _ _ => rfl)
    (fun _ _ _ _ => rfl) (fun token htoken depth j hj => ?_) (fun ds hds depth j hj => ?_)
    fun ms hms depth j hj => ?_
  · exact hall depth j hj
  · obtain ⟨text, htext, -⟩ := Option.map_eq_some_iff.mp hj
    exact htoken text htext
  · rw [toJson?] at hj
    split at hj
    · cases hj
    · obtain ⟨js, hjs, -⟩ := Option.map_eq_some_iff.mp hj
      refine decodableItems_iff.mpr fun d hd => ?_
      obtain ⟨j, hj⟩ := exists_of_forall₂ (forall₂_of_toItems? hjs) d hd
      exact hds d hd _ j hj
  · rw [toJson?] at hj
    split at hj
    · cases hj
    · obtain ⟨js, hjs, -⟩ := Option.map_eq_some_iff.mp hj
      refine decodableMembers_iff.mpr fun m hm => ?_
      obtain ⟨⟨name, j⟩, hname, hj⟩ := exists_of_forall₂ (forall₂_of_toMembers? hjs) m hm
      exact ⟨(hms m hm).1 name hname, (hms m hm).2 _ j hj⟩

/-! ## The text of a member -/

/-- A value has a text of its own at the front. -/
theorem Reads.exists_text {d : Document} {s rest : List Symbol} (h : Reads (.value d) s rest) :
    ∃ t, t <+: s ∧ ofSymbols t = (d, true) := by
  obtain ⟨t, -, hs, ht⟩ := h.cut
  have hread := ht [] List.nil_prefix
  rw [List.append_nil] at hread
  exact ⟨t, ⟨rest, hs.symm⟩, ofSymbols_eq_true_iff.mpr ⟨[], hread, rfl⟩⟩

/-- So has the value of a member, behind the colon. -/
theorem Reads.exists_text_after {d : Document} {s colon value rest : List Symbol}
    (h : Reads (.value d) value rest) (hcolon : skipBlanks colon = some ':' :: value)
    (hs : colon <:+ s) : ∃ t, some ':' :: t <:+: s ∧ ofSymbols t = (d, true) := by
  obtain ⟨t, ht, hread⟩ := h.exists_text
  have hfront : some ':' :: t <+: some ':' :: value := List.cons_prefix_cons.mpr ⟨rfl, ht⟩
  have hend : some ':' :: value <:+ s := hcolon ▸ (skipBlanks_suffix colon).trans hs
  exact ⟨t, hfront.isInfix.trans hend.isInfix, hread⟩

/-- Each of the members has one. -/
theorem Reads.exists_text_of_mem {ms : List (StringToken × Document)} {s rest : List Symbol}
    (h : Reads (.members ms) s rest) :
    ∀ m ∈ ms, ∃ t, some ':' :: t <:+: s ∧ ofSymbols t = (m.2, true) := by
  generalize hp : Part.members ms = p at h
  induction h generalizing ms with
  | word | string | number | noItems | array | noMembers | object | lastItem | item => cases hp
  | lastMember hs hname hcolon hvalue hclose =>
    cases hp
    have hafter := (cuts_pieces?.cutAt rfl hname).suffix.trans (cutAt_symbol hs).suffix
    exact List.forall_mem_singleton.mpr (hvalue.exists_text_after hcolon hafter)
  | member hs hname hcolon hvalue hcomma hmembers _ ih =>
    cases hp
    have hafter := (cuts_pieces?.cutAt rfl hname).suffix.trans (cutAt_symbol hs).suffix
    have hmore := (cutAt_symbol hcomma).suffix.trans (hvalue.cut.suffix.trans
      ((cutAt_symbol hcolon).suffix.trans hafter))
    refine List.forall_mem_cons.mpr ⟨hvalue.exists_text_after hcolon hafter, fun m hm => ?_⟩
    obtain ⟨t, ht, hread⟩ := ih rfl m hm
    exact ⟨t, ht.trans hmore.isInfix, hread⟩

/-- **The value of each member of an object is what its own text says**, which stands behind a
colon. -/
theorem exists_text_of_member {s : List Symbol} {ms : List (StringToken × Document)}
    (h : ofSymbols s = (.object ms, true)) :
    ∀ m ∈ ms, ∃ t, some ':' :: t <:+: s ∧ ofSymbols t = (m.2, true) := by
  obtain ⟨rest, hreads, -⟩ := ofSymbols_eq_true_iff.mp h
  cases hreads with
  | word hword => simp [words] at hword
  | noMembers => nofun
  | object hs hopen hmembers =>
    intro m hm
    obtain ⟨t, ht, hread⟩ := hmembers.exists_text_of_mem m hm
    have hskip := (skipBlanks_suffix _).trans (cutAt_symbol hs).suffix
    exact ⟨t, ht.trans hskip.isInfix, hread⟩

end Document

end EthClient
