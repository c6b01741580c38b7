import EthClient.Decode

/-! # Printed values are read back

A value is printed without blanks, and the reader of documents takes the text apart again. The
values here are **plain** (`Json.Plain`): no string in them has to be escaped and there are no
numbers, so each part shows by itself where it ends, and anything may follow it.

* **`Json.pieces?_verbatim`**: a string literal ends at its quote;
* **`Json.Plain.reads`**: of a plain value with anything behind it the document is read, and what
  is behind it is left;
* **`Json.Plain.ofSymbols_render`**, **`Json.Plain.runText_render`**: a whole text is read as the
  document of its value, so a decoder makes the same of both. -/

namespace EthClient

open Text (Symbol)

namespace Json

/-! ## Strings without escapes -/

/-- Every character of the text stands for itself between quotes. -/
def Verbatim (s : String) : Prop := ∀ c ∈ s.toList, escape c = [c]

/-- Which is looked up character by character. -/
theorem verbatim_of_all {s : String} (h : s.toList.all (fun c => escape c == [c]) = true) :
    Verbatim s :=
  fun c hc => beq_iff_eq.mp (List.all_eq_true.mp h c hc)

/-- A character that stands for itself is no quote, no backslash and no control character. -/
theorem ne_of_escape {c : Char} (h : escape c = [c]) : c ≠ '"' ∧ c ≠ '\\' ∧ ¬ c.toNat < 32 := by
  refine ⟨?_, ?_, fun hc => ?_⟩
  · rintro rfl
    simp [escape] at h
  · rintro rfl
    simp [escape] at h
  · -- every control character has a form of at least two characters
    unfold escape at h
    split at h
    all_goals try simp_all
    split at h
    · simp at h
    · split at h <;> simp at h

/-- The units of a literal begin with such a character. -/
theorem pieces?_cons {c : Char} (h : escape c = [c]) (rest : List Symbol) :
    pieces? (some c :: rest) = (pieces? rest).map fun p => (.plain (some c) :: p.1, p.2) := by
  obtain ⟨hquote, hslash, hcontrol⟩ := ne_of_escape h
  rw [pieces?]
  · simp [hcontrol]
  · simpa using hquote
  all_goals simp [hslash]

/-- **A literal without escapes is read up to its quote**, one unit for each character. -/
theorem pieces?_verbatim {cs : List Char} (h : ∀ c ∈ cs, escape c = [c]) (rest : List Symbol) :
    pieces? (cs.map some ++ some '"' :: rest) = some (cs.map fun c => .plain (some c), rest) := by
  induction cs with
  | nil => rfl
  | cons c cs ih =>
    have hrest := ih fun d hd => h d (List.mem_cons_of_mem _ hd)
    rw [List.map_cons, List.cons_append, pieces?_cons (h c (List.mem_cons_self ..)), hrest]
    rfl

/-- Units that stand for themselves spell their characters. -/
theorem text?_plain (cs : List Char) :
    Piece.text? (cs.map fun c => .plain (some c)) = some cs := by
  induction cs with
  | nil => rfl
  | cons c cs ih => simp [Piece.text?, ih]

/-- They make the literal of the text that they spell. -/
theorem ofPieces_plain (s : String) :
    StringToken.ofPieces (s.toList.map fun c => .plain (some c)) = .ofText s := by
  rw [StringToken.ofPieces, text?_plain]
  simp [StringToken.ofText]

/-- What is printed between quotes is the text itself. -/
theorem Verbatim.quote_eq {s : String} (h : Verbatim s) : quote s = '"' :: s.toList ++ ['"'] := by
  have hflat : ∀ cs : List Char, (∀ c ∈ cs, escape c = [c]) → cs.flatMap escape = cs := by
    intro cs hcs
    induction cs with
    | nil => rfl
    | cons c cs ih =>
      rw [List.flatMap_cons, hcs c (List.mem_cons_self ..),
        ih fun d hd => hcs d (List.mem_cons_of_mem _ hd)]
      rfl
  rw [quote, hflat s.toList h]

/-- **A printed string is read** behind its opening quote. -/
theorem Verbatim.pieces?_quote {s : String} (h : Verbatim s) (rest : List Symbol) :
    ∃ pieces, pieces? ((s.toList ++ ['"']).map some ++ rest) = some (pieces, rest) ∧
      StringToken.ofPieces pieces = .ofText s := by
  refine ⟨_, ?_, ofPieces_plain s⟩
  have htail : (s.toList ++ ['"']).map some ++ rest = s.toList.map some ++ some '"' :: rest := by
    simp
  rw [htail]
  exact pieces?_verbatim h rest

/-! ## Plain values -/

/-- The value has no numbers, and none of its strings and keys has to be escaped. -/
inductive Plain : Json → Prop where
  | null : Plain .null
  | bool (b : Bool) : Plain (.bool b)
  | string {s : String} (h : Verbatim s) : Plain (.string s)
  | array {items : List Json} (h : ∀ j ∈ items, Plain j) : Plain (.array items)
  | object {ms : List (String × Json)} (hkeys : ∀ m ∈ ms, Verbatim m.1)
      (h : ∀ m ∈ ms, Plain m.2) : Plain (.object ms)

/-- With anything behind its text the value is read as its document, and what is behind is left. A
step is needed for every value, item and member, and two symbols pay for each of them. -/
def Reads (j : Json) : Prop :=
  ∀ (fuel : Nat) (rest : List Symbol), 2 * (chars j).length ≤ fuel →
    Document.value fuel ((chars j).map some ++ rest) = (.ofJson j, some rest)

/-- A plain value begins with a character that is no blank and closes nothing. -/
theorem Plain.exists_chars_eq_cons {j : Json} (h : Plain j) :
    ∃ c cs, chars j = c :: cs ∧ Hex.isBlank c = false ∧ c ≠ ']' := by
  cases h with
  | null => exact ⟨_, _, rfl, by decide, by decide⟩
  | bool b => cases b <;> exact ⟨_, _, rfl, by decide, by decide⟩
  | string h => exact ⟨_, _, rfl, by decide, by decide⟩
  | @array items h => cases items <;> exact ⟨_, _, rfl, by decide, by decide⟩
  | @object ms hkeys h =>
    cases ms with
    | nil => exact ⟨_, _, rfl, by decide, by decide⟩
    | cons m ms => exact ⟨_, _, rfl, by decide, by decide⟩

end Json

namespace Document

open Json

/-- No blank is dropped in front of another character. -/
theorem skipBlanks_cons {c : Char} (h : Hex.isBlank c = false) (s : List Symbol) :
    skipBlanks (some c :: s) = some c :: s := by
  rw [skipBlanks, h]
  rfl

/-- A word is read off the text that it begins. -/
theorem word_append (meaning : Document) (letters : List Char) (rest : List Symbol) :
    word meaning letters (letters.map some ++ rest) = (meaning, some rest) := by
  have hfront : keyword? letters (letters.map some ++ rest) = some rest := by
    rw [keyword?, if_pos (List.prefix_append _ _)]
    simp
  rw [word, hfront]

/-- After an item and a comma more items are read. -/
theorem items_append_comma {item : Json} (h : Reads item) {fuel : Nat}
    (hfuel : 2 * (chars item).length ≤ fuel) {after rest : List Symbol}
    (hafter : skipBlanks after = some ',' :: rest) :
    items (fuel + 1) ((chars item).map some ++ after)
      = (.ofJson item :: (items fuel rest).1, (items fuel rest).2) := by
  rw [items, h fuel after hfuel]
  simp only [hafter]

/-- After an item and a bracket none is. -/
theorem items_append_bracket {item : Json} (h : Reads item) {fuel : Nat}
    (hfuel : 2 * (chars item).length ≤ fuel) {after rest : List Symbol}
    (hafter : skipBlanks after = some ']' :: rest) :
    items (fuel + 1) ((chars item).map some ++ after) = ([.ofJson item], some rest) := by
  rw [items, h fuel after hfuel]
  simp only [hafter]

/-- **The items of an array are read** up to the bracket, if each of them is. -/
theorem items_chars {item : Json} {more : List Json} (h : ∀ j ∈ item :: more, Reads j)
    {fuel : Nat} (hfuel : 2 * (chars item ++ itemChars more).length < fuel) (rest : List Symbol) :
    items fuel ((chars item ++ itemChars more).map some ++ some ']' :: rest)
      = (ofItems (item :: more), some rest) := by
  induction more generalizing item fuel with
  | nil =>
    obtain ⟨fuel, rfl⟩ := Nat.exists_eq_add_one_of_ne_zero (Nat.ne_zero_of_lt hfuel)
    simp only [itemChars, List.append_nil] at hfuel ⊢
    exact items_append_bracket (h item (List.mem_cons_self ..)) (by omega) rfl
  | cons next more ih =>
    obtain ⟨fuel, rfl⟩ := Nat.exists_eq_add_one_of_ne_zero (Nat.ne_zero_of_lt hfuel)
    simp only [itemChars, List.length_append, List.length_cons] at hfuel
    have hshort : 2 * (chars next ++ itemChars more).length < fuel := by
      rw [List.length_append]
      omega
    have hmore := ih (fun j hj => h j (List.mem_cons_of_mem _ hj)) hshort
    -- behind the comma the next item begins
    have hcomma : skipBlanks ((itemChars (next :: more)).map some ++ some ']' :: rest)
        = some ',' :: ((chars next ++ itemChars more).map some ++ some ']' :: rest) :=
      rfl
    rw [List.map_append, List.append_assoc,
      items_append_comma (h item (List.mem_cons_self ..)) (by omega) hcomma, hmore]
    rfl

/-- A member is read up to what follows its value. -/
theorem members_append {key : String} {value : Json} (hkey : Verbatim key) (h : Reads value)
    {fuel : Nat} (hfuel : 2 * (chars value).length ≤ fuel) {after rest : List Symbol} {c : Char}
    (hafter : skipBlanks after = some c :: rest) :
    (c = ',' → members (fuel + 1) ((quote key ++ ':' :: chars value).map some ++ after)
      = ((.ofText key, .ofJson value) :: (members fuel rest).1, (members fuel rest).2)) ∧
    (c = '}' → members (fuel + 1) ((quote key ++ ':' :: chars value).map some ++ after)
      = ([(.ofText key, .ofJson value)], some rest)) := by
  obtain ⟨pieces, hpieces, htoken⟩ :=
    hkey.pieces?_quote (some ':' :: ((chars value).map some ++ after))
  have hkeyed : (quote key ++ ':' :: chars value).map some ++ after
      = some '"' :: ((key.toList ++ ['"']).map some ++
        some ':' :: ((chars value).map some ++ after)) := by
    rw [hkey.quote_eq]
    simp
  have hcolon : skipBlanks (some ':' :: ((chars value).map some ++ after))
      = some ':' :: ((chars value).map some ++ after) := rfl
  rw [hkeyed, members, skipBlanks_cons (by decide)]
  simp only [hpieces, hcolon, h fuel after hfuel, hafter, htoken]
  constructor
  · rintro rfl
    rfl
  · rintro rfl
    rfl

/-- **The members of an object are read** up to the brace, if each of their values is. -/
theorem members_chars {key : String} {value : Json} {more : List (String × Json)}
    (hkeys : ∀ m ∈ (key, value) :: more, Verbatim m.1)
    (h : ∀ m ∈ (key, value) :: more, Reads m.2) {fuel : Nat}
    (hfuel : 2 * (quote key ++ ':' :: chars value ++ memberChars more).length < fuel)
    (rest : List Symbol) :
    members fuel
        ((quote key ++ ':' :: chars value ++ memberChars more).map some ++ some '}' :: rest)
      = (ofMembers ((key, value) :: more), some rest) := by
  induction more generalizing key value fuel with
  | nil =>
    obtain ⟨fuel, rfl⟩ := Nat.exists_eq_add_one_of_ne_zero (Nat.ne_zero_of_lt hfuel)
    simp only [memberChars, List.append_nil] at hfuel ⊢
    simp only [List.length_append, List.length_cons] at hfuel
    have hkey : Verbatim key := hkeys (key, value) (List.mem_cons_self ..)
    have hvalue : Reads value := h (key, value) (List.mem_cons_self ..)
    exact (members_append hkey hvalue (by omega) rfl).2 rfl
  | cons next more ih =>
    obtain ⟨key', value'⟩ := next
    obtain ⟨fuel, rfl⟩ := Nat.exists_eq_add_one_of_ne_zero (Nat.ne_zero_of_lt hfuel)
    simp only [memberChars, List.length_append, List.length_cons] at hfuel
    have hshort : 2 * (quote key' ++ ':' :: chars value' ++ memberChars more).length < fuel := by
      simp only [List.length_append, List.length_cons]
      omega
    have hmore := ih (fun m hm => hkeys m (List.mem_cons_of_mem _ hm))
      (fun m hm => h m (List.mem_cons_of_mem _ hm)) hshort
    have hcomma : skipBlanks ((memberChars ((key', value') :: more)).map some ++ some '}' :: rest)
        = some ',' :: ((quote key' ++ ':' :: chars value' ++ memberChars more).map some
          ++ some '}' :: rest) := by
      simp [memberChars, skipBlanks, Hex.isBlank]
    have hkey : Verbatim key := hkeys (key, value) (List.mem_cons_self ..)
    have hvalue : Reads value := h (key, value) (List.mem_cons_self ..)
    have hlength : 2 * (chars value).length ≤ fuel := by omega
    have hfirst := members_append hkey hvalue hlength hcomma
    rw [List.map_append, List.append_assoc, hfirst.1 rfl, hmore]
    rfl

/-- An array that is not closed at once has items. -/
theorem value_bracket {c : Char} (hblank : Hex.isBlank c = false) (hclose : c ≠ ']') (fuel : Nat)
    (s : List Symbol) :
    value (fuel + 1) (some '[' :: some c :: s)
      = (.array (items fuel (some c :: s)).1, (items fuel (some c :: s)).2) := by
  rw [value, skipBlanks_cons (by decide)]
  simp only [skipBlanks_cons hblank]
  split
  · rename_i heq
    simp_all
  · rfl

/-! ## Values of documents -/

/-- An array of values is one level deeper than its items. -/
theorem toJson?_ofJson_array {depth : Nat} {js : List Json}
    (h : ∀ j ∈ js, (ofJson j).toJson? depth = some j) :
    (ofJson (.array js)).toJson? (depth + 1) = some (.array js) := by
  have hitems : toItems? depth (ofItems js) = some js := by
    induction js with
    | nil => rfl
    | cons j js ih =>
      rw [ofItems, toItems?, h j (List.mem_cons_self ..),
        ih fun k hk => h k (List.mem_cons_of_mem _ hk)]
      rfl
  rw [ofJson, toJson?, if_neg (by simp), Nat.add_sub_cancel, hitems]
  rfl

/-- So is an object, the members of which are put in order. -/
theorem toJson?_ofJson_object {depth : Nat} {ms : List (String × Json)}
    (h : ∀ m ∈ ms, (ofJson m.2).toJson? depth = some m.2) :
    (ofJson (.object ms)).toJson? (depth + 1) = some (Json.ofMembers ms) := by
  have hmembers : toMembers? depth (ofMembers ms) = some ms := by
    induction ms with
    | nil => rfl
    | cons m ms ih =>
      have hm : (ofJson m.2).toJson? depth = some m.2 := h m (List.mem_cons_self ..)
      rw [ofMembers, toMembers?, hm, ih fun k hk => h k (List.mem_cons_of_mem _ hk)]
      rfl
  rw [ofJson, toJson?, if_neg (by simp), Nat.add_sub_cancel, hmembers]
  rfl

end Document

namespace Json

/-- The text of a plain value is not empty, which pays for the first step. -/
theorem Plain.reads_of_succ {j : Json} (h : Plain j)
    (hread : ∀ fuel rest, 2 * (chars j).length ≤ fuel + 1 →
      Document.value (fuel + 1) ((chars j).map some ++ rest) = (.ofJson j, some rest)) :
    Reads j := by
  intro fuel rest hfuel
  obtain ⟨c, cs, hchars, -⟩ := h.exists_chars_eq_cons
  have hpos : fuel ≠ 0 := by
    rw [hchars, List.length_cons] at hfuel
    omega
  obtain ⟨fuel, rfl⟩ := Nat.exists_eq_add_one_of_ne_zero hpos
  exact hread fuel rest hfuel

/-- **A plain value is read** from its text, whatever follows it. -/
theorem Plain.reads {j : Json} (h : Plain j) : Reads j := by
  induction h with
  | null =>
    exact reads_of_succ .null fun _ rest _ =>
      Document.word_append .null ['u', 'l', 'l'] rest
  | bool b =>
    refine reads_of_succ (.bool b) fun fuel rest _ => ?_
    cases b with
    | true => exact Document.word_append (.bool true) ['r', 'u', 'e'] rest
    | false => exact Document.word_append (.bool false) ['a', 'l', 's', 'e'] rest
  | @string s hs =>
    refine reads_of_succ (.string hs) fun fuel rest _ => ?_
    obtain ⟨pieces, hpieces, htoken⟩ := hs.pieces?_quote rest
    have htext : (chars (.string s)).map some ++ rest
        = some '"' :: ((s.toList ++ ['"']).map some ++ rest) := by
      rw [chars, hs.quote_eq]
      rfl
    rw [htext, Document.value, Document.skipBlanks_cons (by decide)]
    simp only [hpieces, htoken]
    rfl
  | @array items h ih =>
    refine reads_of_succ (.array h) fun fuel rest hfuel => ?_
    cases items with
    | nil => rfl
    | cons item more =>
      -- the first item decides that the array is not closed at once
      obtain ⟨c, cs, hchars, hblank, hclose⟩ :=
        (h item (List.mem_cons_self ..)).exists_chars_eq_cons
      have htext : (chars (.array (item :: more))).map some ++ rest
          = some '[' :: ((chars item ++ itemChars more).map some ++ some ']' :: rest) := by
        simp [chars]
      simp only [chars, List.length_append, List.length_cons] at hfuel
      have hshort : 2 * (chars item ++ itemChars more).length < fuel := by
        rw [List.length_append]
        omega
      have hitems := Document.items_chars ih hshort rest
      rw [htext]
      rw [hchars] at hitems ⊢
      rw [List.cons_append, List.map_cons, List.cons_append] at hitems ⊢
      rw [Document.value_bracket hblank hclose, hitems]
      rfl
  | @object ms hkeys h ih =>
    refine reads_of_succ (.object hkeys h) fun fuel rest hfuel => ?_
    cases ms with
    | nil => rfl
    | cons m more =>
      obtain ⟨key, value⟩ := m
      have htext : (chars (.object ((key, value) :: more))).map some ++ rest
          = some '{' :: ((quote key ++ ':' :: chars value ++ memberChars more).map some
            ++ some '}' :: rest) := by
        simp [chars]
      simp only [chars, List.length_append, List.length_cons] at hfuel
      have hshort : 2 * (quote key ++ ':' :: chars value ++ memberChars more).length < fuel := by
        simp only [List.length_append, List.length_cons]
        omega
      have hmembers := Document.members_chars hkeys ih hshort rest
      -- a key opens with its quote, so the object is not closed at once
      have hobject : ∀ after, Document.value (fuel + 1)
            (some '{' :: ((quote key ++ ':' :: chars value ++ memberChars more).map some ++ after))
          = (.object (Document.members fuel ((quote key ++ ':' :: chars value
              ++ memberChars more).map some ++ after)).1,
            (Document.members fuel ((quote key ++ ':' :: chars value
              ++ memberChars more).map some ++ after)).2) := fun _ => rfl
      rw [htext, hobject, hmembers]
      rfl

/-- **A printed plain value is read as its document**, to the end of the text. -/
theorem Plain.ofSymbols_render {j : Json} (h : Plain j) :
    Document.ofSymbols (Text.symbols j.render) = (.ofJson j, true) := by
  have hread := h.reads (2 * (Text.symbols j.render).length + 2) []
  rw [render, Text.symbols, String.toList_ofList, List.append_nil, List.length_map] at hread
  rw [Document.ofSymbols, render, Text.symbols, String.toList_ofList, List.length_map,
    hread (by omega)]
  rfl

/-- The value of the text is the one that the document has. -/
theorem Plain.ofText?_render {j : Json} (h : Plain j) :
    Json.ofText? j.render = (Document.ofJson j).toJson? maxDepth := by
  rw [Json.ofText?, Json.ofSymbols?, h.ofSymbols_render]

/-- **A decoder makes the same of the text as of the value.** -/
theorem Plain.runText_render {α : Type} {j : Json} (h : Plain j) (d : Decoder α) :
    d.runText j.render = d.runJson j := by
  rw [Decoder.runText, Decoder.runSymbols, h.ofSymbols_render, Decoder.runJson]
  dsimp only
  cases d (.ofJson j) <;> rfl

end Json

end EthClient
