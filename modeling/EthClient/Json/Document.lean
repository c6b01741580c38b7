import EthClient.Json.Literal

/-! # Documents

A `Document` is what a JSON text says, in the order in which it says it. Unlike a `Json` value it
keeps repeated members, the place where a text stops being JSON, and parts that are well formed but
have no value (numbers that are too large, unpaired surrogates, bytes that are no text). A reader
that passes over a part asks only that it is `complete`; a reader that wants a value calls
`toJson?`.

Reading in document order is what decides which of two faults is reported: what stands before the
place where the text breaks is still there to be looked at.

* `Document.ofSymbols` reads a text and says whether anything but blanks follows the value;
* `Document.toJson?` builds a value, at most `depth` arrays and objects deep;
* `Document.ofJson` is the document of a value, members in ascending order of their keys. -/

namespace EthClient

open Text (Symbol)

namespace Json

/-! ## Strings -/

/-- One unit of a string literal: a symbol that stands for itself, or the code unit of an escape. -/
inductive Piece where
  | plain (s : Symbol)
  | escaped (unit : Nat)

/-- A string literal. -/
structure StringToken where
  /-- The text, unless the literal holds an unpaired surrogate or bytes that are no text. -/
  text? : Option String
  /-- Whether the literal has no escape. -/
  verbatim : Bool
  /-- Whether all its bytes are text. -/
  decodable : Bool

/-- The characters of the units of a literal: two escapes that are a surrogate pair make one. -/
def Piece.text? : List Piece → Option (List Char)
  | [] => some []
  | .plain none :: _ => none
  | .plain (some c) :: rest => (Piece.text? rest).map (c :: ·)
  | .escaped high :: .escaped low :: rest =>
    if 0xD800 ≤ high && high < 0xDC00 then
      if 0xDC00 ≤ low && low < 0xE000 then
        let c := Char.ofNat (0x10000 + (high - 0xD800) * 0x400 + (low - 0xDC00))
        (Piece.text? rest).map (c :: ·)
      else none
    else if 0xDC00 ≤ high && high < 0xE000 then none
    else (Piece.text? (.escaped low :: rest)).map (Char.ofNat high :: ·)
  | .escaped unit :: rest =>
    if 0xD800 ≤ unit && unit < 0xE000 then none
    else (Piece.text? rest).map (Char.ofNat unit :: ·)

/-- The literal that some units make. -/
def StringToken.ofPieces (pieces : List Piece) : StringToken where
  text? := (Piece.text? pieces).map String.ofList
  verbatim := pieces.all fun | .plain _ => true | .escaped _ => false
  decodable := pieces.all fun | .plain s => s.isSome | .escaped _ => true

/-- The literal of a text, which has no need of escapes. -/
def StringToken.ofText (s : String) : StringToken := ⟨some s, true, true⟩

/-- The code unit of a one-letter escape. -/
def shortEscape? : Char → Option Nat
  | '"' => some 34
  | '\\' => some 92
  | '/' => some 47
  | 'b' => some 8
  | 'f' => some 12
  | 'n' => some 10
  | 'r' => some 13
  | 't' => some 9
  | _ => none

/-- The code unit that four hexadecimal digits spell. -/
def unit? (a b c d : Char) : Option Nat := do
  let a ← Hex.value? a
  let b ← Hex.value? b
  let c ← Hex.value? c
  let d ← Hex.value? d
  return ((a * 16 + b) * 16 + c) * 16 + d

/-- Reads a string literal after its opening quote: its units, and what follows the closing
quote. -/
def pieces? : List Symbol → Option (List Piece × List Symbol)
  | [] => none
  | some '"' :: rest => some ([], rest)
  | some '\\' :: some 'u' :: some a :: some b :: some c :: some d :: rest => do
    let unit ← unit? a b c d
    let (pieces, rest) ← pieces? rest
    return (.escaped unit :: pieces, rest)
  | some '\\' :: some c :: rest => do
    let unit ← shortEscape? c
    let (pieces, rest) ← pieces? rest
    return (.escaped unit :: pieces, rest)
  | some '\\' :: _ => none
  | s :: rest =>
    if s.any fun c => c.toNat < 32 then none
    else (pieces? rest).map fun (pieces, rest) => (.plain s :: pieces, rest)

/-! ## Numbers -/

/-- The value of a decimal digit. -/
def decimal? : Symbol → Option Nat
  | some c => if '0' ≤ c && c ≤ '9' then some (c.toNat - 48) else none
  | none => none

/-- The digits at the front of a text, and the rest. -/
def digits : List Symbol → List Nat × List Symbol
  | [] => ([], [])
  | s :: rest =>
    match decimal? s with
    | some d => let (ds, after) := digits rest; (d :: ds, after)
    | none => ([], s :: rest)

/-- The digits before the point: one zero, or digits that do not begin with zero. -/
def wholePart? (s : List Symbol) : Option (List Nat × List Symbol) :=
  match digits s with
  | ([], _) => none
  | (0 :: _ :: _, _) => none
  | (ds, rest) => some (ds, rest)

/-- The digits after the point, if there is a point; at least one. -/
def fractionPart? : List Symbol → Option (List Nat × List Symbol)
  | some '.' :: rest =>
    match digits rest with
    | ([], _) => none
    | (ds, rest) => some (ds, rest)
  | s => some ([], s)

/-- The exponent, if there is one; at least one digit. -/
def exponentPart? : List Symbol → Option (Option Int × List Symbol)
  | some 'e' :: rest | some 'E' :: rest =>
    let (negative, rest) := match rest with
      | some '-' :: rest => (true, rest)
      | some '+' :: rest => (false, rest)
      | rest => (false, rest)
    match digits rest with
    | ([], _) => none
    | (ds, rest) =>
      let n : Int := Literal.ofDigits ds
      some (some (if negative then -n else n), rest)
  | s => some (none, s)

/-- Reads a number literal. -/
def literal? (s : List Symbol) : Option (Literal × List Symbol) := do
  let (negative, s) := match s with
    | some '-' :: rest => (true, rest)
    | s => (false, s)
  let (whole, s) ← wholePart? s
  let (fraction, s) ← fractionPart? s
  let (exponent, rest) ← exponentPart? s
  return (⟨negative, whole, fraction, exponent⟩, rest)

end Json

/-! ## Documents -/

/-- What a JSON text says. -/
inductive Document where
  | null
  | bool (b : Bool)
  /-- A number; `none` if it is too large for a value. -/
  | number (value? : Option Json.Number)
  | string (token : Json.StringToken)
  | array (items : List Document)
  | object (members : List (Json.StringToken × Document))
  /-- The place where the text stops being JSON. -/
  | broken
  deriving Inhabited

namespace Document

open Json

/-- Drops the blanks at the front. -/
def skipBlanks : List Symbol → List Symbol
  | some c :: rest => if Hex.isBlank c then skipBlanks rest else some c :: rest
  | s => s

/-- Drops a word at the front. -/
def keyword? (word : List Char) (s : List Symbol) : Option (List Symbol) :=
  if word.map some <+: s then some (s.drop word.length) else none

/-- What a word stands for, with the text after it. -/
def word (meaning : Document) (letters : List Char) (s : List Symbol) :
    Document × Option (List Symbol) :=
  match keyword? letters s with
  | some rest => (meaning, some rest)
  | none => (.broken, none)

/-- The token that stands for a key which could not be read. -/
def noKey : StringToken := ⟨none, true, true⟩

mutual

/-- Reads one value, blanks before it included: what it says, and the text after it unless the text
broke off. -/
def value : (fuel : Nat) → List Symbol → Document × Option (List Symbol)
  | 0, _ => (.broken, none)
  | fuel + 1, s =>
    match skipBlanks s with
    | some 'n' :: rest => word .null ['u', 'l', 'l'] rest
    | some 't' :: rest => word (.bool true) ['r', 'u', 'e'] rest
    | some 'f' :: rest => word (.bool false) ['a', 'l', 's', 'e'] rest
    | some '"' :: rest =>
      match pieces? rest with
      | some (pieces, rest) => (.string (.ofPieces pieces), some rest)
      | none => (.broken, none)
    | some '[' :: rest =>
      match skipBlanks rest with
      | some ']' :: rest => (.array [], some rest)
      | rest => let (found, rest) := items fuel rest; (.array found, rest)
    | some '{' :: rest =>
      match skipBlanks rest with
      | some '}' :: rest => (.object [], some rest)
      | rest => let (found, rest) := members fuel rest; (.object found, rest)
    | s =>
      match literal? s with
      | some (l, rest) => (.number l.number?, some rest)
      | none => (.broken, none)
termination_by structural fuel => fuel

/-- Reads the items of an array up to its closing bracket. -/
def items : (fuel : Nat) → List Symbol → List Document × Option (List Symbol)
  | 0, _ => ([.broken], none)
  | fuel + 1, s =>
    match value fuel s with
    | (item, none) => ([item], none)
    | (item, some rest) =>
      match skipBlanks rest with
      | some ',' :: rest => let (found, rest) := items fuel rest; (item :: found, rest)
      | some ']' :: rest => ([item], some rest)
      | _ => ([item, .broken], none)
termination_by structural fuel => fuel

/-- Reads the members of an object up to its closing brace. -/
def members : (fuel : Nat) → List Symbol → List (StringToken × Document) × Option (List Symbol)
  | 0, _ => ([(noKey, .broken)], none)
  | fuel + 1, s =>
    match skipBlanks s with
    | some '"' :: rest =>
      match pieces? rest with
      | none => ([(noKey, .broken)], none)
      | some (pieces, rest) =>
        let key := StringToken.ofPieces pieces
        match skipBlanks rest with
        | some ':' :: rest =>
          match value fuel rest with
          | (item, none) => ([(key, item)], none)
          | (item, some rest) =>
            match skipBlanks rest with
            | some ',' :: rest =>
              let (found, rest) := members fuel rest; ((key, item) :: found, rest)
            | some '}' :: rest => ([(key, item)], some rest)
            | _ => ([(key, item), (noKey, .broken)], none)
        | _ => ([(key, .broken)], none)
    | _ => ([(noKey, .broken)], none)
termination_by structural fuel => fuel

end

/-- Reads a text: what its value says, and whether only blanks follow it. Every two steps take at
least one symbol, so twice as many steps as there are symbols are enough. -/
def ofSymbols (s : List Symbol) : Document × Bool :=
  match value (2 * s.length + 2) s with
  | (d, some rest) => (d, (skipBlanks rest).isEmpty)
  | (d, none) => (d, false)

/-! ## Values -/

mutual

/-- Whether the text of this part is JSON to its end, so that a reader may pass over it. -/
def complete : Document → Bool
  | .broken => false
  | .array items => completeItems items
  | .object members => completeMembers members
  | _ => true
termination_by structural d => d

/-- Whether every item is complete. -/
def completeItems : List Document → Bool
  | [] => true
  | item :: items => complete item && completeItems items
termination_by structural items => items

/-- Whether every member is complete. -/
def completeMembers : List (StringToken × Document) → Bool
  | [] => true
  | (_, value) :: members => complete value && completeMembers members
termination_by structural members => members

end

mutual

/-- Whether all bytes of this part are text. -/
def decodable : Document → Bool
  | .string token => token.decodable
  | .array items => decodableItems items
  | .object members => decodableMembers members
  | _ => true
termination_by structural d => d

/-- Whether all bytes of every item are text. -/
def decodableItems : List Document → Bool
  | [] => true
  | item :: items => decodable item && decodableItems items
termination_by structural items => items

/-- Whether all bytes of every member are text. -/
def decodableMembers : List (StringToken × Document) → Bool
  | [] => true
  | (key, value) :: members => key.decodable && decodable value && decodableMembers members
termination_by structural members => members

end

mutual

/-- How many arrays and objects deep a document is. -/
def depth : Document → Nat
  | .array items => depthItems items + 1
  | .object members => depthMembers members + 1
  | _ => 0
termination_by structural d => d

/-- How deep the deepest item is. -/
def depthItems : List Document → Nat
  | [] => 0
  | item :: items => max (depth item) (depthItems items)
termination_by structural items => items

/-- How deep the deepest member is. -/
def depthMembers : List (StringToken × Document) → Nat
  | [] => 0
  | (_, value) :: members => max (depth value) (depthMembers members)
termination_by structural members => members

end

mutual

/-- The value of a document that is at most `depth` arrays and objects deep. Of members with the
same key the last one counts. -/
def toJson? (depth : Nat) : Document → Option Json
  | .null => some .null
  | .bool b => some (.bool b)
  | .number value? => value?.map .number
  | .string token => token.text?.map .string
  | .array items => if depth == 0 then none else (toItems? (depth - 1) items).map .array
  | .object members =>
    if depth == 0 then none else (toMembers? (depth - 1) members).map Json.ofMembers
  | .broken => none
termination_by structural d => d

/-- The values of some items. -/
def toItems? (depth : Nat) : List Document → Option (List Json)
  | [] => some []
  | item :: items => do return (← toJson? depth item) :: (← toItems? depth items)
termination_by structural items => items

/-- The values of some members, in document order. -/
def toMembers? (depth : Nat) : List (StringToken × Document) → Option (List (String × Json))
  | [] => some []
  | (key, value) :: members => do
    return (← key.text?, ← toJson? depth value) :: (← toMembers? depth members)
termination_by structural members => members

end

mutual

/-- The document of a value. -/
def ofJson : Json → Document
  | .null => .null
  | .bool b => .bool b
  | .number n => .number (some n)
  | .string s => .string (.ofText s)
  | .array items => .array (ofItems items)
  | .object members => .object (ofMembers members)
termination_by structural j => j

/-- The documents of some items. -/
def ofItems : List Json → List Document
  | [] => []
  | item :: items => ofJson item :: ofItems items
termination_by structural items => items

/-- The documents of some members. -/
def ofMembers : List (String × Json) → List (StringToken × Document)
  | [] => []
  | (key, value) :: members => (.ofText key, ofJson value) :: ofMembers members
termination_by structural members => members

end

end Document

/-- How many arrays and objects deep a value may be. -/
def Json.maxDepth : Nat := 127

/-- The value of a JSON text. -/
def Json.ofSymbols? (s : List Symbol) : Option Json :=
  match Document.ofSymbols s with
  | (d, true) => d.toJson? Json.maxDepth
  | (_, false) => none

/-- The value of a JSON text. -/
def Json.ofText? (s : String) : Option Json := Json.ofSymbols? (Text.symbols s)

end EthClient
