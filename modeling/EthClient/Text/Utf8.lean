/-! # UTF-8 read symbol by symbol

Bytes that come from a network need not be text. They are read here as a list of **symbols**: a
character each, or `none` for a maximal run of bytes that begins a character and does not complete
it (or cannot begin one). One pass serves three readers:

* `Utf8.decode?` accepts a byte string only if every symbol is a character;
* `Utf8.lossy` always answers, with U+FFFD in place of each run that is no character;
* the JSON reader works on the symbols, since a value that is skipped may hold any bytes.
-/

namespace EthClient

/-- A byte string. -/
abbrev Bytes := List UInt8

namespace Text

/-- A character, or `none` for a maximal run of bytes that is no character. -/
abbrev Symbol := Option Char

namespace Utf8

/-- A character whose first bytes have been read. -/
structure Partial where
  /-- The bits read so far. -/
  bits : Nat
  /-- How many bytes are still owed after the next one. -/
  owed : Nat
  /-- The least value the next byte may have. -/
  low : UInt8
  /-- The greatest value the next byte may have. -/
  high : UInt8

/-- What a first byte opens: a whole character, a longer one, or nothing. -/
inductive Opening where
  | whole (c : Char)
  | longer (p : Partial)
  | nothing

/-- The well-formed first bytes, with the bounds that the second byte keeps so that no code point
has two encodings and no surrogate has one. -/
def opening (b : UInt8) : Opening :=
  if b < 0x80 then .whole (Char.ofNat b.toNat)
  else if b < 0xC2 then .nothing
  else if b < 0xE0 then .longer ⟨b.toNat % 32, 0, 0x80, 0xBF⟩
  else if b == 0xE0 then .longer ⟨0, 1, 0xA0, 0xBF⟩
  else if b == 0xED then .longer ⟨13, 1, 0x80, 0x9F⟩
  else if b < 0xF0 then .longer ⟨b.toNat % 16, 1, 0x80, 0xBF⟩
  else if b == 0xF0 then .longer ⟨0, 2, 0x90, 0xBF⟩
  else if b < 0xF4 then .longer ⟨b.toNat % 8, 2, 0x80, 0xBF⟩
  else if b == 0xF4 then .longer ⟨4, 2, 0x80, 0x8F⟩
  else .nothing

/-- Reads one byte between characters: the symbols it completes and what stays open. -/
def openWith (b : UInt8) : List Symbol × Option Partial :=
  match opening b with
  | .whole c => ([some c], none)
  | .longer p => ([], some p)
  | .nothing => ([none], none)

/-- Reads one byte. A byte that does not continue the open character ends its run and is read
again as a first byte. -/
def step : Option Partial → UInt8 → List Symbol × Option Partial
  | none, b => openWith b
  | some p, b =>
    if p.low ≤ b && b ≤ p.high then
      let bits := p.bits * 64 + b.toNat % 64
      match p.owed with
      | 0 => ([some (Char.ofNat bits)], none)
      | n + 1 => ([], some ⟨bits, n, 0x80, 0xBF⟩)
    else
      let (read, rest) := openWith b
      (none :: read, rest)

/-- The symbols of the bytes that follow an open character. -/
def symbolsFrom : Option Partial → Bytes → List Symbol
  | none, [] => []
  | some _, [] => [none]
  | p, b :: rest =>
    let (read, p') := step p b
    read ++ symbolsFrom p' rest

/-- The symbols of a byte string. -/
def symbols (bytes : Bytes) : List Symbol := symbolsFrom none bytes

/-- The text of a byte string, if all of it is text. -/
def decode? (bytes : Bytes) : Option String :=
  ((symbols bytes).mapM id).map String.ofList

/-- The text of a byte string, with U+FFFD for every run that is no character. -/
def lossy (bytes : Bytes) : String :=
  String.ofList ((symbols bytes).map fun s => s.getD (Char.ofNat 0xFFFD))

/-- The bytes of a text. -/
def encode (s : String) : Bytes := s.toList.flatMap String.utf8EncodeChar

end Utf8

/-- The symbols of a text: one per character. -/
def symbols (s : String) : List Symbol := s.toList.map some

end Text

end EthClient
