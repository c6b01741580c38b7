import EthClient.Json.Document
import EthClient.Text.Quoted
import EthClient.Word

/-! # Decoding documents into typed values

A `Decoder` looks at a document and gives a value or the first `Fault` it meets. Records are read in
document order, from an object (`Record.members`) or, field by field, from an array
(`Record.positional`); since a decoder never looks past the first fault, a fault of meaning that
stands before the place where a text breaks is the one that is reported.

Only faults that the client words itself carry a message; the others are `Fault.shape`. -/

namespace EthClient

/-- Why a document is not a value of some type. -/
inductive Fault where
  /-- The type tag of a transaction is none of the known ones. -/
  | unknownTransactionType (tag : Nat)
  /-- A response has both or neither of a result and an error. -/
  | resultAndError
  /-- A response names another protocol version. -/
  | version (found : String)
  /-- Another kind of value, a missing or repeated field, or text that is not JSON. -/
  | shape
  deriving DecidableEq

/-- The wording of a fault, for those that the client words itself. -/
def Fault.message? : Fault → Option String
  | .unknownTransactionType tag => some s!"unknown transaction type {tag}"
  | .resultAndError => some "response must carry exactly one of result and error"
  | .version found => some s!"invalid value: string {Text.quoted found}, expected 2.0"
  | .shape => none

/-- A way to look at a document as a value. -/
abbrev Decoder (α : Type) := Document → Except Fault α

/-- A value that may be absent, or the fault that it is. -/
def Fault.ofOption {α : Type} : Option α → Except Fault α
  | some a => .ok a
  | none => .error .shape

namespace Decoder

variable {α : Type}

/-- Any text. -/
def text : Decoder String
  | .string token => Fault.ofOption token.text?
  | _ => .error .shape

/-- A text without escapes. -/
def verbatimText : Decoder String
  | .string token => if token.verbatim then Fault.ofOption token.text? else .error .shape
  | _ => .error .shape

/-- A text with a meaning. -/
def ofText (read : String → Option α) : Decoder α := fun d => do Fault.ofOption (read (← text d))

/-- A truth value. -/
def bool : Decoder Bool
  | .bool b => .ok b
  | _ => .error .shape

/-- An integer within bounds. -/
def intWithin (low high : Int) : Decoder Int
  | .number (some (.integer i)) => if low ≤ i && i ≤ high then .ok i else .error .shape
  | _ => .error .shape

/-- An integer of 64 bits, one of them for its sign. -/
def int64 : Decoder Int := intWithin (-0x8000000000000000) 0x7FFFFFFFFFFFFFFF

/-- A natural number of 64 bits. -/
def nat64 : Decoder Nat := fun d => return (← intWithin 0 0xFFFFFFFFFFFFFFFF d).toNat

/-- A quantity of some width. -/
def quantity {bits : Nat} : Decoder (Quantity bits) := ofText Quantity.ofText?

/-- A byte string of some size. -/
def fixedBytes {size : Nat} : Decoder (FixedBytes size) := ofText FixedBytes.ofText?

/-- A byte string of any size. -/
def bytes : Decoder Bytes := ofText bytesOfText?

/-- A value or null. -/
def nullable (d : Decoder α) : Decoder (Option α)
  | .null => .ok none
  | doc => some <$> d doc

/-- A list. -/
def list (d : Decoder α) : Decoder (List α)
  | .array items => items.mapM d
  | _ => .error .shape

/-- Anything that is JSON to its end. -/
def skip : Decoder Unit := fun d => if d.complete then .ok () else .error .shape

/-- An untyped value, at most `depth` arrays and objects deep. -/
def json (depth : Nat) : Decoder Json := fun d => Fault.ofOption (d.toJson? depth)

/-- An untyped value, however deep it is. -/
def untyped : Decoder Json := fun d => json d.depth d

/-- Decodes a text: nothing but blanks may follow the value. -/
def runSymbols (d : Decoder α) (s : List Text.Symbol) : Except Fault α :=
  match Document.ofSymbols s with
  | (doc, clean) => do
    let value ← d doc
    if clean then .ok value else .error .shape

/-- Decodes a text: nothing but blanks may follow the value. -/
def runText (d : Decoder α) (s : String) : Except Fault α := d.runSymbols (Text.symbols s)

/-- Decodes a value. -/
def runJson (d : Decoder α) (j : Json) : Except Fault α := d (.ofJson j)

end Decoder

/-- A record with the fields `F`, read into a state `S`. -/
structure Record (F S : Type) where
  /-- The fields, in the order in which an array gives them. -/
  fields : List F
  /-- The field that a key names. -/
  field? : String → Option F
  /-- Reads the value of a field. -/
  read : F → Document → S → Except Fault S

namespace Record

variable {F S : Type}

/-- Reads members in order. Unknown ones are passed over; a field that was `seen` before is a
fault. -/
def members [DecidableEq F] (r : Record F S) (seen : List F) (s : S) :
    List (Json.StringToken × Document) → Except Fault S
  | [] => .ok s
  | (key, value) :: rest =>
    match key.text? with
    | none => .error .shape
    | some k =>
      match r.field? k with
      | none => do
        Decoder.skip value
        r.members seen s rest
      | some f =>
        if f ∈ seen then .error .shape
        else do r.members (f :: seen) (← r.read f value s) rest

/-- Reads items in the order of the fields; there may be fewer of them, but not more. -/
def positional (r : Record F S) (s : S) : List F → List Document → Except Fault S
  | _, [] => .ok s
  | [], _ :: _ => .error .shape
  | f :: fs, d :: ds => do r.positional (← r.read f d s) fs ds

/-- Reads a record from an object or an array. -/
def decode [DecidableEq F] (r : Record F S) (start : S) : Decoder S
  | .object ms => r.members [] start ms
  | .array items => r.positional start r.fields items
  | _ => .error .shape

end Record

end EthClient
