import EthClient.Text.Utf8

/-! # Hexadecimal digits

Digits are written in lower case and read in either. Two readings of a digit string exist side by
side, because the wire knows two kinds of hexadecimal text:

* `Hex.pairs?` reads an even number of digits and nothing else (call data, keys);
* `Hex.scan?` reads quantities, addresses and hashes, where blanks are passed over. -/

namespace EthClient.Hex

/-- The lower-case digit of a value below sixteen. -/
def digit (n : Nat) : Char :=
  if n < 10 then Char.ofNat (48 + n) else Char.ofNat (87 + n)

/-- The value of a digit in either case. -/
def value? (c : Char) : Option Nat :=
  if '0' ≤ c && c ≤ '9' then some (c.toNat - 48)
  else if 'a' ≤ c && c ≤ 'f' then some (c.toNat - 87)
  else if 'A' ≤ c && c ≤ 'F' then some (c.toNat - 55)
  else none

/-- The two digits of a byte, high half first. -/
def ofByte (b : UInt8) : List Char := [digit (b.toNat / 16), digit (b.toNat % 16)]

/-- The digits of a byte string. -/
def ofBytes (bytes : Bytes) : List Char := bytes.flatMap ofByte

/-- A byte string as `0x` and its digits. -/
def marked (bytes : Bytes) : String := String.ofList ('0' :: 'x' :: ofBytes bytes)

/-- The bytes that pairs of digits spell; `none` for an odd number of digits or another
character. -/
def pairs? : List Char → Option Bytes
  | [] => some []
  | [_] => none
  | a :: b :: rest => do
    let high ← value? a
    let low ← value? b
    let bytes ← pairs? rest
    return UInt8.ofNat (high * 16 + low) :: bytes

/-- The blanks that `scan?` passes over. -/
def isBlank (c : Char) : Bool := c == ' ' || c == '\t' || c == '\n' || c == '\r'

/-- Reads digits two by two. `half` says whether the next digit completes a byte, and `last` is the
digit read before it; a blank changes neither. A digit left over at the end is dropped. -/
def scanFrom? (half : Bool) (last : Nat) : List Char → Option Bytes
  | [] => some []
  | c :: rest =>
    match value? c with
    | some d =>
      if half then (scanFrom? false d rest).map (UInt8.ofNat (last * 16 + d) :: ·)
      else scanFrom? true d rest
    | none => if isBlank c then scanFrom? half last rest else none

/-- The bytes that a digit string with blanks spells. Where the pairs begin is decided by the parity
of the whole length, blanks included. -/
def scan? (cs : List Char) : Option Bytes := scanFrom? (cs.length % 2 == 1) 0 cs

/-- Drops one leading `0x`. -/
def unmarked : List Char → List Char
  | '0' :: 'x' :: rest => rest
  | cs => cs

end EthClient.Hex
