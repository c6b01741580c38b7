import EthClient.Url.Domain.Basic
import EthClient.Word

/-! # Hosts

The host of a URL is a domain name, an IPv4 address in any of its spellings, an IPv6 address between
brackets, or, where the scheme has no hosts of its own, a name that is kept as it is. -/

namespace EthClient

/-- Why a text is not a URL. -/
inductive UrlError where
  | relative
  | emptyHost
  | invalidIpv4
  | invalidIpv6
  | invalidPort
  /-- A character that the name of a host cannot have. -/
  | invalidHostCharacter
  /-- A domain name that has no ASCII form. -/
  | invalidDomain
  deriving DecidableEq

/-- The wording of an error. -/
def UrlError.message : UrlError → String
  | .relative => "relative URL without a base"
  | .emptyHost => "empty host"
  | .invalidIpv4 => "invalid IPv4 address"
  | .invalidIpv6 => "invalid IPv6 address"
  | .invalidPort => "invalid port number"
  | .invalidHostCharacter => "invalid domain character"
  | .invalidDomain => "invalid international domain name"

namespace Url

/-! ## Percent-encoding -/

/-- The characters that are encoded everywhere: controls, and all outside ASCII. -/
def isControl (c : Char) : Bool := c.toNat < 32 || 127 ≤ c.toNat

/-- A byte as `%` and two upper-case digits. -/
def percent (b : UInt8) : List Char := '%' :: (Hex.ofByte b).map Char.toUpper

/-- A text with the characters of a class encoded, byte by byte. -/
def encode (isEncoded : Char → Bool) (cs : List Char) : List Char :=
  cs.flatMap fun c => if isEncoded c then (String.utf8EncodeChar c).flatMap percent else [c]

/-- The bytes of a text in which `%` and two digits stand for a byte. -/
def decode : List Char → Bytes
  | [] => []
  | '%' :: a :: b :: rest =>
    match Hex.value? a, Hex.value? b with
    | some high, some low => UInt8.ofNat (high * 16 + low) :: decode rest
    | _, _ => 37 :: decode (a :: b :: rest)
  | c :: rest => String.utf8EncodeChar c ++ decode rest

/-! ## IPv4 addresses -/

/-- The value of a digit below a base. -/
def digitBelow? (base : Nat) (c : Char) : Option Nat := (Hex.value? c).filter (· < base)

/-- A part of an IPv4 address: hexadecimal behind `0x`, octal behind `0`, or decimal. -/
def ipv4Part? (part : List Char) : Option Nat :=
  let (base, digits) := match part with
    | '0' :: 'x' :: rest | '0' :: 'X' :: rest => (16, rest)
    | '0' :: c :: rest => (8, c :: rest)
    | cs => (10, cs)
  if part.isEmpty then none
  else (digits.mapM (digitBelow? base)).map fun ds => ds.foldl (fun n d => n * base + d) 0

/-- The parts of a name between its points, without an empty last one. -/
def nameParts (name : List Char) : List (List Char) :=
  let parts := Text.splitChars '.' name
  if parts.getLast? == some [] then parts.dropLast else parts

/-- Whether the last part of a name is a number, so that the name must be an IPv4 address. -/
def endsInNumber (name : List Char) : Bool :=
  match (nameParts name).getLast? with
  | none => false
  | some [] => false
  | some last => last.all Char.isDigit || (ipv4Part? last).isSome

/-- The IPv4 address of a name: the last part fills what the parts before it leave. -/
def ipv4? (name : List Char) : Option Nat := do
  let parts := nameParts name
  if 4 < parts.length then none
  let numbers ← parts.mapM ipv4Part?
  let last ← numbers.getLast?
  let before := numbers.dropLast
  if before.any (255 < ·) || last >>> (8 * (4 - before.length)) != 0 then none
  return before.zipIdx.foldl (fun sum (n, i) => sum + n <<< (8 * (3 - i))) last

/-- The four parts of an IPv4 address. -/
def ipv4Text (n : Nat) : String :=
  String.intercalate "." ((bigEndian 4 n).map fun b => toString b.toNat)

/-! ## IPv6 addresses -/

/-- One to four hexadecimal digits. -/
def ipv6Piece? (cs : List Char) : Option Nat :=
  if cs.isEmpty || 4 < cs.length then none
  else (cs.mapM Hex.value?).map fun ds => ds.foldl (fun n d => n * 16 + d) 0

/-- One to three decimal digits below 256, without a zero in front. -/
def ipv6Byte? (cs : List Char) : Option Nat :=
  match cs with
  | '0' :: _ :: _ => none
  | cs => (Text.decimal? cs).filter (· < 256)

/-- The two pieces that four decimal numbers at the end of an address make. -/
def ipv6Tail? (cs : List Char) : Option (List Nat) := do
  match ← (Text.splitChars '.' cs).mapM ipv6Byte? with
  | [a, b, c, d] => return [a * 256 + b, c * 256 + d]
  | _ => none

/-- The pieces between colons; the last one may be an IPv4 address. -/
def ipv6Pieces? : List (List Char) → Option (List Nat)
  | [] => some []
  | [last] => if last.contains '.' then ipv6Tail? last else (ipv6Piece? last).map ([·])
  | piece :: rest => do return (← ipv6Piece? piece) :: (← ipv6Pieces? rest)

/-- The pieces of one side of a double colon, where nothing may stand. -/
def ipv6Side? (cs : List Char) : Option (List Nat) :=
  if cs.isEmpty then some [] else ipv6Pieces? (Text.splitChars ':' cs)

/-- Cuts a text at its first double colon. -/
def atDoubleColon : List Char → Option (List Char × List Char)
  | [] => none
  | ':' :: ':' :: rest => some ([], rest)
  | c :: rest => (atDoubleColon rest).map fun (before, after) => (c :: before, after)

/-- The eight pieces of an IPv6 address; a double colon stands for at least one zero. -/
def ipv6? (cs : List Char) : Option (List Nat) :=
  match atDoubleColon cs with
  | none => (ipv6Side? cs).filter (·.length == 8)
  | some (before, after) => do
    if before.contains '.' then none
    let high ← ipv6Side? before
    let low ← ipv6Side? after
    if 8 ≤ high.length + low.length then none
    return high ++ List.replicate (8 - high.length - low.length) 0 ++ low

/-- The length of the run of zeros at the front. -/
def zeroRun (pieces : List Nat) : Nat := (pieces.takeWhile (· == 0)).length

/-- The place of the first longest run of at least two zeros. -/
def longestRun (pieces : List Nat) : Option (Nat × Nat) :=
  let runs := (List.range pieces.length).map fun i => (i, zeroRun (pieces.drop i))
  runs.foldl (fun best r => if r.2 < 2 then best else
    match best with
    | some b => if b.2 < r.2 then some r else best
    | none => some r) none

/-- Pieces in hexadecimal digits with colons between them. -/
def piecesText (pieces : List Nat) : String :=
  String.intercalate ":" (pieces.map fun n => String.ofList (Nat.toDigits 16 n))

/-- An IPv6 address with its longest run of zeros left out. -/
def ipv6Text (pieces : List Nat) : String :=
  match longestRun pieces with
  | none => piecesText pieces
  | some (start, length) =>
    piecesText (pieces.take start) ++ "::" ++ piecesText (pieces.drop (start + length))

/-! ## Hosts -/

/-- The host of a URL. -/
inductive Host where
  | name (cs : List Char)
  | ipv4 (n : Nat)
  | ipv6 (pieces : List Nat)
  deriving DecidableEq

namespace Host

/-- The written form of a host. -/
def toText : Host → String
  | .name cs => String.ofList cs
  | .ipv4 n => ipv4Text n
  | .ipv6 pieces => "[" ++ ipv6Text pieces ++ "]"

/-- The address between brackets. -/
def ofBrackets (cs : List Char) : Except UrlError Host :=
  if cs.getLast? != some ']' then .error .invalidIpv6
  else
    match ipv6? cs.dropLast with
    | some pieces => .ok (.ipv6 pieces)
    | none => .error .invalidIpv6

/-- The host of a scheme that has hosts. -/
def ofDomain : List Char → Except UrlError Host
  | '[' :: rest => ofBrackets rest
  | cs =>
    match Domain.ascii? (decode cs) with
    | none => .error .invalidDomain
    | some [] => .error .emptyHost
    | some domain =>
      if endsInNumber domain then
        match ipv4? domain with
        | some n => .ok (.ipv4 n)
        | none => .error .invalidIpv4
      else .ok (.name domain)

/-- The host of any other scheme, kept as it is. -/
def ofVerbatim : List Char → Except UrlError Host
  | '[' :: rest => ofBrackets rest
  | cs =>
    if cs.any fun c => isForbidden c && c != '%' && (c == ' ' || c.toNat == 0 || 32 < c.toNat) &&
        c.toNat != 127 then
      .error .invalidHostCharacter
    else .ok (.name (encode isControl cs))

end Host

end Url

end EthClient
