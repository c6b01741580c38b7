import EthClient.Json.Basic

/-! # Number literals

A number literal is kept as the digits that were written and given a value afterwards. The value is
an integer where the literal has neither fraction nor exponent and fits 64 bits; `-0` and every
other literal is a double, made from the first digits that fit 64 bits and the place of the decimal
point. -/

namespace EthClient.Json

/-- A number literal: sign, digits before the point, digits after it, and the exponent. -/
structure Literal where
  negative : Bool
  whole : List Nat
  fraction : List Nat
  exponent : Option Int

namespace Literal

/-- Whether a literal has neither a fraction nor an exponent. -/
def isPlain (l : Literal) : Bool := l.fraction.isEmpty && l.exponent.isNone

/-- The number that decimal digits spell. -/
def ofDigits (digits : List Nat) : Nat := digits.foldl (fun n d => n * 10 + d) 0

/-- Takes digits into a number as long as it stays below `2 ^ 64`; the digits after that are
returned. -/
def absorb (n : Nat) : List Nat → Nat × List Nat
  | [] => (n, [])
  | d :: ds => if n * 10 + d < UInt64.size then absorb (n * 10 + d) ds else (n, d :: ds)

/-- The double nearest to the digits taken, if it is not too large. Digits of the whole part that do
not fit count as zeros; the fraction's first digits are tried again after them. -/
def double? (l : Literal) : Option Double :=
  let (n, dropped) := absorb 0 l.whole
  let (n', unused) := absorb n l.fraction
  let places : Int := dropped.length - (l.fraction.length - unused.length : Nat) + l.exponent.getD 0
  Double.ofDecimal? l.negative (UInt64.ofNat n') places

/-- The value of a literal, if it is not too large. -/
def number? (l : Literal) : Option Number :=
  let n := ofDigits l.whole
  if l.isPlain && !l.negative && n < UInt64.size then some (.integer n)
  else if l.isPlain && l.negative && n != 0 && n ≤ 0x8000000000000000 then some (.integer (-n))
  else l.double?.map .double

end Literal

end EthClient.Json
