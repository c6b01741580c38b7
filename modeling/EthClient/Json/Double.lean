/-! # Doubles in decimal

The two decimal conversions of a number that is not an integer of the wire:

* `Double.ofDecimal?` reads `± significand · 10 ^ exponent` by one multiplication or division of
  doubles, refusing what is too large;
* `Double.toText` writes the fewest significant digits that read back to the same double under exact
  rounding.

Both work on the bits of a double, so that values can be compared and stored as plain data. -/

namespace EthClient.Json

/-- A finite double, by its bits. -/
structure Double where
  bits : UInt64
  deriving DecidableEq

namespace Double

/-! ## Reading -/

/-- A power of ten as a double, rounded to nearest. -/
def powerOfTen (n : Nat) : Float := Float.ofScientific 1 false n

/-- `x · 10 ^ exponent`, by steps of at most `10 ^ 308`; `none` where it is too large. Small values
vanish into zero. -/
def scale? (x : Float) (exponent : Int) : Option Float :=
  if h : exponent.natAbs ≤ 308 then
    if 0 ≤ exponent then
      let y := x * powerOfTen exponent.natAbs
      if y.isInf then none else some y
    else some (x / powerOfTen exponent.natAbs)
  else if x == 0.0 then some x
  else if 0 ≤ exponent then none
  else scale? (x / powerOfTen 308) (exponent + 308)
termination_by exponent.natAbs
decreasing_by omega

/-- The double for `± significand · 10 ^ exponent`, if it is not too large. -/
def ofDecimal? (negative : Bool) (significand : UInt64) (exponent : Int) : Option Double :=
  (scale? significand.toFloat exponent).map fun x => ⟨(if negative then -x else x).toBits⟩

/-- The double zero of either sign. -/
def zero (negative : Bool) : Double := ⟨if negative then 0x8000000000000000 else 0⟩

/-! ## Writing -/

/-- The sign bit. -/
def isNegative (d : Double) : Bool := d.bits >>> 63 == 1

/-- A positive double with what lies between it and its neighbours. -/
structure Span where
  /-- The value itself. -/
  value : Rat
  /-- The midpoint to the next smaller double. -/
  low : Rat
  /-- The midpoint to the next greater double. -/
  high : Rat
  /-- Whether the midpoints themselves read back to the value. -/
  closed : Bool

/-- A power of two, of either sign. -/
def twoPow (n : Int) : Rat := if 0 ≤ n then (2 : Rat) ^ n.natAbs else 1 / (2 : Rat) ^ n.natAbs

/-- A power of ten, of either sign. -/
def tenPow (n : Int) : Rat := if 0 ≤ n then (10 : Rat) ^ n.natAbs else 1 / (10 : Rat) ^ n.natAbs

/-- The magnitude of a double as a span: `m · 2 ^ q`, half a unit to each side, and a quarter below
a power of two whose predecessor lies closer. -/
def span (d : Double) : Span :=
  let fraction : Nat := (d.bits &&& 0xFFFFFFFFFFFFF).toNat
  let biased : Nat := (d.bits >>> 52 &&& 0x7FF).toNat
  let m : Nat := if biased == 0 then fraction else fraction + 0x10000000000000
  let q : Int := max biased 1 - 1075
  let below : Rat := if fraction == 0 && 1 < biased then 1 / 4 else 1 / 2
  ⟨(m : Rat) * twoPow q, ((m : Rat) - below) * twoPow q, ((m : Rat) + 1 / 2) * twoPow q, m % 2 == 0⟩

/-- Whether a decimal reads back to the value of the span. -/
def Span.reads (s : Span) (x : Rat) : Bool :=
  if s.closed then s.low ≤ x && x ≤ s.high else s.low < x && x < s.high

/-- The exponent of the first significant decimal digit of a positive rational that is not below
`10 ^ (-400)`. -/
def leadingExponent (x : Rat) : Int :=
  ((Nat.toDigits 10 (x * tenPow 400).floor.natAbs).length : Int) - 401

/-- The better of the two multiples of `10 ^ exponent` around the value that reads back, if one
does; the even multiple where both are as near. -/
def Span.onGrid? (s : Span) (exponent : Int) : Option Nat :=
  let x := s.value / tenPow exponent
  let down := x.floor.natAbs
  let up := down + 1
  let fits (n : Nat) : Bool := s.reads (n * tenPow exponent)
  match fits down, fits up with
  | true, true =>
    if x - down < up - x then some down
    else if up - x < x - down then some up
    else some (if down % 2 == 0 then down else up)
  | true, false => some down
  | false, true => some up
  | false, false => none

/-- The first of the grids with `digits`, `digits + 1`, … significant digits that has a decimal
reading back, with its exponent. -/
def Span.search (s : Span) (leading : Int) : (fuel digits : Nat) → Nat × Int
  | 0, digits => (s.onGrid? (leading + 1 - digits) |>.getD 0, leading + 1 - digits)
  | fuel + 1, digits =>
    match s.onGrid? (leading + 1 - digits) with
    | some n => (n, leading + 1 - digits)
    | none => s.search leading fuel (digits + 1)

/-- Drops the zeros at the end of a decimal, for a grid finer than it needs. -/
def trimZeros : (fuel n : Nat) → (exponent : Int) → Nat × Int
  | 0, n, e => (n, e)
  | fuel + 1, n, e => if n % 10 == 0 && n != 0 then trimZeros fuel (n / 10) (e + 1) else (n, e)

/-- The shortest decimal `(n, e)`, meaning `n · 10 ^ e`, that reads back to a positive double; of
several of that length the nearest. -/
def shortest (d : Double) : Nat × Int :=
  let s := d.span
  let (n, e) := s.search (leadingExponent s.value) 16 1
  trimZeros 17 n e

/-- The digits of a decimal with its point: positional from `10 ^ (-5)` up to below `10 ^ 16`,
always with a digit after the point, and in scientific form elsewhere, with the sign of the
exponent. -/
def layout (n : Nat) (e : Int) : String :=
  let digits := Nat.toDigits 10 n
  let count : Int := digits.length
  let point := count + e
  let lead := point - 1
  String.ofList <|
    if 0 ≤ e && point ≤ 16 then digits ++ List.replicate e.natAbs '0' ++ ['.', '0']
    else if 0 < point && point ≤ 16 then
      digits.take point.natAbs ++ '.' :: digits.drop point.natAbs
    else if -5 < point && point ≤ 0 then
      '0' :: '.' :: List.replicate point.natAbs '0' ++ digits
    else
      let mantissa := match digits with
        | first :: second :: rest => first :: '.' :: second :: rest
        | ds => ds
      mantissa ++ 'e' :: (if lead < 0 then '-' else '+') :: Nat.toDigits 10 lead.natAbs

/-- The written form of a double. -/
def toText (d : Double) : String :=
  let sign := if d.isNegative then "-" else ""
  if d.bits <<< 1 == 0 then sign ++ "0.0"
  else
    let (n, e) := d.shortest
    sign ++ layout n e

end Double

end EthClient.Json
