/-! # Punycode

A label of a domain name with characters outside ASCII, written in ASCII: the ASCII characters come
first, then a hyphen, then digits that say which other characters go where. The other characters are
inserted in ascending order; each number is written in base thirty-six with digits whose thresholds
adapt to the numbers before it. `encode` writes such a label and `decode?` reads one. -/

namespace EthClient.Punycode

/-- The digit of a value below thirty-six. -/
def digit (n : Nat) : Char := if n < 26 then Char.ofNat (97 + n) else Char.ofNat (22 + n)

/-- The threshold of the digit at `position`, a multiple of thirty-six. -/
def threshold (bias position : Nat) : Nat :=
  if position ≤ bias then 1 else if bias + 26 ≤ position then 26 else position - bias

/-- The threshold is positive. -/
theorem threshold_pos (bias position : Nat) : 0 < threshold bias position := by
  unfold threshold
  split
  · exact Nat.one_pos
  · split <;> omega

/-- The digits of a number from some position on. -/
def digits (bias position q : Nat) : List Char :=
  let t := threshold bias position
  if q < t then [digit q]
  else digit (t + (q - t) % (36 - t)) :: digits bias (position + 36) ((q - t) / (36 - t))
termination_by q
decreasing_by
  have ht := threshold_pos bias position
  exact Nat.lt_of_le_of_lt (Nat.div_le_self _ _) (by omega)

/-- Divides a number until it is small, and counts thirty-six for each division. -/
def settle (delta position : Nat) : Nat × Nat :=
  if 455 < delta then settle (delta / 35) (position + 36) else (delta, position)
termination_by delta
decreasing_by exact Nat.div_lt_self (by omega) (by omega)

/-- The bias after a number that was the first or a later one, with `count` characters placed. -/
def adapt (delta count : Nat) (first : Bool) : Nat :=
  let scaled := if first then delta / 700 else delta / 2
  let (rest, position) := settle (scaled + scaled / count) 0
  position + 36 * rest / (rest + 38)

/-! ## Writing -/

/-- What has been written so far. -/
structure Writer where
  bias : Nat := 72
  /-- What the next number has to say before the characters of its round. -/
  delta : Nat := 0
  /-- The number of characters that have their place. -/
  placed : Nat
  first : Bool := true
  written : List Char := []

/-- Goes over the label once for one code point: the places before an occurrence count, an
occurrence is written. -/
def place (point : Nat) (w : Writer) (c : Nat) : Writer :=
  if c < point then { w with delta := w.delta + 1 }
  else if c == point then
    { bias := adapt w.delta (w.placed + 1) w.first
      delta := 0
      placed := w.placed + 1
      first := false
      written := w.written ++ digits w.bias 36 w.delta }
  else w

/-- Places the given code points, which ascend; `next` is the least one that may come. -/
def placeAll (label : List Nat) (w : Writer) (next : Nat) : List Nat → Writer
  | [] => w
  | point :: rest =>
    let w := { w with delta := w.delta + (point - next) * (w.placed + 1) }
    let w := label.foldl (place point) w
    placeAll label { w with delta := w.delta + 1 } (point + 1) rest

/-- The ASCII form of a label, without the mark that tells it from a plain one. -/
def encode (label : List Char) : List Char :=
  let points := label.map Char.toNat
  let plain := label.filter (·.toNat < 128)
  let others := (points.filter (128 ≤ ·)).mergeSort.eraseDups
  let start := if plain.isEmpty then [] else plain ++ ['-']
  start ++ (placeAll points { placed := plain.length } 128 others).written

/-! ## Reading -/

/-- The value of a digit. -/
def value? (c : Char) : Option Nat :=
  if 'a' ≤ c && c ≤ 'z' then some (c.toNat - 97)
  else if '0' ≤ c && c ≤ '9' then some (c.toNat - 22)
  else none

/-- What the numbers of a label and the weights of their digits stay below. -/
def limit : Nat := 0x100000000

/-- Reads the digits of a number from some position on and adds it to `sum`; answers the rest of the
text as well. -/
def number? (bias : Nat) : List Char → (position weight sum : Nat) → Option (Nat × List Char)
  | [], _, _, _ => none
  | c :: rest, position, weight, sum =>
    match value? c with
    | none => none
    | some d =>
      let t := threshold bias position
      let total := sum + d * weight
      if limit ≤ total then none
      else if d < t then some (total, rest)
      else if limit ≤ weight * (36 - t) then none
      else number? bias rest (position + 36) (weight * (36 - t)) total

/-- A number has at least one digit. -/
theorem length_lt_of_number? {bias position weight sum total : Nat} {cs rest : List Char}
    (h : number? bias cs position weight sum = some (total, rest)) : rest.length < cs.length := by
  induction cs generalizing position weight sum with
  | nil => simp [number?] at h
  | cons c cs ih =>
    unfold number? at h
    split at h
    · simp at h
    · simp only at h
      split at h
      · simp at h
      · split at h
        · simp only [Option.some.injEq, Prod.mk.injEq] at h
          simp [← h.2]
        · split at h
          · simp at h
          · exact Nat.lt_succ_of_lt (ih h)

/-- Puts characters into a text as numbers say: each number is the way from the place behind the
last character, over all places for all characters between the last one, `point`, and the next. -/
def insertAll (bias point place : Nat) (text : List Char) (cs : List Char) :
    Option (List Char) :=
  if cs.isEmpty then some text
  else
    match _h : number? bias cs 36 1 place with
    | none => none
    | some (total, rest) =>
      let places := text.length + 1
      let next := point + total / places
      if next.isValidChar then
        insertAll (adapt (total - place) places (place == 0)) next (total % places + 1)
          (text.insertIdx (total % places) (Char.ofNat next)) rest
      else none
termination_by cs.length
decreasing_by exact length_lt_of_number? ‹_›

/-- The label of which some text is the ASCII form, without the mark. The last hyphen ends the
characters of ASCII, unless there are none. -/
def decode? (code : List Char) : Option (List Char) :=
  let numbers := (code.reverse.takeWhile (· != '-')).reverse
  let plain := code.take (code.length - numbers.length - 1)
  if plain.isEmpty then insertAll 72 128 0 [] code else insertAll 72 128 0 plain numbers

end EthClient.Punycode
