import EthClient.Hex
import EthClient.Text.Split

/-! # Tables of code points

Two kinds of tables, each written as lines of text with code points in hexadecimal digits:

* **`Ranges`** are sets of code points, such as `41-5A AA`;
* **`Replacements`** give texts to code points, such as `C6: 61.65 E7`: behind a code point and a
  colon come the texts of that code point and of those that follow it.

Both are in ascending order, and a code point is looked up by halves. -/

namespace EthClient.Unicode

/-- The number that hexadecimal digits spell. -/
def hexNumber (digits : String) : Nat :=
  digits.toList.foldl (fun n c => n * 16 + (Hex.value? c).getD 0) 0

/-- The words of some lines. -/
def wordsOf (lines : List String) : List String := lines.flatMap (Text.split ' ')

/-- The last entry with a key of at most `n` among those from `low` to before `high`. -/
def lastUpTo {α : Type} (entries : Array (Nat × α)) (n low high : Nat) : Option (Nat × α) :=
  if low + 1 < high then
    let middle := (low + high) / 2
    if (entries[middle]?).any (·.1 ≤ n) then lastUpTo entries n middle high
    else lastUpTo entries n low middle
  else (entries[low]?).filter (·.1 ≤ n)
termination_by high - low

/-! ## Sets -/

/-- A set of code points: ranges with both ends, in ascending order. -/
structure Ranges where
  entries : Array (Nat × Nat)

namespace Ranges

/-- Reads ranges; a code point alone is a range. -/
def ofLines (lines : List String) : Ranges where
  entries := ((wordsOf lines).map fun word =>
    match Text.split '-' word with
    | [first, last] => (hexNumber first, hexNumber last)
    | _ => (hexNumber word, hexNumber word)).toArray

/-- The range that holds a code point. -/
def find? (ranges : Ranges) (n : Nat) : Option (Nat × Nat) :=
  (lastUpTo ranges.entries n 0 ranges.entries.size).filter (n ≤ ·.2)

/-- Whether a code point is in the set. -/
def contains (ranges : Ranges) (n : Nat) : Bool := (ranges.find? n).isSome

end Ranges

/-! ## Texts -/

/-- Texts of code points: each entry has those of a code point and of the ones behind it. -/
structure Replacements where
  entries : Array (Nat × Array (List Char))

namespace Replacements

/-- The text that code points with points between them spell. -/
def textOf (word : String) : List Char :=
  (Text.split '.' word).map fun digits => Char.ofNat (hexNumber digits)

/-- Puts words behind the entries that have been read; the last entry is the first of `read`. -/
def collect (read : List (Nat × List (List Char))) : List String → List (Nat × List (List Char))
  | [] => read
  | word :: words =>
    match Text.split ':' word, read with
    | [first, _], _ => collect ((hexNumber first, []) :: read) words
    | _, (first, texts) :: before => collect ((first, textOf word :: texts) :: before) words
    | _, [] => collect [] words

/-- Reads entries. -/
def ofLines (lines : List String) : Replacements where
  entries := ((collect [] (wordsOf lines)).reverse.map fun (first, texts) =>
    (first, texts.reverse.toArray)).toArray

/-- The text of a code point. -/
def find? (table : Replacements) (n : Nat) : Option (List Char) := do
  let (first, texts) ← lastUpTo table.entries n 0 table.entries.size
  texts[n - first]?

/-- The code points that have a text, each with its text. -/
def toList (table : Replacements) : List (Nat × List Char) :=
  table.entries.toList.flatMap fun (first, texts) =>
    texts.toList.zipIdx.map fun (text, i) => (first + i, text)

end Replacements

end EthClient.Unicode
