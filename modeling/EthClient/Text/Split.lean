/-! # Splitting and joining text

`Text.split` cuts a text at every occurrence of one character. It always answers at least one part,
and joining the parts with the character gives the text back. -/

namespace EthClient.Text

/-- The parts of a character list between the occurrences of a separator. -/
def splitChars (sep : Char) : List Char → List (List Char)
  | [] => [[]]
  | c :: cs =>
    if c == sep then [] :: splitChars sep cs
    else
      match splitChars sep cs with
      | part :: parts => (c :: part) :: parts
      | [] => [[c]]

/-- The parts of a text between the occurrences of a separator. -/
def split (sep : Char) (s : String) : List String := (splitChars sep s.toList).map String.ofList

/-- Drops every occurrence of a character at the end of a text. -/
def trimEnd (c : Char) (s : String) : String :=
  String.ofList (s.toList.reverse.dropWhile (· == c)).reverse

/-- Whether some characters stand next to each other in others. -/
def charsOccurIn (part : List Char) : List Char → Bool
  | [] => part.isEmpty
  | c :: cs => part.isPrefixOf (c :: cs) || charsOccurIn part cs

/-- Whether a text occurs inside another. -/
def occursIn (part whole : String) : Bool := charsOccurIn part.toList whole.toList

/-- The number that decimal digits spell; `none` for another character or no digit at all. -/
def decimal? (cs : List Char) : Option Nat :=
  if cs.isEmpty || !cs.all (fun c => '0' ≤ c && c ≤ '9') then none
  else some (cs.foldl (fun n c => n * 10 + (c.toNat - 48)) 0)

end EthClient.Text
