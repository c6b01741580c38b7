import EthClient.Hex
import EthClient.Json.Double

/-! # JSON values

`Json` is a JSON value as the client holds it: numbers are integers of at most 64 bits or doubles,
and the members of an object are kept in ascending order of their keys, each key once.

`Json.insert` keeps that order, and a later member with the same key replaces the earlier one. -/

namespace EthClient

namespace Json

/-- A JSON number: an integer between `-2 ^ 63` and `2 ^ 64 - 1`, or a double. -/
inductive Number where
  | integer (value : Int)
  | double (value : Double)
  deriving DecidableEq

/-- The written form of a number. -/
def Number.toText : Number → String
  | .integer i => toString i
  | .double d => d.toText

end Json

/-- A JSON value. -/
inductive Json where
  | null
  | bool (b : Bool)
  | number (n : Json.Number)
  | string (s : String)
  | array (items : List Json)
  | object (members : List (String × Json))
  deriving Inhabited

namespace Json

/-- Puts a member at its place in ascending order, instead of an earlier one with the same key. -/
def insert (key : String) (value : Json) : List (String × Json) → List (String × Json)
  | [] => [(key, value)]
  | (k, v) :: rest =>
    if key < k then (key, value) :: (k, v) :: rest
    else if key == k then (key, value) :: rest
    else (k, v) :: insert key value rest

/-- The object of some members, in the order in which they were given. -/
def ofMembers (members : List (String × Json)) : Json :=
  .object (members.foldl (fun acc m => insert m.1 m.2 acc) [])

/-- An integer as a number. -/
def int (i : Int) : Json := .number (.integer i)

/-- A natural number as a number. -/
def nat (n : Nat) : Json := int n

/-- The value of a member, if the value is an object that has it. -/
def get? (key : String) : Json → Option Json
  | .object members => members.lookup key
  | _ => none

/-- The text of a string. -/
def string? : Json → Option String
  | .string s => some s
  | _ => none

/-- The items of an array. -/
def items? : Json → Option (List Json)
  | .array items => some items
  | _ => none

/-- The value of an integer. -/
def int? : Json → Option Int
  | .number (.integer i) => some i
  | _ => none

/-- The value of a natural number. -/
def nat? (j : Json) : Option Nat :=
  match j.int? with
  | some (.ofNat n) => some n
  | _ => none

/-- The value of a truth value. -/
def bool? : Json → Option Bool
  | .bool b => some b
  | _ => none

/-! ## Printing -/

/-- The written form of a character inside a string: the short escapes, four digits for the other
control characters, and everything else as it is. -/
def escape (c : Char) : List Char :=
  match c with
  | '"' => ['\\', '"']
  | '\\' => ['\\', '\\']
  | '\n' => ['\\', 'n']
  | '\r' => ['\\', 'r']
  | '\t' => ['\\', 't']
  | c =>
    if c.toNat == 8 then ['\\', 'b']
    else if c.toNat == 12 then ['\\', 'f']
    else if c.toNat < 32 then
      '\\' :: 'u' :: '0' :: '0' :: Hex.ofByte (UInt8.ofNat c.toNat)
    else [c]

/-- The written form of a string. -/
def quote (s : String) : List Char := '"' :: s.toList.flatMap escape ++ ['"']

mutual

/-- The written form of a value: no blanks, members in the order of the object. -/
def chars : Json → List Char
  | .null => ['n', 'u', 'l', 'l']
  | .bool true => ['t', 'r', 'u', 'e']
  | .bool false => ['f', 'a', 'l', 's', 'e']
  | .number n => n.toText.toList
  | .string s => quote s
  | .array [] => ['[', ']']
  | .array (item :: items) => '[' :: chars item ++ itemChars items ++ [']']
  | .object [] => ['{', '}']
  | .object ((key, value) :: members) =>
    '{' :: quote key ++ ':' :: chars value ++ memberChars members ++ ['}']
termination_by structural j => j

/-- The items after the first, each behind a comma. -/
def itemChars : List Json → List Char
  | [] => []
  | item :: items => ',' :: chars item ++ itemChars items
termination_by structural items => items

/-- The members after the first, each behind a comma. -/
def memberChars : List (String × Json) → List Char
  | [] => []
  | (key, value) :: members => ',' :: quote key ++ ':' :: chars value ++ memberChars members
termination_by structural members => members

end

/-- The text of a value. -/
def render (j : Json) : String := String.ofList j.chars

end Json

end EthClient
