import EthClient.Json.Basic
import EthClient.Text.Quoted

/-! # JSON values inside messages

How a value is spelled out inside an error message: every part behind the name of its kind. -/

namespace EthClient.Json

mutual

/-- A value behind the name of its kind. -/
def shown : Json → String
  | .null => "Null"
  | .bool b => if b then "Bool(true)" else "Bool(false)"
  | .number n => "Number(" ++ n.toText ++ ")"
  | .string s => "String(" ++ Text.quoted s ++ ")"
  | .array items => "Array [" ++ String.intercalate ", " (shownItems items) ++ "]"
  | .object members =>
    "Object \x7b" ++ String.intercalate ", " (shownMembers members) ++ "\x7d"
termination_by structural j => j

/-- The items of an array. -/
def shownItems : List Json → List String
  | [] => []
  | item :: items => shown item :: shownItems items
termination_by structural items => items

/-- The members of an object, each behind its key. -/
def shownMembers : List (String × Json) → List String
  | [] => []
  | (key, value) :: members => (Text.quoted key ++ ": " ++ shown value) :: shownMembers members
termination_by structural members => members

end

end EthClient.Json
