import EthClient.Rpc.Error
import EthClient.Transaction.Args

/-! # Calls

A `Param` is one argument of a call: an untyped value, or a transaction intent that layers can look
at without decoding it. A `Call` is a method with its arguments. A `BatchElem` is a call in a batch,
with two slots that an execution fills: a result or an error. -/

namespace EthClient

/-- One argument of a call. -/
inductive Param where
  | json (value : Json)
  | transaction (args : TransactionArgs)

namespace Param

/-- The JSON value of an argument. -/
def toJson : Param → Json
  | .json value => value
  | .transaction args => args.toJson

/-- The JSON form of an argument as it is written. -/
def toWire : Param → Json
  | .json value => value
  | .transaction args => args.toWire

/-- The untyped value, if the argument is one. -/
def json? : Param → Option Json
  | .json value => some value
  | .transaction _ => none

/-- A text as an argument. -/
def string (s : String) : Param := .json (.string s)

/-- A truth value as an argument. -/
def bool (b : Bool) : Param := .json (.bool b)

end Param

/-- A method and its arguments. -/
structure Call where
  method : String
  params : List Param

/-- The JSON form of a call as it is written. -/
def Call.toWire (c : Call) : Json :=
  .object [("method", .string c.method), ("params", .array (c.params.map Param.toWire))]

/-- A call in a batch. -/
structure BatchElem where
  method : String
  params : List Param
  result : Option Json := none
  error : Option RpcError := none

namespace BatchElem

/-- The element of a call, with empty slots. -/
def ofCall (c : Call) : BatchElem := { method := c.method, params := c.params }

/-- The call of an element. -/
def toCall (e : BatchElem) : Call := ⟨e.method, e.params⟩

/-- The element with empty slots. -/
def reset (e : BatchElem) : BatchElem := { e with result := none, error := none }

/-- The JSON form of an element: the slots that are filled, behind its call. -/
def toJson (e : BatchElem) : Json :=
  Json.ofMembers <|
    [("method", .string e.method), ("params", .array (e.params.map Param.toJson))] ++
    (e.result.map fun r => ("result", r)).toList ++
    (e.error.map fun err => ("error", err.toWire)).toList

end BatchElem

end EthClient
