import EthClient.Decode
import EthClient.Json.Shown
import EthClient.Text.Split

/-! # Error answers of a node

An `RpcError` is the error object of an answer: a code, a message and optional data. -/

namespace EthClient

/-- The error object of an answer. -/
structure RpcError where
  code : Int
  message : String
  data : Option Json

namespace RpcError

/-- Whether the node says that the execution was reverted. -/
def isRevert (e : RpcError) : Bool := Text.occursIn "revert" e.message

/-- The wording of an error answer. -/
def text (e : RpcError) : String :=
  let data := match e.data with
    | some j => "Some(" ++ j.shown ++ ")"
    | none => "None"
  "(code: " ++ toString e.code ++ ", message: " ++ e.message ++ ", data: " ++ data ++ ")"

/-- The JSON form of an error answer, members in the order in which they are written. -/
def toWire (e : RpcError) : Json :=
  .object <| [("code", Json.int e.code), ("message", .string e.message)] ++
    (e.data.map fun d => ("data", d)).toList

/-- The fields of an error answer. -/
inductive Field where
  | code
  | message
  | data
  deriving DecidableEq

/-- An error answer while it is read. -/
structure Draft where
  code : Option Int := none
  message : Option String := none
  data : Option Json := none

/-- How an error answer is read; its data may be `depth` arrays and objects deep. -/
def record (depth : Nat) : Record Field Draft where
  fields := [.code, .message, .data]
  field?
    | "code" => some .code
    | "message" => some .message
    | "data" => some .data
    | _ => none
  read
    | .code, d, e => return { e with code := some (← Decoder.int64 d) }
    | .message, d, e => return { e with message := some (← Decoder.text d) }
    | .data, d, e => return { e with data := ← Decoder.nullable (Decoder.json depth) d }

/-- Reads an error answer that stands `outer` arrays and objects deep; code and message are
required. -/
def decoder (outer : Nat) : Decoder RpcError := fun d => do
  match ← (record (Json.maxDepth - outer - 1)).decode {} d with
  | ⟨some code, some message, data⟩ => .ok ⟨code, message, data⟩
  | _ => .error .shape

end RpcError

end EthClient
