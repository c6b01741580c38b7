import EthClient.Text.Base64

/-! # Authorization

How a client shows a server who it is: the value of the `Authorization` header. -/

namespace EthClient

/-- What a client shows to a server. -/
inductive Authorization where
  | basic (user password : String)
  | bearer (token : String)
  /-- A header value as it is. -/
  | raw (value : String)

namespace Authorization

/-- The value of the header. -/
def toText : Authorization → String
  | .basic user password =>
    "Basic " ++ Text.Base64.encode (Text.Utf8.encode (user ++ ":" ++ password))
  | .bearer token => "Bearer " ++ token
  | .raw value => value

/-- Whether a text can be the value of a header: of the control characters it has only tabs. -/
def isHeaderValue (s : String) : Bool :=
  (Text.Utf8.encode s).all fun b => (32 ≤ b && b != 127) || b == 9

end Authorization

end EthClient
