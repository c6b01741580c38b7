import EthClient.Text.Unprinted

/-! # Quoted text

How a text or a character is shown inside a message: between quotes, with short escapes for the
common controls and `\u{…}` with the number of every other character that is not shown as it is. -/

namespace EthClient.Text

/-- The digits of `\u{…}` for a character. -/
def byNumber (c : Char) : List Char :=
  '\\' :: 'u' :: '{' :: Nat.toDigits 16 c.toNat ++ ['}']

/-- A character as it is shown between quotes of the kind `mark`: only that kind is escaped. -/
def shown (mark : Char) (c : Char) : List Char :=
  if c == mark || c == '\\' then ['\\', c]
  else if c == '\n' then ['\\', 'n']
  else if c == '\r' then ['\\', 'r']
  else if c == '\t' then ['\\', 't']
  else if c.toNat == 0 then ['\\', '0']
  else if c.toNat < 32 then byNumber c
  else if c.toNat < 127 then [c]
  else if isUnprinted c.toNat then byNumber c
  else [c]

/-- A text between double quotes. -/
def quoted (s : String) : String := String.ofList ('"' :: s.toList.flatMap (shown '"') ++ ['"'])

/-- A character between single quotes. -/
def quotedChar (c : Char) : String := String.ofList ('\'' :: shown '\'' c ++ ['\''])

/-- A list of texts, each quoted, between brackets. -/
def quotedList (texts : List String) : String :=
  "[" ++ String.intercalate ", " (texts.map quoted) ++ "]"

end EthClient.Text
