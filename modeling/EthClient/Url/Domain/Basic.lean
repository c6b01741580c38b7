import EthClient.Text.Utf8
import EthClient.Unicode.Direction
import EthClient.Url.Domain.Label

/-! # Domain names

A domain name is brought into its final spelling and cut into labels; where one of them has letters
that run to the left, all labels have to keep one direction. `ascii?` answers the name in ASCII. -/

namespace EthClient.Url.Domain

/-! ## Directions -/

/-- Whether a name with a character that runs so has text to the left. -/
def isLeftward : Unicode.Direction → Bool
  | .left | .arabic | .arabicDigit => true
  | _ => false

/-- Whether characters behind a letter that runs to the right run so too, the last one as a letter
or a digit does. -/
def keepsRight (rest : List Unicode.Direction) : Bool :=
  rest.all (fun d => d == .right || d == .digit || d == .neutral || d == .mark) &&
    rest.getLast?.all fun d => d == .right || d == .digit

/-- Whether characters behind a letter that runs to the left run so too, the last one as a letter or
a digit does, and digits are of one kind. -/
def keepsLeft (rest : List Unicode.Direction) : Bool :=
  !rest.contains .right && !(rest.contains .digit && rest.contains .arabicDigit) &&
    rest.getLast?.all fun d => d != .neutral && d != .mark

/-- Whether a text keeps the direction of its first character, which has to be a letter; marks at
the end do not count. -/
def keepsDirection (text : List Char) : Bool :=
  match text.map Unicode.Direction.ofChar with
  | [] => true
  | first :: rest =>
    let rest := (rest.reverse.dropWhile (· == .mark)).reverse
    match first with
    | .right => keepsRight rest
    | .left | .arabic => keepsLeft rest
    | _ => false

/-! ## Names -/

/-- The labels of a name; an empty one stands between two points, and before or behind a point at
an end. -/
def labels? (name : List Char) : Option (List Label) := do
  let spelled ← name.mapM spelled?
  let labels ← (Text.splitChars '.' (Unicode.normalize spelled.flatten)).mapM Label.of?
  let hasLeftward := labels.any (·.text.any fun c => isLeftward (.ofChar c))
  guard (!hasLeftward || labels.all (keepsDirection ·.text))
  return labels

/-- The ASCII form of the domain name in some bytes. -/
def ascii? (bytes : Bytes) : Option (List Char) := do
  let name ← Text.Utf8.decode? bytes
  let labels ← labels? name.toList
  return List.intercalate ['.'] (labels.map (·.ascii))

end EthClient.Url.Domain
