import EthClient.Unicode.Joining
import EthClient.Unicode.Normal
import EthClient.Url.Domain.Spelling
import EthClient.Url.Punycode

/-! # Labels of domain names

A label has a text and a form in ASCII, which is the text itself where that is possible, and else a
mark and the Punycode of the text. `Label.of?` takes either, in its final spelling:

* a text does not begin with a mark that attaches to the character before it;
* a joiner stands between letters that join, or behind the sign that takes the vowel off a
  consonant;
* a form in ASCII is that of a text that has the final spelling as well. -/

namespace EthClient.Url

/-- The characters that no domain name has: blanks, controls, and those with a meaning in URLs. -/
def isForbidden (c : Char) : Bool :=
  c.toNat ≤ 32 || c.toNat == 127 || "#%/:<>?@[\\]^|".toList.contains c

namespace Domain

/-! ## The text of a label -/

/-- Whether the letters on both sides of a place join; those before it are reversed. -/
def isBetweenJoining (before after : List Char) : Bool :=
  (before.dropWhile Unicode.isTransparent).head?.any Unicode.joinsAfter &&
    (after.dropWhile Unicode.isTransparent).head?.any Unicode.joinsBefore

/-- Whether a character is a sign that takes the vowel off the consonant before it. -/
def isVirama (c : Char) : Bool := Unicode.markClass c == 9

/-- Whether the joiner and the non-joiner stand where they may, behind a reversed text. -/
def joinersFit (before : List Char) : List Char → Bool
  | [] => true
  | c :: after =>
    let behindVirama := before.head?.any isVirama
    let fits := match c.toNat with
      | 0x200C => behindVirama || isBetweenJoining before after
      | 0x200D => behindVirama
      | _ => true
    fits && joinersFit (c :: before) after

/-- Whether a text can be a label, but for the spelling of its characters. -/
def isLabelText (cs : List Char) : Bool :=
  !cs.any isForbidden && !cs.head?.any (Unicode.isMark ·.toNat) && joinersFit [] cs

/-- Whether a text is in its final spelling. -/
def isSpelled (cs : List Char) : Bool :=
  cs.all (fun c => spelled? c == some [c]) && Unicode.normalize cs == cs

/-! ## Labels -/

/-- A label of a domain name. -/
structure Label where
  text : List Char
  ascii : List Char
  deriving DecidableEq

namespace Label

/-- The front of a form in ASCII that is not the text itself. -/
def mark : List Char := "xn--".toList

/-- The most characters that a text outside ASCII has. -/
def maxText : Nat := 1000

/-- The most characters behind the mark of a form in ASCII. -/
def maxCode : Nat := 2000

/-- Whether all characters are those of ASCII. -/
def isAscii (cs : List Char) : Bool := cs.all (·.toNat < 128)

/-- The label with a form in ASCII that begins with the mark. -/
def ofMarked? (ascii : List Char) : Option Label := do
  let code := ascii.drop mark.length
  guard (isAscii ascii && ascii.getLast? != some '-' && code.length ≤ maxCode)
  let text ← Punycode.decode? code
  guard (isSpelled text && !text.contains '.' && isLabelText text)
  return { text, ascii }

/-- The label of a text in its final spelling. -/
def ofText? (text : List Char) : Option Label := do
  guard (isLabelText text)
  if isAscii text then return { text, ascii := text }
  guard (text.length ≤ maxText)
  return { text, ascii := mark ++ Punycode.encode text }

/-- The label of a text in its final spelling, or of a form in ASCII if it begins with the mark. -/
def of? (cs : List Char) : Option Label :=
  if mark.isPrefixOf cs then ofMarked? cs else ofText? cs

end Label

end Domain

end EthClient.Url
