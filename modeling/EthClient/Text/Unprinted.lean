import EthClient.Unicode.Category

/-! # Characters that are not shown as they are

The code points above ASCII that a quoted text spells by number: controls, formats, separators other
than the space, code points that no character has, marks without room of their own, and what
attaches to the character before or is ignored where it cannot be shown. -/

namespace EthClient.Text

/-- Those that are neither unassigned nor marks without room of their own, of which some may be in
these ranges as well. -/
def unprinted : Unicode.Ranges := .ofLines [
  "7F-A0 AD 600-605 61C 6DD 70F 890-891 8E2 9BE 9D7 B3E B57 BBE BD7 CC0 CC2 CC7-CD6 D3E D57 DCF",
  "DDF 115F-1160 1680 1715 1734 180E 1B35-1B3D 1B43-1B44 1BAA 1BF2-1BF3 2000-200F 2028-202F",
  "205F-206F 3000 302E-302F 3164 A953 A9C0 FEFF FF9E-FFA0 FFF9-FFFB 110BD 110CD 111C0 11235 1133E",
  "1134D 11357 113B8 113C2-113C9 113CF 114B0 114BD 115AF 116B6 11930 1193D 11F41 13430-1343F",
  "16FF0-16FF1 1BCA0-1BCA3 1D165-1D166 1D16D-1D17A E0001-E007F"]

/-- Whether a code point above ASCII is spelled by number. -/
def isUnprinted (n : Nat) : Bool :=
  Unicode.isUnassigned n || Unicode.nonspacingMarks.contains n || unprinted.contains n

end EthClient.Text
