/-
Domain names in ASCII. Letters become lowercase, wide forms of ASCII become ASCII, characters that
have no form of their own vanish, and a label with characters beyond ASCII is written in Punycode
behind `xn--`. A label that already starts so must be the written form of such a label.
-/
import UiSkeleton.Text.Blank
import UiSkeleton.Text.Case
import UiSkeleton.Url.Punycode

namespace UiSkeleton.Domain

/-- The ASCII characters that no domain name holds. -/
def isForbidden (c : Char) : Bool :=
  c.toNat ≤ 0x20 || c.toNat == 0x7f ||
    ['%', '#', '/', ':', '<', '>', '?', '@', '[', '\\', ']', '^', '|'].contains c

/-- The characters beyond ASCII that vanish from a name. -/
def isIgnored (c : Char) : Bool :=
  let n := c.toNat
  n == 0xad || n == 0x34f || (0x180b ≤ n && n ≤ 0x180d) || n == 0x180f || n == 0x200b ||
    n == 0x2060 || n == 0x2064 || (0xfe00 ≤ n && n ≤ 0xfe0f) || n == 0xfeff ||
    (0xe0100 ≤ n && n ≤ 0xe01ef)

/-- Whether a character beyond ASCII combines with the one before it. -/
def isMark (c : Char) : Bool := Text.joinsBefore c

/-- The form of a character in a name; `none` if no name holds it. -/
def form? (c : Char) : Option (List Char) :=
  let n := c.toNat
  if n < 0x80 then if isForbidden c then none else some [c.toLower]
  else if isIgnored c then some []
  else if n == 0x3002 || n == 0xff0e || n == 0xff61 then some ['.']
  else if 0xff01 ≤ n && n ≤ 0xff5e then
    let narrow := Char.ofNat (n - 0xfee0)
    if isForbidden narrow then none else some [narrow.toLower]
  else if n == 0x1e9e then some ['s', 's']
  else if Text.isBlank c || (Text.isHidden c && !isMark c) then none
  else some (Text.lowerForm c)

/-- The forms of all characters. -/
def form (cs : List Char) : Option (List Char) := (cs.mapM form?).map List.flatten

/-- Whether a label beyond ASCII may stand in a name: it does not start with a mark. -/
def isLabel (label : List Char) : Bool := !label.head?.any isMark

/-- What a written label starts with. -/
def marker : List Char := ['x', 'n', '-', '-']

/-- A label in ASCII. -/
def label? (label : List Char) : Option (List Char) :=
  if label.all fun c => c.toNat < 0x80 then
    if marker.isPrefixOf label then
      match Punycode.decode? (label.drop marker.length) with
      | none => none
      | some read =>
        if (read.all fun c => c.toNat < 0x80) || form read != some read || !isLabel read then none
        else some label
    else some label
  else if isLabel label then some (marker ++ Punycode.encode label)
  else none

/-- The name in ASCII; `none` if it is no domain name. -/
def ascii? (name : List Char) : Option (List Char) := do
  let labels ← (Text.cutWhere (· == '.') (← form name)).mapM label?
  return List.intercalate ['.'] labels

end UiSkeleton.Domain
