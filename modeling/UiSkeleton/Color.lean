/-
Colors of a source. A token is what the source says: the digits of a color literal, or one of six
names. Tokens are ordered by their text first and by their kind second, which makes the order agree
with equality even for digits that spell a name. A token's value is counted in thousandths.
-/
import UiSkeleton.Text.Case
import UiSkeleton.Number.Binary64
import UiSkeleton.SortedSet

namespace UiSkeleton

/-- The colors that a source can call by name. -/
inductive NamedColor where
  | red
  | green
  | blue
  | yellow
  | black
  | white
  deriving DecidableEq, Repr

/-- The value of a color; every channel is counted in thousandths. -/
inductive ColorValue where
  /-- Red, green, blue and opacity. -/
  | rgba (red green blue alpha : Nat)
  /-- Hue, saturation, lightness and opacity. -/
  | hsla (hue saturation lightness alpha : Nat)
  deriving DecidableEq, Repr

namespace NamedColor

/-- All named colors. -/
def all : List NamedColor := [.red, .green, .blue, .yellow, .black, .white]

/-- The name of a color. -/
def name : NamedColor → String
  | .red => "red"
  | .green => "green"
  | .blue => "blue"
  | .yellow => "yellow"
  | .black => "black"
  | .white => "white"

/-- The color with a name. -/
def ofName? (name : String) : Option NamedColor := all.find? (·.name == name)

/-- The value of a color. Green is given by its hue, at a quarter of the lightness. -/
def value : NamedColor → ColorValue
  | .red => .rgba 1000 0 0 1000
  | .green => .hsla 333 1000 250 1000
  | .blue => .rgba 0 0 1000 1000
  | .yellow => .rgba 1000 1000 0 1000
  | .black => .rgba 0 0 0 1000
  | .white => .rgba 1000 1000 1000 1000

theorem name_injective {a b : NamedColor} (h : a.name = b.name) : a = b := by
  cases a <;> cases b <;> first | rfl | simp [name] at h

end NamedColor

/-- The thousandths nearest to `byte / 255`. -/
def channelOfByte (byte : Nat) : Nat := divNearestUp (1000 * byte) 255

/-- The channel written by two digits of base sixteen. -/
def channelOfDigits (high low : Char) : Nat :=
  channelOfByte (16 * Text.hexValue high + Text.hexValue low)

/-- Red, green and blue of exactly six digits of base sixteen, in thousandths. -/
def hexChannels? (digits : String) : Option (Nat × Nat × Nat) :=
  match digits.toList with
  | [r, r', g, g', b, b'] =>
    if [r, r', g, g', b, b'].all Text.isHexDigit then
      some (channelOfDigits r r', channelOfDigits g g', channelOfDigits b b')
    else none
  | _ => none

/-- A color as a source refers to it. -/
inductive ColorToken where
  /-- The digits of a color literal. -/
  | hex (digits : String)
  /-- A color by its name. -/
  | named (color : NamedColor)
  deriving DecidableEq, Repr

namespace ColorToken

/-- The token of a color literal; its digits are kept in lowercase. -/
def ofDigits (digits : List Char) : ColorToken := .hex (String.ofList (Text.lowerAscii digits))

/-- The token of a name, if it is one of the known names. -/
def ofName? (name : String) : Option ColorToken := (NamedColor.ofName? name).map .named

/-- The text of a token: its digits or its name. -/
def text : ColorToken → String
  | .hex digits => digits
  | .named color => color.name

/-- Whether the token is a name. -/
def isNamed : ColorToken → Bool
  | .hex _ => false
  | .named _ => true

/-- The value of a token; digits have one only if there are exactly six. -/
def value? : ColorToken → Option ColorValue
  | .hex digits => (hexChannels? digits).map fun (r, g, b) => .rgba r g b 1000
  | .named color => some color.value

instance : Ord ColorToken := ⟨compareLex (compareOn text) (compareOn isNamed)⟩

theorem compare_eq (a b : ColorToken) :
    compare a b = (compare a.text b.text).then (compare a.isNamed b.isNamed) := rfl

instance : Std.TransOrd ColorToken :=
  inferInstanceAs (Std.TransCmp (compareLex (compareOn text) (compareOn isNamed)))

instance : Std.LawfulEqOrd ColorToken where
  eq_of_compare {a b} h := by
    rw [compare_eq, Ordering.then_eq_eq] at h
    have ht : a.text = b.text := Std.LawfulEqOrd.eq_of_compare h.1
    have hk : a.isNamed = b.isNamed := Std.LawfulEqOrd.eq_of_compare h.2
    cases a <;> cases b
    · exact congrArg hex ht
    · cases hk
    · cases hk
    · exact congrArg named (NamedColor.name_injective ht)

end ColorToken
end UiSkeleton
