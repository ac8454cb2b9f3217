/-
Targets of a skeleton: the names of a toolkit and its language, the file to fill in, and how a color
is declared there.
-/
import UiSkeleton.Color
import UiSkeleton.Skeleton.ZapTemplate

namespace UiSkeleton

/-- A toolkit that skeletons are made for. -/
structure SkeletonTarget where
  name : String
  /-- The extension of the files, without the point. -/
  extension : String
  /-- What starts a comment up to the end of the line. -/
  lineComment : String
  /-- The template of the whole file. -/
  template : Template
  /-- The template as it was written. -/
  templateText : String
  /-- The declaration of a color. -/
  colorConstant : ColorToken → String

/-! ZapUI with the OpenGL renderer, in Zig. -/
namespace ZapUi

/-- The expression for a color value. -/
def expression : ColorValue → String
  | .rgba r g b a => call "rgba" [r, g, b] a
  | .hsla h s l a => call "hsla" [h, s, l] a
where
  /-- A call with three places for the channels and one for the opacity. -/
  call (function : String) (channels : List Nat) (alpha : Nat) : String :=
    "zapui." ++ function ++ "(" ++
      ", ".intercalate (channels.map threePlaces ++ [onePlace alpha]) ++ ")"

/-- The declaration of a color. Digits that are not exactly six give a comment. -/
def colorConstant (token : ColorToken) : String :=
  match token, token.value? with
  | .named color, some value =>
    "const " ++ color.name ++ " = " ++ expression value ++ ";  // GPUI's " ++ color.name ++ "()"
  | .hex digits, some value =>
    "const color_" ++ digits ++ " = " ++ expression value ++ ";  // rgb(0x" ++ digits ++ ")"
  | token, none =>
    "// const color_" ++ token.text ++ " = zapui.rgba(?, ?, ?, 1.0);  // TODO: rgb(0x" ++
      token.text ++ ") is not a six-digit hex color"

/-- The target. -/
def target : SkeletonTarget where
  name := "zapui-gl"
  extension := "zig"
  lineComment := "//"
  template := zapTemplate
  templateText := String.ofList zapTemplate.source
  colorConstant := colorConstant

end ZapUi
end UiSkeleton
