/-
The block of colors, line by line. The digits of a literal never spell the name of a color, so no
two colors of a source have the same text, and the block lists them in strictly ascending order of
their texts. A color by its name and six digits are declared; any other digits leave a comment, so
nothing is declared that is no color.
-/
import Mathlib.Order.Compare
import UiSkeleton.Proofs.Number.Channel
import UiSkeleton.Proofs.Skeleton.Block
import UiSkeleton.Proofs.Skeleton.Declarations

namespace UiSkeleton

namespace Catalog

/-! ## The texts of colors -/

variable {source : String} {a b : ColorToken}

/-- No digits spell the name of a `NamedColor`: each has a letter that is no digit. -/
theorem name_ne_of_isHexDigit {digits : String} (h : ∀ c ∈ digits.toList, Text.isHexDigit c = true)
    (color : NamedColor) : color.name ≠ digits := by
  have hother : ∀ color : NamedColor, color.name.toList.any (fun c => !Text.isHexDigit c) = true :=
    fun color => by
    cases color <;> decide
  rintro rfl
  obtain ⟨c, hc, hdigit⟩ := List.any_eq_true.1 (hother color)
  rw [h c hc] at hdigit
  cases hdigit

theorem text_inj_of_mem_colors (ha : a ∈ (builtin.analyze source).colors)
    (hb : b ∈ (builtin.analyze source).colors)
    (h : a.text = b.text) : a = b := by
  cases a with
  | hex digits =>
    cases b with
    | hex digits' => exact congrArg _ h
    | named color => exact absurd h.symm (name_ne_of_isHexDigit (isHexDigit_of_mem_colors ha) color)
  | named color =>
    cases b with
    | hex digits => exact absurd h (name_ne_of_isHexDigit (isHexDigit_of_mem_colors hb) color)
    | named color' => exact congrArg _ (NamedColor.name_injective h)

/-- The `colors` of a source ascend by their texts. -/
theorem colors_pairwise (source : String) :
    (builtin.analyze source).colors.toList.Pairwise fun a b => a.text < b.text := by
  refine List.Pairwise.imp_of_mem (fun {a b} ha hb hlt => ?_) (builtin.analyze source).colors.ascending
  rw [ColorToken.compare_eq, Ordering.then_eq_lt] at hlt
  rcases hlt with hlt | ⟨heq, hkind⟩
  · exact compareOfLessAndEq_eq_lt.1 hlt
  · -- colors of one text are one color, which does not come before itself
    obtain rfl := text_inj_of_mem_colors ha hb (Std.LawfulEqOrd.eq_of_compare heq)
    simp at hkind

end Catalog

namespace ZapUi

open SkeletonTarget (joinLines orElse)

/-! ## The lines -/

/-- What the line of a color has to be: a declaration, or a comment for digits that are not six. -/
def IsLineOf (line : String) : ColorToken → Prop
  | .named color => declared? line.toList = some color.name.toList
  | .hex digits =>
    if digits.toList.length = 6 then
      declared? line.toList = some ("color_" ++ digits).toList ∧ ∃ red green blue,
        hexChannels? digits = some (red, green, blue) ∧
        line = "const color_" ++ digits ++ " = zapui.rgba(" ++ threePlaces red ++ ", " ++
          threePlaces green ++ ", " ++
          threePlaces blue ++ ", 1.0);  // rgb(0x" ++ digits ++ ")"
    else "//".toList <+: line.toList

theorem expression_opaqueColor (red green blue : Nat) : expression (.rgba red green blue 1000) =
    "zapui.rgba(" ++ threePlaces red ++ ", " ++ threePlaces green ++ ", " ++ threePlaces blue ++
      ", 1.0)" := by
  have hone : onePlace 1000 = "1.0" := by decide +kernel
  rw [expression, expression.call, ← String.toList_inj]
  simp [hone, String.toList_append]

variable {source : String} {token : ColorToken}

theorem isLineOf_colorConstant (h : token ∈ (Catalog.builtin.analyze source).colors) :
    IsLineOf (colorConstant token) token := by
  have hdeclared := declared?_colorConstant h
  cases token with
  | named color => exact hdeclared
  | hex digits =>
    have hdigits := Catalog.isHexDigit_of_mem_colors h
    rw [IsLineOf]
    split
    · rename_i hsix
      obtain ⟨⟨red, green, blue⟩, hchannels⟩ :=
        Option.isSome_iff_exists.1 (isSome_hexChannels?_iff.2 ⟨hsix, hdigits⟩)
      have hvalue : (ColorToken.hex digits).value? = some (.rgba red green blue 1000) := by
        rw [ColorToken.value?, hchannels]
        rfl
      rw [hvalue] at hdeclared
      refine ⟨hdeclared, red, green, blue, hchannels, ?_⟩
      simp only [colorConstant, hvalue, expression_opaqueColor, ← String.toList_inj]
      simp [String.toList_append]
    · rename_i hother
      have hnone : hexChannels? digits = none := by
        rw [← Option.not_isSome_iff_eq_none, isSome_hexChannels?_iff]
        exact fun hsix => hother hsix.1
      have hvalue : (ColorToken.hex digits).value? = none := by
        rw [ColorToken.value?, hnone]
        rfl
      rw [colorConstant_of_none hvalue]
      simp only [String.toList_append, List.append_assoc]
      exact (show "//".toList <+: "// const color_".toList by decide).trans (List.prefix_append _ _)

/-! ## The block -/

/-- The title of the colors. -/
def colorsTitle : List String := [ruler, "// Colors extracted from GPUI example", ruler, ""]

theorem rows_colors : blockRows colorsTitle "colors" <:+: zapTemplate.rows := by
  rw [Template.Spelled.eq (t := zapTemplate) ?spelled]
  case spelled => repeat constructor
  decide

theorem splitOn_colorLines (source : String) :
    (joinLines (target.colorLines (Catalog.builtin.analyze source))).toList.splitOn '\n' =
      (target.colorLines (Catalog.builtin.analyze source)).map String.toList := by
  rw [SkeletonTarget.colorLines]
  refine splitOn_joinLines orElse_ne_nil (forall_mem_orElse (fun line hline => ?_) (by decide))
  obtain ⟨token, htoken, rfl⟩ := List.mem_map.1 hline
  exact newline_not_mem_colorConstant (Catalog.onOneLine_of_mem_colors htoken)

/-- **The block of colors has one line for each of the `colors`**, ascending by `ColorToken.text`,
or one comment if there are none. `IsLineOf` says what the line is; no name is declared twice. -/
theorem colorLines_generate (name font source : String) :
    let colors := (Catalog.builtin.analyze source).colors
    let lines := orElse (colors.toList.map colorConstant) "// No colors extracted"
    (∃ document, (generatorFor font).generate name source (Catalog.builtin.analyze source) = .ok document ∧
      document.HasBlock colorsTitle (lines.map String.toList)) ∧
    colors.toList.Pairwise (fun a b => a.text < b.text) ∧
    (∀ token ∈ colors, IsLineOf (colorConstant token) token) ∧
    (lines.filterMap fun line => declared? line.toList).Nodup := by
  intro colors lines
  refine ⟨?_, Catalog.colors_pairwise source, fun token => isLineOf_colorConstant, ?_⟩
  · have hblock := child?_data name source (generatorFor font) (Catalog.builtin.analyze source) "colors"
    obtain ⟨document, hdocument, hhas⟩ := hasBlock_generate rows_colors (by decide +kernel) hblock
    exact ⟨document, hdocument, splitOn_colorLines source ▸ hhas⟩
  · have hcolors : (analysisOf name source).colors = colors := rfl
    have hnodup := nodup_colorNamesOf (analysisOf name source)
    rw [← declarations_colorLines name, declarations, SkeletonTarget.colorLines, hcolors,
      ← SkeletonTarget.colorLines, splitOn_colorLines, List.filterMap_map] at hnodup
    exact hnodup

end ZapUi
end UiSkeleton
