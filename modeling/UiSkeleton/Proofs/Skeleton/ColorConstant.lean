/-
The constants of a skeleton for the colors of its source. A color with a value is declared under its
name, digits that are not six leave a comment in the place of the declaration, and either is one
line of the skeleton, since no text of a color breaks a line.
-/
import UiSkeleton.Proofs.Skeleton.Data
import UiSkeleton.Proofs.Template.Rows
import UiSkeleton.Proofs.Text.Ascii

namespace UiSkeleton

/-- The name under which a skeleton declares a color. -/
def ColorToken.constantName : ColorToken → String
  | .hex digits => "color_" ++ digits
  | .named color => color.name

/-- No text of the token breaks a line. -/
abbrev ColorToken.OnOneLine (token : ColorToken) : Prop := '\n' ∉ token.text.toList

namespace ZapUi

open SkeletonTarget (joinLines orElse)

/-! ## The text of a constant -/

theorem newline_not_mem_toString (n : Nat) : '\n' ∉ (toString n).toList := by
  rw [Nat.toString_eq_repr, Nat.toList_repr]
  exact Text.not_mem_toDigits (by decide) n

theorem newline_not_mem_threePlaces (n : Nat) : '\n' ∉ (threePlaces n).toList := by
  simp only [threePlaces, String.toList_append, String.toList_ofList, List.mem_append, not_or]
  exact ⟨⟨newline_not_mem_toString _, by decide⟩, by simp, Text.not_mem_toDigits (by decide) _⟩

theorem newline_not_mem_onePlace (n : Nat) : '\n' ∉ (onePlace n).toList := by
  simp only [onePlace, String.toList_append, List.mem_append, not_or]
  exact ⟨⟨newline_not_mem_toString _, by decide⟩, newline_not_mem_toString _⟩

theorem newline_not_mem_call {function : String} (h : '\n' ∉ function.toList) (channels : List Nat)
    (alpha : Nat) : '\n' ∉ (expression.call function channels alpha).toList := by
  have hplaces : ∀ place ∈ channels.map threePlaces ++ [onePlace alpha], '\n' ∉ place.toList := by
    intro place hplace
    rcases List.mem_append.1 hplace with hplace | hplace
    · obtain ⟨channel, -, rfl⟩ := List.mem_map.1 hplace
      exact newline_not_mem_threePlaces channel
    · obtain rfl := List.mem_singleton.1 hplace
      exact newline_not_mem_onePlace alpha
  have hjoined : '\n' ∉ (", ".intercalate (channels.map threePlaces ++ [onePlace alpha])).toList := by
    rw [String.toList_intercalate]
    intro hmem
    rcases Text.mem_intercalate hmem with hcomma | ⟨part, hpart, hc⟩
    · exact absurd hcomma (by decide)
    · obtain ⟨place, hplace, rfl⟩ := List.mem_map.1 hpart
      exact hplaces place hplace hc
  simp only [expression.call, String.toList_append, List.mem_append, not_or]
  exact ⟨⟨⟨⟨by decide, h⟩, by decide⟩, hjoined⟩, by decide⟩

theorem newline_not_mem_expression (value : ColorValue) : '\n' ∉ (expression value).toList := by
  cases value with
  | rgba => exact newline_not_mem_call (by decide) _ _
  | hsla => exact newline_not_mem_call (by decide) _ _

theorem value?_named (color : NamedColor) : (ColorToken.named color).value? = some color.value := rfl

theorem colorConstant_of_value {token : ColorToken} {value : ColorValue} (h : token.value? = some value) :
    ∃ remark : String, (token.OnOneLine → '\n' ∉ remark.toList) ∧
      colorConstant token = "const " ++ token.constantName ++ " = " ++ expression value ++ remark := by
  cases token with
  | named color =>
    refine ⟨";  // GPUI's " ++ color.name ++ "()", fun hline => ?_, ?_⟩
    · simp only [String.toList_append, List.mem_append, not_or]
      exact ⟨⟨by decide, hline⟩, by decide⟩
    · obtain rfl := Option.some.inj h
      simp only [colorConstant, value?_named, ColorToken.constantName, String.append_assoc]
  | hex digits =>
    refine ⟨";  // rgb(0x" ++ digits ++ ")", fun hline => ?_, ?_⟩
    · simp only [String.toList_append, List.mem_append, not_or]
      exact ⟨⟨by decide, hline⟩, by decide⟩
    · simp only [colorConstant, h, ColorToken.constantName, String.append_assoc]
      rfl

/-- Digits that are no color leave a comment. -/
theorem colorConstant_of_none {token : ColorToken} (h : token.value? = none) : colorConstant token =
    "// const color_" ++ token.text ++ " = zapui.rgba(?, ?, ?, 1.0);  // TODO: rgb(0x" ++ token.text ++
      ") is not a six-digit hex color" := by
  cases token with
  | named color => cases h
  | hex digits => simp only [colorConstant, h]

theorem newline_not_mem_colorConstant {token : ColorToken} (h : token.OnOneLine) :
    '\n' ∉ (colorConstant token).toList := by
  cases hvalue : token.value? with
  | none =>
    rw [colorConstant_of_none hvalue]
    simp only [String.toList_append, List.mem_append, not_or]
    exact ⟨⟨⟨⟨by decide, h⟩, by decide⟩, h⟩, by decide⟩
  | some value =>
    obtain ⟨remark, hremark, heq⟩ := colorConstant_of_value hvalue
    have hname : '\n' ∉ token.constantName.toList := by
      cases token with
      | named color => exact h
      | hex digits =>
        rw [ColorToken.constantName, String.toList_append, List.mem_append, not_or]
        exact ⟨by decide, h⟩
    simp only [heq, String.toList_append, List.mem_append, not_or]
    exact ⟨⟨⟨⟨by decide, hname⟩, by decide⟩, newline_not_mem_expression value⟩, hremark h⟩

theorem declaration_isPrefix {token : ColorToken} {value : ColorValue} (h : token.value? = some value) :
    ("const " ++ token.constantName ++ " = ").toList <+: (colorConstant token).toList := by
  obtain ⟨remark, -, heq⟩ := colorConstant_of_value h
  refine ⟨(expression value ++ remark).toList, ?_⟩
  simp only [heq, String.toList_append, List.append_assoc]

/-! ## Its place in the skeleton -/

theorem mem_rows_colors : Template.slotRow "colors" ∈ zapTemplate.rows := by
  rw [Template.Spelled.eq (t := zapTemplate) ?spelled]
  case spelled => repeat constructor
  decide

/-- A skeleton has the `colorConstant` of each of its colors in a line of its own. -/
theorem mem_lines_of_mem_colors {name font source : String} {a : Analysis} {token : ColorToken}
    (h : token ∈ a.colors)
    (hline : token.OnOneLine) : (colorConstant token).toList ∈
      (zapTemplate.fill .raw ((generatorFor font).data name source a)).splitOn '\n' := by
  have hrow : (Template.slotRow "colors").fill .raw ((generatorFor font).data name source a) =
      (joinLines (target.colorLines a)).toList :=
    (Template.fill_slotRow (child?_data name source (generatorFor font) a "colors")).trans
      (JsonValue.display_string _)
  have hmem : colorConstant token ∈ a.colors.toList.map target.colorConstant := List.mem_map.2 ⟨_, h, rfl⟩
  have hlines : colorConstant token ∈ target.colorLines a := by
    rw [SkeletonTarget.colorLines, orElse, if_neg]
    · exact hmem
    · rw [List.isEmpty_iff]
      exact List.ne_nil_of_mem hmem
  obtain ⟨before, after, hsplit⟩ := Template.splitOn_fill_of_mem mem_rows_colors
  rw [hsplit, hrow]
  refine List.mem_append_left _ (List.mem_append_right _ ?_)
  exact mem_splitOn_joinLines hlines (newline_not_mem_colorConstant hline)

end ZapUi
end UiSkeleton
