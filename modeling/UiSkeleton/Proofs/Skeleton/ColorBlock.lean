/-
The colors that a skeleton declares, against the names that its chains are left with. Two rules make
a call a bare name: one for the calls of the named colors, and one for any call that is the argument
of a method for colors. What either makes of a named color is declared; the second one takes other
names as well, and these no skeleton declares.
-/
import UiSkeleton.Proofs.Catalog.ColorCall
import UiSkeleton.Proofs.Skeleton.ColorConstant

namespace UiSkeleton

/-- The skeleton has a line that declares the color by its name. -/
def SkeletonDocument.Declares (d : SkeletonDocument) (color : NamedColor) : Prop :=
  ∃ line ∈ d.content.toList.splitOn '\n', ("const " ++ color.name ++ " = ").toList <+: line

namespace ZapUi

open Catalog (namedCall)

/-- A skeleton `Declares` the named colors of its source. -/
theorem declares_of_mem_colors {name font source : String} {a : Analysis} {color : NamedColor}
    (h : .named color ∈ a.colors) :
    SkeletonDocument.Declares
      ⟨name, "zig", String.ofList (zapTemplate.fill .raw ((generatorFor font).data name source a))⟩
        color := by
  have hline : (ColorToken.named color).OnOneLine := by
    cases color <;> decide
  have hdeclares := declaration_isPrefix (value?_named color)
  rw [ColorToken.constantName] at hdeclares
  refine ⟨(colorConstant (.named color)).toList, ?_, hdeclares⟩
  rw [String.toList_ofList]
  exact mem_lines_of_mem_colors h hline

/-- **What a conversion leaves of the calls of named colors is declared**, if the rule `named_color`
leaves it. The rule `named_color_arg` takes any word for a name, and only those of a `NamedColor`
are declared. -/
theorem declares_of_replacements {source chain : String} (name font : String)
    (hchain : chain ∈ (Catalog.builtin.analyze source).divChains) :
    ∃ document, (generatorFor font).generate name source (Catalog.builtin.analyze source) = .ok document ∧
      (∀ call bare, (call, bare) ∈ Catalog.builtin.replacements "named_color" chain.toList →
        ∃ color : NamedColor, call = namedCall color.name.toList ∧ bare = color.name.toList ∧
          .named color ∈ (Catalog.builtin.analyze source).colors ∧ document.Declares color) ∧
      ∀ call bare, (call, bare) ∈ Catalog.builtin.replacements "named_color_arg" chain.toList →
        ∃ method ∈ Catalog.colorMethods, ∃ called,
          call = '.' :: (method ++ "(".toList ++ namedCall called ++ ")".toList) ∧
          bare = '.' :: (method ++ "(".toList ++ called ++ ")".toList) ∧
          ∀ color : NamedColor, color.name.toList = called →
            .named color ∈ (Catalog.builtin.analyze source).colors ∧ document.Declares color := by
  refine ⟨_, generate_eq .., fun call bare h => ?_, fun call bare h => ?_⟩
  · obtain ⟨color, rfl, rfl, hstands⟩ := Catalog.replacements_named_color h
    have hcolor : .named color ∈ (Catalog.builtin.analyze source).colors :=
      Catalog.named_mem_colors_iff.2 (Catalog.stands_of_mem_divChains hchain hstands)
    exact ⟨color, rfl, rfl, hcolor, declares_of_mem_colors hcolor⟩
  · obtain ⟨method, hmethod, called, rfl, rfl, hstands⟩ := Catalog.replacements_named_color_arg h
    refine ⟨method, hmethod, called, rfl, rfl, ?_⟩
    rintro color rfl
    have hcolor : .named color ∈ (Catalog.builtin.analyze source).colors :=
      Catalog.named_mem_colors_iff.2 (Catalog.stands_of_mem_divChains hchain hstands)
    exact ⟨hcolor, declares_of_mem_colors hcolor⟩

/-- A chain with a call that the first rule takes and one that is left to the second. -/
theorem declares_of_replacements_red : ∃ document,
    (generatorFor "f.ttf").generate "a" "div().bg(gpui::red()).on(gpui::blue())"
        (Catalog.builtin.analyze "div().bg(gpui::red()).on(gpui::blue())") = .ok document ∧
      (∀ call bare, (call, bare) ∈
          Catalog.builtin.replacements "named_color" "div().bg(gpui::red()).on(gpui::blue())".toList →
        ∃ color : NamedColor, call = namedCall color.name.toList ∧ bare = color.name.toList ∧
          .named color ∈ (Catalog.builtin.analyze "div().bg(gpui::red()).on(gpui::blue())").colors ∧
          document.Declares color) ∧
      ∀ call bare, (call, bare) ∈
          Catalog.builtin.replacements "named_color_arg" "div().bg(gpui::red()).on(gpui::blue())".toList →
        ∃ method ∈ Catalog.colorMethods, ∃ called,
          call = '.' :: (method ++ "(".toList ++ namedCall called ++ ")".toList) ∧
          bare = '.' :: (method ++ "(".toList ++ called ++ ")".toList) ∧
          ∀ color : NamedColor, color.name.toList = called →
            .named color ∈ (Catalog.builtin.analyze "div().bg(gpui::red()).on(gpui::blue())").colors ∧
              document.Declares color :=
  declares_of_replacements "a" "f.ttf" (by decide +kernel)

/-- The rule for arguments takes the call of a name that is no named color, and no color has this
name. -/
theorem purple_not_in_colors :
    "div().bg(gpui::purple())" ∈ (Catalog.builtin.analyze "div().bg(gpui::purple())").divChains ∧
      (".bg(gpui::purple())".toList, ".bg(purple)".toList) ∈
        Catalog.builtin.replacements "named_color_arg" "div().bg(gpui::purple())".toList ∧
      Catalog.builtin.convert "div().bg(gpui::purple())".toList = "div().bg(purple)".toList ∧
      ∀ token ∈ (Catalog.builtin.analyze "div().bg(gpui::purple())").colors.toList,
        token.text ≠ "purple" := by
  refine ⟨by decide +kernel, ?_, ?_, by decide +kernel⟩
  · rw [Catalog.replacements, Catalog.received, Catalog.conversions_builtin]
    decide +kernel
  · rw [Catalog.convert_eq_foldl_filter]
    decide +kernel

end ZapUi
end UiSkeleton
