/-
What a conversion leaves unchanged. Five of the built-in rules put back what they find, so a
conversion is what the other four make of a text, one after the other (`convert_eq_changing`). Each
of these four searches for a text of its own, and a source that holds none of them is converted to
itself.
-/
import UiSkeleton.Proofs.Catalog.ColorCall
import UiSkeleton.Proofs.Pattern.Needle

namespace UiSkeleton.Catalog

/-- The conversion rule with a tag, the first one that is applied if there are several. -/
def conversion? (c : Catalog) (tag : String) : Option ConversionRule := c.conversions.find? (·.tag == tag)

/-- The rules that can change a text, in their order. -/
def changing : List ConversionRule := builtinConversions.filter fun rule => !restating.contains rule.tag

/-- What every construct that such a rule changes holds. -/
def needles : List (String × String) := [
  ("color_literal_arg", "(rgb(0x"),
  ("named_color_arg", "gpui::"),
  ("named_color", "gpui::"),
  ("string_child", ".child(\"")]

theorem holdsText_needles : changing.all (fun rule =>
    (needles.lookup rule.tag).any fun needle => rule.matcher.pattern.holdsText needle.toList) = true := by
  decide +kernel

/-- A rule of `changing` leaves a text without its needle as it is. -/
theorem apply_changing {rule : ConversionRule} (h : rule ∈ changing) {text : List Char}
    (htext : ∀ entry ∈ needles, ¬ entry.2.toList <:+: text) : rule.apply text = text := by
  obtain ⟨needle, hneedle, hholds⟩ := (Option.any_eq_true _ _).1 (List.all_eq_true.1 holdsText_needles rule h)
  have hmissing : ¬ needle.toList <:+: text := htext (rule.tag, needle) (Pattern.mem_of_lookup hneedle)
  exact Matcher.replaceAll_eq_of_needle hholds hmissing _

theorem foldl_apply_eq_self {rules : List ConversionRule} {text : List Char}
    (h : ∀ rule ∈ rules, rule.apply text = text) :
    rules.foldl (fun text rule => rule.apply text) text = text := by
  refine foldl_apply_induct (P := (· = text)) (fun rule hrule other hother => ?_) rfl
  rw [hother, h rule hrule]

theorem conversion?_changing :
    ["color_literal_arg", "named_color_arg", "named_color", "string_child"].mapM
      builtin.conversion? = some changing := by
  have hfind : builtin.conversion? = fun tag => builtinConversions.find? (·.tag == tag) := by
    funext tag
    rw [conversion?, conversions_builtin]
  rw [hfind]
  rfl

theorem conversion?_restating : restating.all (fun tag =>
    (builtinConversions.find? (·.tag == tag)).any fun rule => restating.contains rule.tag) = true := by
  decide

/-- **A conversion is what four of its rules make of a text**: the other five give every text back.
So `convert` leaves a text without `(rgb(0x`, `gpui::` and `.child("` as it is. -/
theorem convert_eq_changing :
    (∃ rules, ["color_literal_arg", "named_color_arg", "named_color", "string_child"].mapM
      builtin.conversion? = some rules ∧
      ∀ text, builtin.convert text = rules.foldl (fun text rule => rule.apply text) text) ∧
    (∀ tag ∈ ["pixel_arg", "numbered_call", "layout_call", "style_call", "div_call"],
      ∃ rule, builtin.conversion? tag = some rule ∧ ∀ text, rule.apply text = text) ∧
    ∀ text, (∀ needle ∈ ["(rgb(0x", "gpui::", ".child(\""], ¬ needle.toList <:+: text) →
      builtin.convert text = text := by
  refine ⟨⟨changing, conversion?_changing, convert_eq_foldl_filter⟩, fun tag htag => ?_, fun text htext => ?_⟩
  · have hrestating := List.all_eq_true.1 conversion?_restating tag htag
    obtain ⟨rule, hrule, hcontains⟩ := (Option.any_eq_true _ _).1 hrestating
    refine ⟨rule, ?_, apply_restating (List.mem_of_find?_eq_some hrule) hcontains⟩
    rw [conversion?, conversions_builtin, hrule]
  · rw [convert_eq_foldl_filter]
    refine foldl_apply_eq_self fun rule hrule => apply_changing hrule fun entry hentry => ?_
    have hneedles : ∀ entry ∈ needles, entry.2 ∈ ["(rgb(0x", "gpui::", ".child(\""] := by decide
    exact htext entry.2 (hneedles entry hentry)

/-- A chain with calls of all five rules that put back what they find, and a `px` that none of them
takes. -/
theorem convert_eq_changing_layout :
    (∀ needle ∈ ["(rgb(0x", "gpui::", ".child(\""],
      ¬ needle.toList <:+: "div().flex().p_4().shadow_lg().gap(px(8.0)).w(px()).child(div())".toList) ∧
    builtin.convert "div().flex().p_4().shadow_lg().gap(px(8.0)).w(px()).child(div())".toList =
      "div().flex().p_4().shadow_lg().gap(px(8.0)).w(px()).child(div())".toList := by
  have hneedles : ∀ needle ∈ ["(rgb(0x", "gpui::", ".child(\""],
      ¬ needle.toList <:+: "div().flex().p_4().shadow_lg().gap(px(8.0)).w(px()).child(div())".toList := by
    decide +kernel
  exact ⟨hneedles, convert_eq_changing.2.2 _ hneedles⟩

end UiSkeleton.Catalog
