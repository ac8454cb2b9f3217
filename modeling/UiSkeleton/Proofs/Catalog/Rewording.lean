/-
What the built-in conversion rules put in place of what they find, without a look at their patterns.
Four rules reword a call, each in its own way (`Rewords`), and the other five put back what they
find. So a rule makes of a text the same text with some calls reworded, and what each rule keeps a
conversion keeps.
-/
import UiSkeleton.Proofs.Catalog.Construct
import UiSkeleton.Proofs.Catalog.Unchanged
import UiSkeleton.Proofs.Pattern.Rewritten

namespace UiSkeleton.Catalog

open Pattern

/-- The rule with the tag puts the second text in place of the first one. -/
inductive Rewords : (tag : String) → (old new : List Char) → Prop
  | literal {method digits} : method ∈ colorMethods → digits ≠ [] → (∀ c ∈ digits, Text.isHexDigit c = true) →
      Rewords "color_literal_arg" ('.' :: (method ++ ("(rgb(0x".toList ++ (digits ++ "))".toList))))
        ('.' :: (method ++ ("(zapui.rgb(0x".toList ++ (digits ++ "))".toList))))
  | argument {method name} : method ∈ colorMethods → name ≠ [] → (∀ c ∈ name, Text.isWord c = true) →
      Rewords "named_color_arg" ('.' :: (method ++ ("(gpui::".toList ++ (name ++ "())".toList))))
        ('.' :: (method ++ ("(".toList ++ (name ++ ")".toList))))
  | name {name} : name ∈ colorNames → Rewords "named_color" ("gpui::".toList ++ (name ++ "()".toList)) name
  | child {text} : text ≠ [] → '"' ∉ text →
      Rewords "string_child" (".child(\"".toList ++ (text ++ "\")".toList))
      (".child(div().child_text(\"".toList ++ (text ++ "\"))".toList))

theorem tags_changing : changing.map ConversionRule.tag =
    ["color_literal_arg", "named_color_arg", "named_color", "string_child"] := by
  decide

theorem reads_string_child : builtinConversions.all (fun rule => rule.tag != "string_child" ||
    (rule.matcher.pattern == Construct.stringChild.pattern &&
      rule.replacement == ".child(div().child_text(\"".toList.map .char ++ .number 1 ::
        "\"))".toList.map .char)) = true := by
  decide +kernel

/-- **What a rule of `changing` does with an occurrence is one of the `Rewords`.** -/
theorem rewords_of_found {rule : ConversionRule} (h : rule ∈ changing) {text : List Char} {o : Occurrence}
    (ho : .found o ∈ rule.matcher.pieces text) :
    Rewords rule.tag o.text (rule.replacement.expand rule.matcher.names o) := by
  have hmem : rule ∈ builtinConversions := (List.mem_filter.1 h).1
  have htag : rule.tag ∈ ["color_literal_arg", "named_color_arg", "named_color", "string_child"] := by
    rw [← tags_changing]
    exact List.mem_map.2 ⟨rule, h, rfl⟩
  obtain ⟨w, g⟩ := o
  obtain ⟨a, after, -, hmatches⟩ := exists_matches_of_mem_pieces ho
  simp only at hmatches ⊢
  simp only [List.mem_cons, List.not_mem_nil, or_false] at htag
  rcases htag with htag | htag | htag | htag
  · have he : editing.lookup rule.tag =
        some ⟨hexClass, "(rgb(0x".toList, "))".toList, "(zapui.rgb(0x".toList, "))".toList⟩ := by
      rw [htag]
      rfl
    obtain ⟨method, hmethod, digits, rfl, hne, hdigits, hreplaced⟩ :=
      (fits_of_lookup hmem he).2.exists_argument hmatches
    rw [hreplaced, htag]
    exact .literal hmethod hne hdigits
  · have he : editing.lookup rule.tag =
        some ⟨.word, "(gpui::".toList, "())".toList, "(".toList, ")".toList⟩ := by
      rw [htag]
      rfl
    obtain ⟨method, hmethod, name, rfl, hne, hname, hreplaced⟩ :=
      (fits_of_lookup hmem he).2.exists_argument hmatches
    rw [hreplaced, htag]
    exact .argument hmethod hne hname
  · have hreads := List.all_eq_true.1 rule_named_color rule hmem
    simp only [htag, bne_self_eq_false, Bool.false_or, Bool.and_eq_true, beq_iff_eq] at hreads
    rw [hreads.1, matches_namedColor] at hmatches
    obtain ⟨-, name, hname, rfl, rfl⟩ := hmatches
    have hexpand : Replacement.expand [.number 1] rule.matcher.names ⟨namedCall name, [(1, name)]⟩ =
        name := List.append_nil name
    rw [hreads.2, hexpand, htag, namedCall_eq]
    exact .name hname
  · have hreads := List.all_eq_true.1 reads_string_child rule hmem
    simp only [htag, bne_self_eq_false, Bool.false_or, Bool.and_eq_true, beq_iff_eq] at hreads
    rw [hreads.1, Construct.matches_stringChild] at hmatches
    obtain ⟨x, rfl, hne, hx, rfl⟩ := hmatches
    have hexpand : Replacement.expand (".child(div().child_text(\"".toList.map .char ++ .number 1 ::
        "\"))".toList.map .char)
        rule.matcher.names ⟨".child(\"".toList ++ (x ++ "\")".toList), [(1, x)]⟩ =
          ".child(div().child_text(\"".toList ++ (x ++ "\"))".toList) := rfl
    rw [hreads.2, hexpand, htag]
    exact .child hne hx

/-- **What a rule makes of a text** is the text `Rewritten` by the `Rewords` of its tag. -/
theorem rewritten_apply {rule : ConversionRule} (h : rule ∈ builtinConversions) (text : List Char) :
    Rewritten (Rewords rule.tag) text (rule.apply text) := by
  by_cases htag : restating.contains rule.tag = true
  · rw [apply_restating h htag]
    exact .refl text
  · have hchanging : rule ∈ changing := List.mem_filter.2 ⟨h, by simpa using htag⟩
    exact Matcher.rewritten_replaceAll fun o ho => rewords_of_found hchanging ho

end UiSkeleton.Catalog
