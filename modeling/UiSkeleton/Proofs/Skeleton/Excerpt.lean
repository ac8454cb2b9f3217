/-
What a chain contains is reported for the whole source. A chain is a part of its source, and a rule
that detects a construct in a part detects it in the whole. A color is only read where no word goes
on, which a cut could change; but a chain starts with another text, so the character before a color
is the same in both.
-/
import UiSkeleton.Proofs.Catalog.ColorCall
import UiSkeleton.Proofs.Skeleton.ColorConstant
import UiSkeleton.Proofs.Skeleton.FeatureBlocks

namespace UiSkeleton

namespace Catalog

/-! ## Parts of a source -/

variable {part source : String}

theorem features_of_infix (h : part.toList <:+: source.toList) :
    ∀ id ∈ (builtin.analyze part).features, id ∈ (builtin.analyze source).features := by
  intro id hid
  obtain ⟨construct, hconstruct, hoccurs⟩ := mem_features_iff.1 hid
  exact mem_features_iff.2 ⟨construct, hconstruct, hoccurs.mono h⟩

theorem warnings_of_infix (h : part.toList <:+: source.toList) :
    ∀ message ∈ (builtin.analyze part).warnings, message ∈ (builtin.analyze source).warnings := by
  intro message hmessage
  obtain ⟨rule, hfired, rfl⟩ := mem_warnings_iff.1 hmessage
  obtain ⟨hrule, hid⟩ := mem_firedFeatures_iff.1 hfired
  exact mem_warnings_iff.2 ⟨rule, mem_firedFeatures_iff.2 ⟨hrule, features_of_infix h _ hid⟩, rfl⟩

/-! ## Chains -/

variable {chain : String}

theorem infix_of_mem_divChains (h : chain ∈ (builtin.analyze source).divChains) :
    chain.toList <:+: source.toList := by
  rw [divChains_analyze] at h
  obtain ⟨found, hfound, rfl⟩ := List.mem_map.1 h
  rw [String.toList_ofList]
  exact infix_of_mem_divChainsOf hfound

theorem colors_of_mem_divChains (h : chain ∈ (builtin.analyze source).divChains) :
    ∀ token ∈ (builtin.analyze chain).colors, token ∈ (builtin.analyze source).colors := by
  intro token htoken
  cases token with
  | hex digits =>
    obtain ⟨d, hstands, hdigits⟩ := hex_mem_colors_iff.1 htoken
    exact hex_mem_colors_iff.2 ⟨d, stands_of_stands_chain h (by decide) hstands, hdigits⟩
  | named color => exact named_mem_colors_iff.2 (stands_of_mem_divChains h (named_mem_colors_iff.1 htoken))

/-- No color of a source breaks a line. -/
theorem onOneLine_of_mem_colors {token : ColorToken} (h : token ∈ (builtin.analyze source).colors) :
    token.OnOneLine := by
  cases token with
  | hex digits => exact fun hnewline => absurd (isHexDigit_of_mem_colors h _ hnewline) (by decide)
  | named color => cases color <;> decide

end Catalog

namespace ZapUi

open Catalog

/-- **What a chain contains is reported for its source**: `colors`, `features` and `warnings` of one
of its `divChains` are among its own, and its skeleton has the `colorConstant` of each of these
colors in a line. -/
theorem chain_reported {source chain : String} (name font : String)
    (hchain : chain ∈ (builtin.analyze source).divChains) :
    (∀ token ∈ (builtin.analyze chain).colors, token ∈ (builtin.analyze source).colors) ∧
    (∀ id ∈ (builtin.analyze chain).features, id ∈ (builtin.analyze source).features) ∧
    (∀ message ∈ (builtin.analyze chain).warnings, message ∈ (builtin.analyze source).warnings) ∧
    ∃ document, (generatorFor font).generate name source (analysisOf name source) = .ok document ∧
      ∀ token ∈ (builtin.analyze chain).colors,
        (colorConstant token).toList ∈ document.content.toList.splitOn '\n' ∧
          (token.value?.isSome → ("const " ++ token.constantName ++ " = ").toList <+:
            (colorConstant token).toList) := by
  have hinfix := infix_of_mem_divChains hchain
  have hcolors := colors_of_mem_divChains hchain
  refine ⟨hcolors, features_of_infix hinfix, warnings_of_infix hinfix, _, generate_eq .., ?_⟩
  intro token htoken
  have hsource : token ∈ (analysisOf name source).colors := hcolors token htoken
  refine ⟨?_, fun hvalue => ?_⟩
  · rw [String.toList_ofList]
    exact mem_lines_of_mem_colors hsource (onOneLine_of_mem_colors htoken)
  · obtain ⟨value, hvalue⟩ := Option.isSome_iff_exists.1 hvalue
    exact declaration_isPrefix hvalue

/-- A chain with a named color and a feature, in a source with a literal outside the chain. -/
theorem chain_reported_red :
    (∀ token ∈ (builtin.analyze "div().bg(gpui::red()).on_click(f)").colors,
      token ∈ (builtin.analyze "rgb(0xfff000); div().bg(gpui::red()).on_click(f) ;").colors) ∧
    (∀ id ∈ (builtin.analyze "div().bg(gpui::red()).on_click(f)").features,
      id ∈ (builtin.analyze "rgb(0xfff000); div().bg(gpui::red()).on_click(f) ;").features) ∧
    (∀ message ∈ (builtin.analyze "div().bg(gpui::red()).on_click(f)").warnings,
      message ∈ (builtin.analyze "rgb(0xfff000); div().bg(gpui::red()).on_click(f) ;").warnings) ∧
    ∃ document, (generatorFor "f.ttf").generate "a" "rgb(0xfff000); div().bg(gpui::red()).on_click(f) ;"
        (analysisOf "a" "rgb(0xfff000); div().bg(gpui::red()).on_click(f) ;") = .ok document ∧
      ∀ token ∈ (builtin.analyze "div().bg(gpui::red()).on_click(f)").colors,
        (colorConstant token).toList ∈ document.content.toList.splitOn '\n' ∧
          (token.value?.isSome → ("const " ++ token.constantName ++ " = ").toList <+:
            (colorConstant token).toList) :=
  chain_reported "a" "f.ttf" (by decide +kernel)

end ZapUi
end UiSkeleton
