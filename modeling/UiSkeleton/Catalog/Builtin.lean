/-
The built-in catalog: what a GPUI source may hold, and how builder chains read in ZapUI. Each
pattern is read while the library is built, so all of them are patterns.
-/
import UiSkeleton.Catalog.Basic

namespace UiSkeleton.Catalog

/-- The constructs that need work by hand. -/
def builtinFeatures : List FeatureRule := [
  { id := "click_handler"
    message := "Event handlers need manual implementation"
    todo := some ("implement click handlers manually " ++
      "(port each .on_click closure to a ZapUI callback)")
    matcher := .ofText "\\.on_click\\(" },
  { id := "mouse_handler"
    message := "Mouse events need manual implementation"
    todo := some "implement mouse event handlers manually (.on_mouse_* listeners)"
    matcher := .ofText "\\.on_mouse_" },
  { id := "format_child"
    message := "Format strings: use std.fmt.bufPrint"
    todo := some "build formatted child text with std.fmt.bufPrint"
    matcher := .ofText "\\.child\\([^)]*format!" },
  { id := "string_child"
    message := "String children: wrap with div().child_text()"
    todo := none
    matcher := .ofText "\\.child\\(\"([^\"]+)\"\\)" },
  { id := "render_trait"
    message := "Render trait: convert to render function"
    todo := none
    matcher := .ofText "impl Render" },
  { id := "entity_state"
    message := "Context/state: needs manual conversion"
    todo := some "move entity state created with cx.new() into fields of the view struct"
    matcher := .ofText "cx\\.new\\(" },
  { id := "conditional"
    message := "Conditional rendering: use if/else"
    todo := some "rewrite conditional rendering (.when) as if/else around the child"
    matcher := .ofText "\\.when\\(" },
  { id := "iterator_map"
    message := "Iterator mapping: use Zig for loop"
    todo := some "rewrite iterator mapping (.map) as a Zig for loop building children"
    matcher := .ofText "\\.map\\(" },
  { id := "uniform_list"
    message := "List virtualization: not yet implemented"
    todo := none
    matcher := .ofText "uniform_list" },
  { id := "canvas"
    message := "Canvas/custom painting: not yet implemented"
    todo := none
    matcher := .ofText "canvas\\(" },
  { id := "image"
    message := "Image loading: not yet implemented"
    todo := none
    matcher := .ofText "img\\(" },
  { id := "svg"
    message := "SVG rendering: not yet implemented"
    todo := none
    matcher := .ofText "svg\\(" },
  { id := "animation"
    message := "Animations: not yet implemented"
    todo := none
    matcher := .ofText "Animation" }]

/-- The mechanical changes of builder chains. -/
def builtinConversions : List ConversionRule := [
  { tag := "color_literal_arg"
    tier := .argument
    replacementText := ".$\x7b1\x7d(zapui.rgb(0x$\x7b2\x7d))"
    matcher := .ofText "\\.(bg|border_color|text_color)\\(rgb\\(0x([0-9a-fA-F]+)\\)\\)" },
  { tag := "named_color_arg"
    tier := .argument
    replacementText := ".$\x7b1\x7d($\x7b2\x7d)"
    matcher := .ofText "\\.(bg|border_color|text_color)\\(gpui::(\\w+)\\(\\)\\)" },
  { tag := "pixel_arg"
    tier := .argument
    replacementText := ".$\x7b1\x7d(px($\x7b2\x7d))"
    matcher := .ofText "\\.(gap|size|w|h|rounded)\\(px\\(([^)]+)\\)\\)" },
  { tag := "numbered_call"
    tier := .call
    replacementText := ".$\x7b1\x7d_$\x7b2\x7d()"
    matcher := .ofText "\\.(gap|size|border|p|px|py|m)_(\\d+)\\(\\)" },
  { tag := "layout_call"
    tier := .call
    replacementText := ".$\x7b1\x7d()"
    matcher := .ofText ("\\.(flex|flex_col|flex_row|w_full|h_full|justify_center|items_center" ++
      "|overflow_hidden)\\(\\)") },
  { tag := "style_call"
    tier := .call
    replacementText := ".$\x7b1\x7d()"
    matcher := .ofText ("\\.(shadow_lg|shadow_md|shadow_sm|border_dashed|rounded_md|rounded_lg" ++
      "|rounded_full|text_xl|text_lg|text_sm)\\(\\)") },
  { tag := "div_call"
    tier := .call
    replacementText := "div()"
    matcher := .ofText "\\bdiv\\(\\)" },
  { tag := "named_color"
    tier := .constant
    replacementText := "$\x7b1\x7d"
    matcher := .ofText "\\bgpui::(red|green|blue|yellow|black|white)\\(\\)" },
  { tag := "string_child"
    tier := .wrap
    replacementText := ".child(div().child_text(\"$\x7b1\x7d\"))"
    matcher := .ofText "\\.child\\(\"([^\"]+)\"\\)" }]

/-- The built-in patterns for facts about a source. -/
def builtinExtractors : Extractors where
  hexColor := .ofText "\\brgb\\(0x([0-9a-fA-F]+)\\)"
  namedColor := .ofText "\\bgpui::(red|green|blue|yellow|black|white)\\(\\)"
  windowSize := .ofText "\\bsize\\(\\s*px\\(([^()]*)\\)\\s*,\\s*px\\(([^()]*)\\)\\s*\\)"
  divChain := .ofText "\\bdiv\\(\\)[^;\x7b]+"

/-- The built-in catalog. -/
def builtin : Catalog := .ofRules builtinFeatures builtinConversions builtinExtractors

end UiSkeleton.Catalog
