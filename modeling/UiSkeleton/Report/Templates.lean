/-
The two forms of a comparison report, with the source and the skeleton side by side.
-/
import UiSkeleton.Template.Basic

namespace UiSkeleton

/-- The report as an HTML page. -/
def htmlReport : Template :=
  .lines ["<!DOCTYPE html>",
    "<html lang=\"en\">",
    "<head>",
    "<meta charset=\"utf-8\">",
    "<title>"] <|
  .slot (.ofKey "title") <|
  .lines [" - GPUI vs ZapUI</title>",
    "<style>",
    "body \x7b font-family: sans-serif; margin: 2em; background: #fafafa; color: #222; \x7d",
    ".columns \x7b display: flex; gap: 1em; \x7d",
    ".columns > section \x7b flex: 1; min-width: 0; \x7d",
    "pre \x7b background: #1a1a1a; color: #e0e0e0; padding: 1em; overflow-x: auto; font-size: 12px; \x7d",
    "img \x7b max-width: 100%; border: 1px solid #ccc; \x7d",
    "th \x7b text-align: left; padding-right: 1em; \x7d",
    "</style>",
    "</head>",
    "<body>",
    "<h1>"] <|
  .slot (.ofKey "title") <|
  .lines ["</h1>",
    "",
    "<h2>Summary</h2>",
    "<table>",
    "<tr><th>Rust lines</th><td>"] <|
  .slot (.ofKey "source_lines") <|
  .lines ["</td></tr>",
    "<tr><th>Skeleton lines</th><td>"] <|
  .slot (.ofKey "skeleton_lines") <|
  .lines ["</td></tr>",
    "<tr><th>Colors</th><td>"] <|
  .slot (.ofKey "color_count") <|
  .lines ["</td></tr>",
    "<tr><th>Window size</th><td>"] <|
  .slot (.ofKey "window_size") <|
  .lines ["</td></tr>",
    "</table>",
    "",
    "<h2>Warnings</h2>",
    ""] <|
  .choose (.ofKey "warnings")
    (.lines ["<ul>"] <|
      .each (.ofKey "warnings")
        (.lines ["<li>"] <| .slot .current <| .lines ["</li>"] .done) false .done <|
      .lines ["</ul>"] .done)
    (.lines ["<p>None - this example should be straightforward to port!</p>"] .done) <|
  .lines ["",
    "",
    "<h2>Screenshots</h2>",
    "<div class=\"columns\">",
    "<section><h3>GPUI</h3><img src=\""] <|
  .slot (.ofKeys "assets" "gpui") <|
  .lines ["\" alt=\"GPUI screenshot\"></section>",
    "<section><h3>ZapUI</h3><img src=\""] <|
  .slot (.ofKeys "assets" "zapui") <|
  .lines ["\" alt=\"ZapUI screenshot\"></section>",
    "</div>",
    "<h3>Difference</h3>",
    "<img src=\""] <|
  .slot (.ofKeys "assets" "diff") <|
  .lines ["\" alt=\"Pixel difference\">",
    "<h3>Animated comparison</h3>",
    "<img src=\""] <|
  .slot (.ofKeys "assets" "animation") <|
  .lines ["\" alt=\"Animated comparison\">",
    "",
    "<h2>Source</h2>",
    "<div class=\"columns\">",
    "<section><h3>"] <|
  .slot (.ofKey "name") <|
  .lines [".rs</h3><pre><code>"] <|
  .slot (.ofKey "source") <|
  .lines ["</code></pre></section>",
    "<section><h3>"] <|
  .slot (.ofKey "skeleton_file") <|
  .lines ["</h3><pre><code>"] <|
  .slot (.ofKey "skeleton") <|
  .lines ["</code></pre></section>",
    "</div>",
    "</body>",
    "</html>",
    ""] <|
  .done

/-- The report as a Markdown text; its code blocks are fenced by as many backticks as they need. -/
def markdownReport : Template :=
  .lines ["# "] <|
  .slot (.ofKey "title") <|
  .lines ["",
    "",
    "## Summary",
    "",
    "| Metric | Value |",
    "|---|---|",
    "| Rust lines | "] <|
  .slot (.ofKey "source_lines") <|
  .lines [" |",
    "| Skeleton lines | "] <|
  .slot (.ofKey "skeleton_lines") <|
  .lines [" |",
    "| Colors | "] <|
  .slot (.ofKey "color_count") <|
  .lines [" |",
    "| Window size | "] <|
  .slot (.ofKey "window_size") <|
  .lines [" |",
    "",
    "## Warnings",
    "",
    ""] <|
  .choose (.ofKey "warnings")
    (.each (.ofKey "warnings")
      (.lines ["- "] <| .slot .current <| .lines ["", ""] .done) false .done
      .done)
    (.lines ["None - this example should be straightforward to port!", ""] .done) <|
  .lines ["",
    "## Screenshots",
    "",
    "| GPUI | ZapUI |",
    "|---|---|",
    "| ![GPUI]("] <|
  .slot (.ofKeys "assets" "gpui") <|
  .lines [") | ![ZapUI]("] <|
  .slot (.ofKeys "assets" "zapui") <|
  .lines [") |",
    "",
    "Difference: ![Pixel difference]("] <|
  .slot (.ofKeys "assets" "diff") <|
  .lines [")",
    "",
    "Animated comparison: ![Animated comparison]("] <|
  .slot (.ofKeys "assets" "animation") <|
  .lines [")",
    "",
    "## "] <|
  .slot (.ofKey "name") <|
  .lines [".rs",
    "",
    ""] <|
  .slot (.ofKey "source_fence") <|
  .lines ["rust",
    ""] <|
  .slot (.ofKey "source") <|
  .lines ["",
    ""] <|
  .slot (.ofKey "source_fence") <|
  .lines ["",
    "",
    "## "] <|
  .slot (.ofKey "skeleton_file") <|
  .lines ["",
    "",
    ""] <|
  .slot (.ofKey "skeleton_fence") <|
  .slot (.ofKey "skeleton_lang") <|
  .lines ["",
    ""] <|
  .slot (.ofKey "skeleton") <|
  .lines ["",
    ""] <|
  .slot (.ofKey "skeleton_fence") <|
  .lines ["",
    ""] <|
  .done

end UiSkeleton
