/-
The file that a skeleton for ZapUI starts from: imports, the colors of the source, the warnings, a
view whose rendering is left to do, and the window with its event loop.
-/
import UiSkeleton.Template.Basic

namespace UiSkeleton

/-- The template of a ZapUI program on the OpenGL renderer. -/
def zapTemplate : Template :=
  .lines ["//! "] <|
  .slot (.ofKey "title") <|
  .lines [" - Port of GPUI's "] <|
  .slot (.ofKey "name") <|
  .lines [".rs example",
    "//!",
    "//! Auto-generated skeleton by uiport (target: "] <|
  .slot (.ofKey "target") <|
  .lines [").",
    "//! Ported from "] <|
  .slot (.ofKey "source_lines") <|
  .lines [" lines of Rust. Manual adjustments needed - see warnings below.",
    "",
    "const std = @import(\"std\");",
    "const zapui = @import(\"zapui\");",
    "const zglfw = @import(\"zglfw\");",
    "",
    "const GlRenderer = zapui.GlRenderer;",
    "const TextSystem = zapui.TextSystem;",
    "const Scene = zapui.Scene;",
    "const zaffy = zapui.zaffy;",
    "const Pixels = zapui.Pixels;",
    "",
    "// GPUI-style API",
    "const div = zapui.elements.div.div;",
    "const v_flex = zapui.elements.div.v_flex;",
    "const h_flex = zapui.elements.div.h_flex;",
    "const reset = zapui.elements.div.reset;",
    "const px = zapui.elements.div.px;",
    "",
    "// ============================================================================",
    "// Colors extracted from GPUI example",
    "// ============================================================================",
    "",
    ""] <|
  .slot (.ofKey "colors") <|
  .lines ["",
    "",
    "// ============================================================================",
    "// WARNINGS - Features needing manual implementation:",
    "// ============================================================================",
    ""] <|
  .slot (.ofKey "warnings") <|
  .lines ["",
    "",
    "// ============================================================================",
    "// View",
    "// ============================================================================",
    "",
    "const "] <|
  .slot (.ofKey "type_name") <|
  .lines [" = struct \x7b",
    "    fn render(self: *"] <|
  .slot (.ofKey "type_name") <|
  .lines [", tree: *zaffy.Zaffy, scene: *Scene, text_system: *TextSystem) !void \x7b",
    "        _ = self;",
    "        reset();",
    "        const rem: Pixels = 16.0;",
    "",
    "        // TODO: Translate the render logic from Rust",
    ""] <|
  .slot (.ofKey "todos") <|
  .lines ["",
    "",
    "        // Original div chains (auto-translated, may need fixes):",
    ""] <|
  .slot (.ofKey "chains") <|
  .lines ["",
    "",
    "        // Build and paint",
    "        // try root.buildWithTextSystem(tree, rem, text_system);",
    "        // tree.computeLayoutWithSize(root.node_id.?, WIDTH, HEIGHT);",
    "        // root.paint(scene, text_system, 0, 0, tree, null, null);",
    "        _ = .\x7b tree, scene, text_system, rem \x7d;",
    "    \x7d",
    "\x7d;",
    "",
    "// ============================================================================",
    "// Main",
    "// ============================================================================",
    "",
    "const WIDTH: f32 = "] <|
  .slot (.ofKey "width") <|
  .lines [";",
    "const HEIGHT: f32 = "] <|
  .slot (.ofKey "height") <|
  .lines [";",
    "",
    "pub fn main() !void \x7b",
    "    zglfw.init() catch return;",
    "    defer zglfw.terminate();",
    "",
    "    zglfw.windowHint(.context_version_major, 3);",
    "    zglfw.windowHint(.context_version_minor, 3);",
    "    zglfw.windowHint(.opengl_profile, .opengl_core_profile);",
    "",
    "    const window = zglfw.Window.create(@intFromFloat(WIDTH), @intFromFloat(HEIGHT), \""] <|
  .slot (.ofKey "title") <|
  .lines [" - ZapUI\", null, null) catch return;",
    "    defer window.destroy();",
    "",
    "    zglfw.makeContextCurrent(window);",
    "    zglfw.swapInterval(1);",
    "",
    "    zapui.renderer.gl.loadGlFunctions(zglfw.getProcAddress) catch return;",
    "",
    "    const allocator = std.heap.page_allocator;",
    "    var renderer = try GlRenderer.init(allocator);",
    "    defer renderer.deinit();",
    "",
    "    var text_system = TextSystem.init(allocator) catch return;",
    "    defer text_system.deinit();",
    "    _ = text_system.loadFontFile(\""] <|
  .slot (.ofKey "font_asset") <|
  .lines ["\") catch return;",
    "    text_system.setAtlas(renderer.getGlyphAtlas());",
    "    text_system.setColorAtlas(renderer.getColorAtlas());",
    "",
    "    var view = "] <|
  .slot (.ofKey "type_name") <|
  .lines ["\x7b\x7d;",
    "    var last_size = window.getFramebufferSize();",
    "    renderer.setViewport(@floatFromInt(last_size[0]), @floatFromInt(last_size[1]), 1.0);",
    "",
    "    while (!window.shouldClose()) \x7b",
    "        zglfw.pollEvents();",
    "        if (window.getKey(.escape) == .press) break;",
    "",
    "        // Resize",
    "        const fb_size = window.getFramebufferSize();",
    "        if (fb_size[0] != last_size[0] or fb_size[1] != last_size[1]) \x7b",
    "            last_size = fb_size;",
    "            renderer.setViewport(@floatFromInt(fb_size[0]), @floatFromInt(fb_size[1]), 1.0);",
    "        \x7d",
    "        renderer.clear(zapui.rgb(0x1a1a1a));",
    "",
    "        var scene = Scene.init(allocator);",
    "        defer scene.deinit();",
    "",
    "        var tree = zaffy.Zaffy.init(allocator);",
    "        defer tree.deinit();",
    "",
    "        view.render(&tree, &scene, &text_system) catch |err| \x7b",
    "            std.debug.print(\"Render error: \x7b\x7d\\n\", .\x7berr\x7d);",
    "        \x7d;",
    "",
    "        renderer.drawScene(&scene) catch \x7b\x7d;",
    "        window.swapBuffers();",
    "    \x7d",
    "\x7d",
    "",
    "// ============================================================================",
    "// Original Rust Source (for reference)",
    "// ============================================================================",
    "//",
    "// A copy of the original is stored next to this file under reference/"] <|
  .slot (.ofKey "name") <|
  .lines [".rs",
    "//",
    ""] <|
  .done

end UiSkeleton
