/-
Where a skeleton looks for its font, and where a conversion puts it. The name of the font's file is
taken off its path twice, once for the call in the skeleton and once for the place below the root of
the output. Both agree on every path that ends in a name; on a path that ends in none each of them
has a name of its own, and the skeleton looks where no font is put.
-/
import Mathlib.Data.List.Basic
import UiSkeleton.Proofs.Outcome
import UiSkeleton.Proofs.Template.Rows

namespace UiSkeleton

namespace Path

/-- What stands before a relative path that is seen from a directory. -/
def front (p : Path) : List Char := if p.chars.isEmpty || p.endsInSlash then p.chars else p.chars ++ ['/']

theorem join_of_relative {p q : Path} (h : q.isAbsolute = false) : p.join q = ⟨p.front ++ q.chars⟩ := by
  rw [join, front, if_neg (by simp [h])]
  split <;> simp

theorem join_right_inj {p q r : Path} (hq : q.isAbsolute = false) (hr : r.isAbsolute = false) :
    p.join q = p.join r ↔ q = r := by
  rw [join_of_relative hq, join_of_relative hr, mk.injEq, List.append_right_inj]
  exact ⟨congrArg Path.mk, congrArg Path.chars⟩

theorem join_join {p : Path} {dir name : List Char} (hdir : IsEntry dir)
    (hname : (Path.mk name).isAbsolute = false) :
    (p.join ⟨dir⟩).join ⟨name⟩ = p.join ⟨dir ++ '/' :: name⟩ := by
  have hne : dir ≠ [] := by
    rintro rfl
    exact absurd hdir.idle (by decide)
  have hrelative : (Path.mk (dir ++ '/' :: name)).isAbsolute = false := by
    have hfirst := hdir.isAbsolute
    rw [isAbsolute] at hfirst ⊢
    rwa [List.head?_append_of_ne_nil _ hne]
  have hslash : (Path.mk (p.front ++ dir)).endsInSlash = false := by
    rw [endsInSlash, List.getLast?_append_of_ne_nil _ hne]
    refine Bool.eq_false_iff.2 fun hlast => hdir.slash ?_
    exact List.mem_of_getLast? (beq_iff_eq.1 hlast)
  have hfront : (Path.mk (p.front ++ dir)).front = p.front ++ dir ++ ['/'] := by
    rw [front, if_neg (by simp [hslash, hne])]
  rw [join_of_relative hdir.isAbsolute, join_of_relative hname, join_of_relative hrelative, hfront]
  simp

end Path

namespace Converter

variable {c : Converter}

/-- The layout and `fontAsset` have one name for the font exactly if its path ends in a name. -/
theorem join_fontAsset_iff : c.layout.root.join (.ofText c.fontAsset) = c.fontTarget ↔
    c.fontSource.fileName?.isSome = true := by
  have hassets : Path.IsEntry "assets".toList := isEntry_directory.2.2.2
  rw [fontTarget, OutputLayout.asset, fontAsset]
  cases h : c.fontSource.fileName? with
  | some name =>
    have hname := (Path.isEntry_of_fileName? h).isAbsolute
    rw [Option.getD_some, Path.ofText, Path.ofText, Path.join_join hassets hname, String.toList_append,
      String.toList_ofList]
    simp
  | none =>
    rw [Option.getD_none, Path.ofText, Path.ofText, Path.join_join hassets (by decide),
      Path.join_right_inj (by decide) (by decide)]
    simp [SkeletonGenerator.usualFontAsset, OutputLayout.namelessAsset]

end Converter

namespace ZapUi

/-- The line with which a skeleton loads its font. -/
def fontCall (asset : String) : String :=
    "    _ = text_system.loadFontFile(\"" ++ asset ++ "\") catch return;"

/-- The row of that line. -/
def fontRow : Template :=
  .text "    _ = text_system.loadFontFile(\"".toList <| .value (.ofKey "font_asset") false <|
    .text "\") catch return;".toList .done

theorem mem_rows_font : fontRow ∈ zapTemplate.rows := by
  rw [Template.Spelled.eq (t := zapTemplate) ?spelled]
  case spelled => repeat constructor
  decide

theorem toList_fontCall (asset : String) : (fontCall asset).toList =
    "    _ = text_system.loadFontFile(\"".toList ++ (asset.toList ++ "\") catch return;".toList) := by
  change ("    _ = text_system.loadFontFile(\"" ++ asset ++ "\") catch return;").toList = _
  rw [String.toList_append, String.toList_append, List.append_assoc]

theorem fill_fontRow {d : JsonValue} {font : String} (h : d.child? "font_asset" = some (.string font)) :
    fontRow.fill .raw d = (fontCall font).toList := by
  rw [toList_fontCall]
  simp only [fontRow, Template.fill, TemplateTag.ofKey, JsonValue.follow?, h, Option.bind_some,
    Escaping.apply, JsonValue.display_string, Bool.false_eq_true, if_false, List.append_nil]

/-- A skeleton has `fontCall` of its font in lines of its own. -/
theorem splitOn_skeleton_font (name source font : String) (a : Analysis) : ∃ before after,
    (zapTemplate.fill .raw ((generatorFor font).data name source a)).splitOn '\n' =
      before ++ (fontCall font).toList.splitOn '\n' ++ after := by
  have hrow : fontRow.fill .raw ((generatorFor font).data name source a) = (fontCall font).toList :=
    fill_fontRow (child?_data name source (generatorFor font) a "font_asset")
  rw [← hrow]
  exact Template.splitOn_fill_of_mem mem_rows_font

end ZapUi

namespace Converter

variable {c : Converter}

theorem font_of_stored {name : ExampleName} {text : String} {t : FileTree} (h : c.Stored name text t) :
    ∃ content before after, t.find? (c.path name .skeleton) = some (.file (Text.toBytes content)) ∧
      content.toList.splitOn '\n' = before ++ (ZapUi.fontCall c.fontAsset).toList.splitOn '\n' ++ after := by
  obtain ⟨before, after, hlines⟩ :=
    ZapUi.splitOn_skeleton_font name.text text c.fontAsset (ZapUi.analysisOf name.text text)
  refine ⟨_, before, after, h.artifact .skeleton, ?_⟩
  rw [content, skeletonOf, String.toList_ofList]
  exact hlines

/-- **A skeleton looks for its font where the conversion puts it exactly if `fontPath` ends in a
file name.** -/
theorem font_of_convert {raw : String} {s s' : Session} {outcome : Outcome}
    (h : (c.convert raw).run.run s = (.ok outcome, s')) : ∃ content asset before after,
      s'.files.find? outcome.skeletonPath = some (.file (Text.toBytes content)) ∧
      content.toList.splitOn '\n' = before ++ (ZapUi.fontCall asset).toList.splitOn '\n' ++ after ∧
      ((Path.ofText c.config.outputDir).join (.ofText asset) = outcome.font.target ↔
        (Path.ofText c.config.fontPath).fileName?.isSome = true) := by
  obtain ⟨name, text, font, -, -, hfont, hstored, rfl⟩ := stored_of_convert h
  obtain ⟨content, before, after, hfind, hlines⟩ := font_of_stored hstored
  refine ⟨content, c.fontAsset, before, after, hfind, hlines, ?_⟩
  rw [hfont]
  exact join_fontAsset_iff

/-- A converter of one small example. -/
def oneExample (font : String) : Converter :=
  ⟨{ fontPath := font, outputDir := "out" }, (StoredExamples.mk true [("a", "x")]).source⟩

/-- The example, with a font that is not there. -/
theorem font_of_convert_oneExample : ∃ outcome s',
    ((oneExample "fonts/f.ttf").convert "a").run.run (.start (.empty [])) = (.ok outcome, s') ∧
      ∃ content asset before after, s'.files.find? outcome.skeletonPath =
        some (.file (Text.toBytes content)) ∧
        content.toList.splitOn '\n' = before ++ (ZapUi.fontCall asset).toList.splitOn '\n' ++ after ∧
        ((Path.ofText "out").join (.ofText asset) = outcome.font.target ↔
          (Path.ofText "fonts/f.ttf").fileName?.isSome = true) := by
  obtain ⟨outcome, s', hrun⟩ :=
    Run.exists_of_isSome (x := (oneExample "fonts/f.ttf").convert "a") (s := .start (.empty []))
    (by decide +kernel)
  exact ⟨outcome, s', hrun, font_of_convert hrun⟩

/-- Without the path of a font, the skeleton loads one that the outcome puts under another name. -/
theorem font_elsewhere : (oneExample "").config.validate.toOption.isSome = true ∧ ∃ outcome s',
    ((oneExample "").convert "a").run.run (.start (.empty [])) = (.ok outcome, s') ∧
      outcome.font.target = .ofText "out/assets/asset" ∧
      ∃ content before after, s'.files.find? outcome.skeletonPath = some (.file (Text.toBytes content)) ∧
        content.toList.splitOn '\n' = before ++ [(ZapUi.fontCall "assets/DejaVuSans.ttf").toList] ++ after ∧
        (Path.ofText "out").join (.ofText "assets/DejaVuSans.ttf") ≠ outcome.font.target := by
  refine ⟨by decide +kernel, ?_⟩
  obtain ⟨outcome, s', hrun⟩ :=
    Run.exists_of_isSome (x := (oneExample "").convert "a") (s := .start (.empty []))
    (by decide +kernel)
  obtain ⟨name, text, font, -, -, hfont, hstored, rfl⟩ := stored_of_convert hrun
  have htarget : font.target = .ofText "out/assets/asset" := hfont.trans (by decide)
  have hasset : (oneExample "").fontAsset = "assets/DejaVuSans.ttf" := by decide
  have hline : (ZapUi.fontCall "assets/DejaVuSans.ttf").toList.splitOn '\n' =
      [(ZapUi.fontCall "assets/DejaVuSans.ttf").toList] := List.splitOn_eq_singleton (by decide)
  obtain ⟨content, before, after, hfind, hlines⟩ := font_of_stored hstored
  rw [hasset, hline] at hlines
  refine ⟨_, s', hrun, htarget, content, before, after, hfind, hlines, ?_⟩
  rw [htarget]
  decide

end Converter
end UiSkeleton
