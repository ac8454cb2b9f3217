/-
What a skeleton is filled with. The template asks for members that the data has, so every example
has a skeleton: the template, filled.
-/
import UiSkeleton.Proofs.Template.Fill
import UiSkeleton.Proofs.Text.Lines
import UiSkeleton.Skeleton.Generator

namespace UiSkeleton.ZapUi

open SkeletonTarget (joinLines orElse)

/-! ## Blocks -/

theorem orElse_ne_nil {lines : List String} {other : String} : orElse lines other ≠ [] := by
  rw [orElse]
  split
  · simp
  · rename_i h
    simpa using h

theorem orElse_of_ne_nil {lines : List String} {other : String} (h : lines ≠ []) :
    orElse lines other = lines :=
  if_neg (by simpa using h)

theorem forall_mem_orElse {lines : List String} {other : String} {P : String → Prop}
    (h : ∀ line ∈ lines, P line)
    (hother : P other) : ∀ line ∈ orElse lines other, P line := by
  rw [orElse]
  split
  · simpa using hother
  · exact h

/-! ## Lines -/

theorem splitOn_joinLines {lines : List String} (hne : lines ≠ []) (h : ∀ line ∈ lines, '\n' ∉ line.toList) :
    (joinLines lines).toList.splitOn '\n' = lines.map String.toList := by
  rw [joinLines, String.toList_intercalate]
  refine List.splitOn_intercalate '\n' ?_ (by simpa using hne)
  intro part hpart
  obtain ⟨line, hline, rfl⟩ := List.mem_map.1 hpart
  exact h line hline

/-- What has no line feed is still a line among the `joinLines`. -/
theorem mem_splitOn_joinLines {lines : List String} {line : String} (h : line ∈ lines)
    (hline : '\n' ∉ line.toList) : line.toList ∈ (joinLines lines).toList.splitOn '\n' := by
  have hne : lines.map String.toList ≠ [] := by
    rintro hnil
    rw [List.map_eq_nil_iff.1 hnil] at h
    cases h
  rw [joinLines, String.toList_intercalate, show "\n".toList = ['\n'] from rfl,
    Text.splitOn_intercalate_eq_flatMap hne]
  refine List.mem_flatMap.2 ⟨line.toList, List.mem_map.2 ⟨line, h, rfl⟩, ?_⟩
  rw [List.splitOn_eq_singleton hline]
  exact List.mem_singleton_self _

/-! ## Members -/

variable (name source : String)

/-- The analysis of an example with the built-in catalog. -/
abbrev analysisOf : Analysis := Catalog.builtin.analyzeExample name source

variable (g : SkeletonGenerator)

/-- What a generator fills its template with, member by member. -/
theorem child?_data (a : Analysis) (key : String) :
    (g.data name source a).child? key = List.lookup key [
      ("name", .string name),
      ("title", .string (Naming.displayTitle name)),
      ("type_name", .string (Naming.typeIdentifier name)),
      ("target", .string g.target.name),
      ("source_lines", .number (.int (Text.lineCount source))),
      ("width", .number (.int a.windowSize.width)),
      ("height", .number (.int a.windowSize.height)),
      ("font_asset", .string g.fontAsset),
      ("colors", .string (joinLines (g.target.colorLines a))),
      ("warnings", .string (joinLines (g.target.warningLines a))),
      ("todos", .string (joinLines (g.target.todoLines g.catalog a))),
      ("chains", .string (g.target.chainsBlock g.catalog a))] := by
  rw [SkeletonGenerator.data, JsonValue.child?_ofMembers (by simp)]

/-- The members that the template asks for. -/
def memberKeys : List String :=
  ["name", "title", "type_name", "target", "source_lines", "width", "height", "font_asset",
    "colors", "warnings", "todos", "chains"]

theorem keys_of_mem_tags :
    zapTemplate.tags.all (fun tag => memberKeys.any fun key => tag.keys = [key]) = true := by
  decide

/-- Every tag of `zapTemplate` has its value. -/
theorem supplied_data (a : Analysis) : zapTemplate.Supplied (g.data name source a) := by
  have hrepeats : zapTemplate.repeats = [] := by decide
  refine Template.supplied_of_tags (fun tag htag => ?_) (by simp [hrepeats])
  have hkey := List.all_eq_true.1 keys_of_mem_tags tag htag
  rw [List.any_eq_true] at hkey
  obtain ⟨key, hmem, hkeys⟩ := hkey
  have hsome : ((g.data name source a).child? key).isSome := by
    rw [child?_data, List.lookup_isSome_iff]
    simp only [memberKeys, List.mem_cons, List.not_mem_nil, or_false] at hmem
    rcases hmem with rfl | rfl | rfl | rfl | rfl | rfl | rfl | rfl | rfl | rfl | rfl | rfl <;> simp
  obtain ⟨w, hw⟩ := Option.isSome_iff_exists.1 hsome
  rw [of_decide_eq_true hkeys, JsonValue.follow?, hw]
  rfl

/-- The generator for ZapUI whose programs find their font at the given place. -/
abbrev generatorFor (font : String) : SkeletonGenerator := { SkeletonGenerator.zap with fontAsset := font }

/-- Every example has a skeleton: the template, filled. -/
theorem generate_eq (font : String) (a : Analysis) : (generatorFor font).generate name source a =
    .ok ⟨name, "zig", String.ofList (zapTemplate.fill .raw ((generatorFor font).data name source a))⟩ := by
  have hrender : (generatorFor font).templates.render SkeletonGenerator.templateName
      ((generatorFor font).data name source a) = .ok _ := TemplateStore.render_put (supplied_data ..)
  rw [SkeletonGenerator.generate, hrender]
  rfl

end UiSkeleton.ZapUi
