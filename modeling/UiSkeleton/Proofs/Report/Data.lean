/-
What a report is filled with. Both templates ask for members that the data has, the warnings are the
one thing that either goes through, and so every example has a report in both forms: its template,
filled.
-/
import UiSkeleton.Proofs.Template.Fill
import UiSkeleton.Report.Generator

namespace UiSkeleton.ReportFormat

variable (format : ReportFormat) (name source : String) (skeleton : SkeletonDocument) (a : Analysis)

/-- The title of a report. -/
def titleOf : String := if a.title.isEmpty then Naming.displayTitle name else a.title

theorem child?_data (key : String) : (data name source skeleton a).child? key = List.lookup key [
    ("name", .string name),
    ("title", .string (titleOf name a)),
    ("skeleton_file", .string skeleton.fileName),
    ("source", .string source),
    ("skeleton", .string skeleton.content),
    ("source_fence", .string (codeFence source)),
    ("skeleton_fence", .string (codeFence skeleton.content)),
    ("skeleton_lang", .string skeleton.extension),
    ("source_lines", .number (.int (Text.lineCount source))),
    ("skeleton_lines", .number (.int (Text.lineCount skeleton.content))),
    ("color_count", .number (.int a.colors.size)),
    ("window_size", .string a.windowSize.text),
    ("warnings", .array (a.warnings.toList.map .string)),
    ("assets", (AssetRefs.ofName name).data)] := by
  rw [data, JsonValue.child?_ofMembers (by simp), titleOf]

theorem child?_assets (assets : AssetRefs) (key : String) : assets.data.child? key = List.lookup key [
    ("gpui", .string assets.gpui), ("zapui", .string assets.zapui),
    ("diff", .string assets.diff), ("animation", .string assets.animation)] := by
  rw [AssetRefs.data, JsonValue.child?_ofMembers (by simp)]

theorem follow?_warnings : (data name source skeleton a).follow? ["warnings"] =
    some (.array (a.warnings.toList.map .string)) := by
  rw [JsonValue.follow?, child?_data]
  rfl

/-- The ways that lead to a value. -/
def ways : List (List String) :=
  ["name", "title", "skeleton_file", "source", "skeleton", "source_fence", "skeleton_fence", "skeleton_lang",
    "source_lines", "skeleton_lines", "color_count", "window_size", "warnings"].map ([·]) ++
    ["gpui", "zapui", "diff", "animation"].map (["assets", ·])

theorem isSome_follow?_data {keys : List String} (h : keys ∈ ways) :
    ((data name source skeleton a).follow? keys).isSome := by
  rw [ways, List.mem_append, List.mem_map, List.mem_map] at h
  rcases h with ⟨key, hkey, rfl⟩ | ⟨key, hkey, rfl⟩
  · have hsome : ((data name source skeleton a).child? key).isSome := by
      rw [child?_data, List.lookup_isSome_iff]
      simp only [List.mem_cons, List.not_mem_nil, or_false] at hkey
      rcases hkey with rfl | rfl | rfl | rfl | rfl | rfl | rfl | rfl | rfl | rfl | rfl | rfl | rfl <;> simp
    obtain ⟨w, hw⟩ := Option.isSome_iff_exists.1 hsome
    rw [JsonValue.follow?, hw]
    rfl
  · have hassets : (data name source skeleton a).child? "assets" = some (AssetRefs.ofName name).data := by
      rw [child?_data]
      rfl
    have hsome : ((AssetRefs.ofName name).data.child? key).isSome := by
      rw [child?_assets, List.lookup_isSome_iff]
      simp only [List.mem_cons, List.not_mem_nil, or_false] at hkey
      rcases hkey with rfl | rfl | rfl | rfl <;> simp
    obtain ⟨w, hw⟩ := Option.isSome_iff_exists.1 hsome
    rw [JsonValue.follow?, hassets, Option.bind_some, JsonValue.follow?, hw]
    rfl

theorem keys_mem_ways :
    (all.all fun format => format.template.tags.all fun tag => ways.contains tag.keys) = true := by
  decide

/-- A repetition goes through the warnings, and its body asks for the warning alone. -/
theorem repeats_warnings : (all.all fun format => format.template.repeats.all fun (tag, body) =>
    tag.keys == ["warnings"] && body.repeats.isEmpty && body.tags.all (·.keys.isEmpty)) = true := by
  decide

theorem mem_all : format ∈ all := by cases format <;> simp [all]

/-- Both templates are `Supplied`. -/
theorem supplied_data : format.template.Supplied (data name source skeleton a) := by
  refine Template.supplied_of_tags (fun tag htag => ?_) fun ⟨tag, body⟩ hr => ?_
  · have hways := List.all_eq_true.1 (List.all_eq_true.1 keys_mem_ways format format.mem_all) tag htag
    exact isSome_follow?_data name source skeleton a (by simpa using hways)
  · have hbody := List.all_eq_true.1 (List.all_eq_true.1 repeats_warnings format format.mem_all) _ hr
    simp only [Bool.and_eq_true, beq_iff_eq, List.isEmpty_iff, List.all_eq_true] at hbody
    obtain ⟨⟨hkeys, hnone⟩, hcurrent⟩ := hbody
    refine ⟨a.warnings.toList.map .string, by rw [hkeys, follow?_warnings]; rfl, fun item _ => ?_⟩
    refine Template.supplied_of_tags (fun tag htag => ?_) (by simp [hnone])
    rw [hcurrent tag htag]
    rfl

/-- Every example has a report: the template of its form, filled. -/
theorem generate_eq : format.generate name source skeleton a = .ok ⟨name, format,
    String.ofList (format.template.fill format.escaping (data name source skeleton a))⟩ := by
  have hrender : format.templates.render format.extension (data name source skeleton a) = .ok _ :=
    TemplateStore.render_put (supplied_data ..)
  rw [generate, hrender]
  rfl

end UiSkeleton.ReportFormat
