/-
What a skeleton says about the features of its source. The block of warnings and the block of tasks
are two rows of the template, each behind a title and before an empty line; neither a message nor a
task breaks a line, so each block has one line for every message and for every task.
-/
import Mathlib.Data.List.Nodup
import UiSkeleton.Proofs.Catalog.Construct
import UiSkeleton.Proofs.Skeleton.Data
import UiSkeleton.Proofs.Template.Rows
import UiSkeleton.Text.Utf8

namespace UiSkeleton

namespace Catalog

/-- Ids are distinct, so the rules that fired are those whose ids are in `features`. -/
theorem mem_firedFeatures_iff {source : String} {rule : FeatureRule} :
    rule ∈ builtin.firedFeatures source.toList ↔ rule ∈ builtinFeatures ∧
    rule.id ∈ (builtin.analyze source).features := by
  have hids : (builtinFeatures.map FeatureRule.id).Nodup := by decide
  have hfeatures : rule.id ∈ (builtin.analyze source).features ↔
      rule.id ∈ (builtin.firedFeatures source.toList).map FeatureRule.id := SortedSet.mem_ofList
  rw [hfeatures, List.mem_map]
  constructor
  · intro h
    exact ⟨(List.mem_filter.1 h).1, rule, h, rfl⟩
  · rintro ⟨hrule, other, hother, hid⟩
    have hsame : other = rule := List.inj_on_of_nodup_map hids (List.mem_filter.1 hother).1 hrule hid
    exact hsame ▸ hother

theorem mem_warnings_iff {source message : String} : message ∈ (builtin.analyze source).warnings ↔
    ∃ rule ∈ builtin.firedFeatures source.toList, rule.message = message := by
  have hwarnings : message ∈ (builtin.analyze source).warnings ↔
      message ∈ (builtin.firedFeatures source.toList).map FeatureRule.message := SortedSet.mem_ofList
  rw [hwarnings, List.mem_map]

theorem warnings_pairwise (source : String) :
    (builtin.analyze source).warnings.toList.Pairwise fun m n => Text.toBytes m < Text.toBytes n := by
  let all : SortedSet String := .ofList (builtinFeatures.map FeatureRule.message)
  have hall : all.toList.Pairwise fun m n => Text.toBytes m < Text.toBytes n := by
    simp only [Text.toBytes_eq_data]
    decide +kernel
  -- the warnings are some of all messages, in the order in which these stand
  have hfilter : (builtin.analyze source).warnings.toList =
      all.toList.filter fun m => m ∈ (builtin.analyze source).warnings.toList := by
    refine SortedSet.eq_of_ascending (SortedSet.ascending _) (all.ascending.filter _) fun m => ?_
    rw [List.mem_filter, decide_eq_true_iff]
    refine ⟨fun hm => ⟨?_, hm⟩, And.right⟩
    obtain ⟨rule, hrule, rfl⟩ := mem_warnings_iff.1 hm
    exact SortedSet.mem_ofList.2 (List.mem_map.2 ⟨rule, (List.mem_filter.1 hrule).1, rfl⟩)
  rw [hfilter]
  exact hall.filter _

end Catalog

namespace ZapUi

open SkeletonTarget (joinLines orElse)

/-! ## The rows of the template -/

/-- The line under the title of a part. -/
def ruler : String := "// ============================================================================"

/-- The title of the warnings. -/
def warningsTitle : String := "// WARNINGS - Features needing manual implementation:"

/-- What stands before the tasks. -/
def todosTitle : String := "        // TODO: Translate the render logic from Rust"

/-- The rows of the warnings, up to an empty line. -/
def warningRows : List Template :=
  [.text warningsTitle.toList .done, .text ruler.toList .done, .slotRow "warnings", .text [] .done]

/-- The rows of the tasks, up to an empty line. -/
def todoRows : List Template := [.text todosTitle.toList .done, .slotRow "todos", .text [] .done]

theorem rows_featureBlocks : ∃ before between after : List Template,
    zapTemplate.rows = before ++ (warningRows ++ (between ++ (todoRows ++ after))) := by
  have hblocks : (zapTemplate.rows.drop 29).take 4 = warningRows ∧
      (zapTemplate.rows.drop 43).take 3 = todoRows := by
    rw [Template.Spelled.eq (t := zapTemplate) ?spelled]
    case spelled => repeat constructor
    decide
  have hsplit : ∀ m n, zapTemplate.rows.drop m = (zapTemplate.rows.drop m).take n ++
      zapTemplate.rows.drop (m + n) := by
    intro m n
    rw [← List.drop_drop, List.take_append_drop]
  refine ⟨zapTemplate.rows.take 29, (zapTemplate.rows.drop 33).take 10, zapTemplate.rows.drop 46, ?_⟩
  rw [← hblocks.1, ← hblocks.2, ← hsplit 43 3, ← hsplit 33 10, ← hsplit 29 4, List.take_append_drop]

/-! ## The blocks -/

theorem splitOn_warnings (source : String) :
    (joinLines (target.warningLines (Catalog.builtin.analyze source))).toList.splitOn '\n' =
      (target.warningLines (Catalog.builtin.analyze source)).map String.toList := by
  refine splitOn_joinLines orElse_ne_nil (forall_mem_orElse ?_ (by decide))
  intro line hline
  obtain ⟨message, hmessage, rfl⟩ := List.mem_map.1 hline
  obtain ⟨rule, hrule, rfl⟩ := Catalog.mem_warnings_iff.1 hmessage
  have hrule : rule ∈ Catalog.builtinFeatures := (List.mem_filter.1 hrule).1
  simp only [String.toList_append, List.mem_append, not_or]
  exact ⟨⟨by decide, by decide⟩, Catalog.newline_not_mem_message hrule⟩

theorem splitOn_todos (a : Analysis) :
    (joinLines (target.todoLines Catalog.builtin a)).toList.splitOn '\n' =
      (target.todoLines Catalog.builtin a).map String.toList := by
  refine splitOn_joinLines orElse_ne_nil (forall_mem_orElse ?_ (by decide))
  intro line hline
  obtain ⟨todo, htodo, rfl⟩ := List.mem_map.1 hline
  obtain ⟨rule, hrule, htodo⟩ := List.mem_filterMap.1 htodo
  have hrule : rule ∈ Catalog.builtinFeatures := (List.mem_filter.1 hrule).1
  simp only [String.toList_append, List.mem_append, not_or]
  exact ⟨⟨⟨by decide, by decide⟩, by decide⟩, Catalog.newline_not_mem_todo hrule htodo⟩

/-- Both blocks stand in the skeleton, each between its title and an empty line. -/
theorem splitOn_skeleton (name font source : String) :
    let a := Catalog.builtin.analyze source
    ∃ before between after,
      (zapTemplate.fill .raw ((generatorFor font).data name source a)).splitOn '\n' = before ++
        ([warningsTitle, ruler] ++ target.warningLines a ++ [""]).map String.toList ++ between ++
        ([todosTitle] ++ target.todoLines Catalog.builtin a ++ [""]).map String.toList ++ after := by
  simp only
  have hchild := child?_data name source (generatorFor font) (Catalog.builtin.analyze source)
  generalize (generatorFor font).data name source (Catalog.builtin.analyze source) = d at hchild
  have hwarnings : (Template.slotRow "warnings").fill .raw d =
      (joinLines (target.warningLines (Catalog.builtin.analyze source))).toList :=
    (Template.fill_slotRow (hchild "warnings")).trans (JsonValue.display_string _)
  have htodos : (Template.slotRow "todos").fill .raw d =
      (joinLines (target.todoLines Catalog.builtin (Catalog.builtin.analyze source))).toList :=
    (Template.fill_slotRow (hchild "todos")).trans (JsonValue.display_string _)
  have fixed : ∀ (line : List Char), '\n' ∉ line →
      ∀ v, ((Template.text line .done).fill .raw v).splitOn '\n' = [line] := by
    intro line hline v
    rw [Template.fill, Template.fill, List.append_nil]
    exact List.splitOn_eq_singleton hline
  obtain ⟨before, between, after, hrows⟩ := rows_featureBlocks
  let lines (rows : List Template) := rows.flatMap fun row => (row.fill .raw d).splitOn '\n'
  refine ⟨lines before, lines between, lines after, ?_⟩
  rw [Template.splitOn_fill, hrows]
  simp only [warningRows, todoRows, List.flatMap_append, List.flatMap_cons, List.flatMap_nil,
    hwarnings, htodos, splitOn_warnings, splitOn_todos,
    fixed warningsTitle.toList (by decide), fixed ruler.toList (by decide),
    fixed todosTitle.toList (by decide), fixed [] (by decide)]
  simp [lines]

/-- **Features, warnings and tasks are those of the constructs of a source**: `features` are the ids
of the `constructs` that occur, `warnings` their messages in the order of their bytes, and the
skeleton has both blocks, with the tasks in the order of `builtinFeatures`. -/
theorem featureBlocks_generate (name font source : String) :
    let a := Catalog.builtin.analyze source
    let warnings := a.warnings.toList.map ("//   - " ++ ·)
    let todos := ((Catalog.builtinFeatures.filter fun rule => rule.id ∈ a.features.toList).filterMap
      FeatureRule.todo).map ("        // TODO: " ++ ·)
    (∀ id, id ∈ a.features ↔
      ∃ construct, (id, construct) ∈ Catalog.constructs ∧ construct.OccursIn source.toList) ∧
    (∀ message, message ∈ a.warnings ↔
      ∃ rule ∈ Catalog.builtinFeatures, rule.id ∈ a.features ∧ rule.message = message) ∧
    a.warnings.toList.Pairwise (fun m n => Text.toBytes m < Text.toBytes n) ∧
    ∃ document before between after, (generatorFor font).generate name source a = .ok document ∧
      document.content.toList.splitOn '\n' = before ++
        ([warningsTitle, ruler] ++
          orElse warnings "//   None - this example should be straightforward to port!" ++
          [""]).map String.toList ++ between ++
        ([todosTitle] ++ orElse todos "        // No constructs flagged for manual porting" ++
          [""]).map String.toList ++ after := by
  intro a warnings todos
  refine ⟨fun id => Catalog.mem_features_iff, ?_, Catalog.warnings_pairwise source, ?_⟩
  · intro message
    rw [Catalog.mem_warnings_iff]
    simp only [Catalog.mem_firedFeatures_iff, and_assoc]
    rfl
  · obtain ⟨before, between, after, hlines⟩ := splitOn_skeleton name font source
    refine ⟨_, before, between, after, generate_eq .., ?_⟩
    rw [String.toList_ofList, hlines]
    rfl

end ZapUi
end UiSkeleton
