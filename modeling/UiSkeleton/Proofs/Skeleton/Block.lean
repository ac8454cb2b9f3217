/-
Where a block of a skeleton stands. A block fills one row of the template, behind its title and
before an empty line, so its lines stand together among the lines of the skeleton.
-/
import Mathlib.Data.List.Basic
import UiSkeleton.Proofs.Skeleton.Data
import UiSkeleton.Proofs.Template.Rows

namespace UiSkeleton

/-- The lines of the block stand in the file, behind those of its title and before an empty line. -/
def SkeletonDocument.HasBlock (d : SkeletonDocument) (title : List String)
    (block : List (List Char)) : Prop :=
  ∃ before after, d.content.toList.splitOn '\n' = before ++
    (title.map String.toList ++ block ++ [[]]) ++ after

namespace ZapUi

/-- The rows of a block, from its title up to an empty line. -/
def blockRows (title : List String) (key : String) : List Template :=
  title.map (fun line => .text line.toList .done) ++ [.slotRow key, .text [] .done]

variable {title : List String} {key block : String}

theorem lines_blockRows {d : JsonValue} (htitle : ∀ line ∈ title, '\n' ∉ line.toList)
    (hblock : d.child? key = some (.string block)) :
    ((blockRows title key).flatMap fun row => (row.fill .raw d).splitOn '\n') =
      title.map String.toList ++ block.toList.splitOn '\n' ++ [[]] := by
  have hfixed : ∀ line ∈ title, ((Template.text line.toList .done).fill .raw d).splitOn '\n' =
      [line.toList] := by
    intro line hline
    rw [Template.fill, Template.fill, List.append_nil]
    exact List.splitOn_eq_singleton (htitle line hline)
  have hslot : (Template.slotRow key).fill .raw d = block.toList :=
    (Template.fill_slotRow hblock).trans (JsonValue.display_string block)
  rw [blockRows, List.flatMap_append, List.flatMap_map, List.flatMap_congr hfixed, ← List.map_eq_flatMap,
    List.flatMap_cons, hslot, List.append_assoc]
  rfl

/-- A block between its title and an empty line has its place in every skeleton. -/
theorem hasBlock_generate {name font source : String} {a : Analysis}
    (hrows : blockRows title key <:+: zapTemplate.rows)
    (htitle : ∀ line ∈ title, '\n' ∉ line.toList)
    (hblock : ((generatorFor font).data name source a).child? key = some (.string block)) :
    ∃ document, (generatorFor font).generate name source a = .ok document ∧
      document.HasBlock title (block.toList.splitOn '\n') := by
  refine ⟨_, generate_eq .., ?_⟩
  rw [SkeletonDocument.HasBlock, String.toList_ofList, ← lines_blockRows htitle hblock]
  exact Template.splitOn_fill_of_infix hrows

end ZapUi
end UiSkeleton
