/-
The block of chains, line by line. No line of a group is empty, whatever is in the chain: each
starts with the sign of a comment. So the empty lines of the block are those between its groups, and
cutting it there gives one group for each of the first chains, with three lines more than the chain
has.
-/
import Mathlib.Data.List.Forall2
import UiSkeleton.Proofs.Catalog.Balance
import UiSkeleton.Proofs.Skeleton.Block
import UiSkeleton.Proofs.Skeleton.LiveCode
import UiSkeleton.Proofs.Text.Words

namespace UiSkeleton

namespace Text

/-- The parts stand in the text, each behind the one before it. -/
inductive StandInOrder : (parts : List (List Char)) → (text : List Char) → Prop
  | nil (text : List Char) : StandInOrder [] text
  | cons (before part : List Char) {more : List (List Char)} {after : List Char}
      (rest : StandInOrder more after) :
    StandInOrder (part :: more) (before ++ part ++ after)

theorem StandInOrder.append_left {parts : List (List Char)} {text : List Char} (front : List Char)
    (h : StandInOrder parts text) : StandInOrder parts (front ++ text) := by
  cases h with
  | nil => exact .nil _
  | cons before part rest =>
    rw [← List.append_assoc, ← List.append_assoc]
    exact .cons (front ++ before) part rest

end Text

/-- What is found, without the blanks at its end, stands in the order of the pieces. -/
theorem Piece.standInOrder (pieces : List Piece) : Text.StandInOrder
    (((pieces.filterMap Piece.occurrence?).map Occurrence.text).map Text.trimEnd)
    (pieces.flatMap Piece.text) := by
  induction pieces with
  | nil => exact .nil []
  | cons piece pieces ih =>
    cases piece with
    | plain c => exact ih.append_left [c]
    | found o =>
      -- the blanks that are trimmed stand before what follows
      obtain ⟨blanks, hblanks⟩ := Text.trimEnd_prefix o.text
      rw [List.flatMap_cons, Piece.text, ← hblanks, List.append_assoc]
      exact .cons [] (Text.trimEnd o.text) (ih.append_left blanks)

namespace Catalog

variable {source chain : List Char}

theorem standInOrder_divChainsOf (source : List Char) :
    Text.StandInOrder (builtin.divChainsOf source) source := by
  have hpieces := Piece.standInOrder (builtin.extractors.divChain.pieces source)
  rw [Matcher.pieces, Pattern.flatMap_text_pieces, List.drop_zero] at hpieces
  rw [divChainsOf, Matcher.textMatcher_findAll, Matcher.findAll, if_pos divChain_reads.1]
  exact hpieces

/-- A chain has no blanks at its ends. -/
theorem trimmed_of_mem_divChainsOf (h : chain ∈ builtin.divChainsOf source) :
    Text.trimStart chain = chain ∧ ∀ c ∈ chain.getLast?, Text.isBlank c = false := by
  constructor
  · obtain ⟨tail, rfl⟩ := eq_append_of_mem_divChainsOf h
    exact Text.trimStart_letter (by decide)
  · obtain ⟨tail, -, rfl⟩ := exists_of_mem_divChainsOf h
    exact Text.not_blank_getLast?_trimEnd _

end Catalog

namespace ZapUi

open SkeletonTarget (joinLines orElse bodyIndent)

/-! ## The lines of a group -/

/-- The lines of a group whose converted chain has these lines. -/
def linesOf (chain : List Char) (init : List (List Char)) (last : List Char) : List (List Char) :=
  "        // Translated from Rust:".toList ::
    ("        // ".toList ++ (Text.collapsed chain).take 80 ++ "...".toList) ::
    "        // const elem =".toList ::
    (init.map (fun line => "        //     ".toList ++ Text.trim line) ++
      ["        //     ".toList ++ Text.trim last ++ ";".toList])

/-- What the lines of a group have to be for its chain: comments, three before those of the
converted chain, the last of which ends in a semicolon. -/
structure IsGroupOf (chain : List Char) (group : List (List Char)) : Prop where
  length : group.length = 3 + (Text.lines chain).length
  comment : ∀ line ∈ group, "        //".toList <+: line
  lines : ∃ init last, Text.lines (Catalog.builtin.convert chain) = init ++ [last] ∧
    group = linesOf chain init last

variable {source chain : List Char}

theorem preview_of_mem_divChainsOf (h : chain ∈ Catalog.builtin.divChainsOf source) :
    SkeletonTarget.preview chain = (Text.collapsed chain).take 80 := by
  obtain ⟨hstart, hend⟩ := Catalog.trimmed_of_mem_divChainsOf h
  rw [SkeletonTarget.preview, Text.intercalate_words hend, hstart, SkeletonTarget.previewLength]

theorem splitOn_convertedLines (h : chain ≠ []) :
    (joinLines (target.convertedLines Catalog.builtin chain)).toList.splitOn '\n' =
      (Text.lines (Catalog.builtin.convert chain)).map
        (fun line => "        //     ".toList ++ Text.trim line) := by
  have hne : target.convertedLines Catalog.builtin chain ≠ [] := by
    simpa [SkeletonTarget.convertedLines] using Text.lines_ne_nil (Catalog.convert_ne_nil h)
  have hline : ∀ line, (bodyIndent ++ target.lineComment ++ "     " ++
      String.ofList (Text.trim line)).toList =
      "        //     ".toList ++ Text.trim line := fun line => by
    rw [String.toList_append, String.toList_ofList]
    rfl
  rw [splitOn_joinLines hne, SkeletonTarget.convertedLines, List.map_map]
  · exact List.map_congr_left fun line _ => hline line
  · intro line hmem
    obtain ⟨l, hl, rfl⟩ := List.mem_map.1 hmem
    rw [hline, List.mem_append, not_or]
    exact ⟨by decide, fun hnewline => Text.newline_not_mem_lines hl (Text.mem_of_mem_trim hnewline)⟩

/-- The lines of the `chainGroup` of a chain. -/
theorem splitOn_chainGroup (h : chain ∈ Catalog.builtin.divChainsOf source)
    {init : List (List Char)} {last : List Char}
    (hconverted : Text.lines (Catalog.builtin.convert chain) = init ++ [last]) :
    (target.chainGroup Catalog.builtin chain).toList.splitOn '\n' = linesOf chain init last := by
  have hpreview : (bodyIndent ++ target.lineComment ++ " " ++
      String.ofList (SkeletonTarget.preview chain) ++ "...").toList =
      "        // ".toList ++ (Text.collapsed chain).take 80 ++ "...".toList := by
    rw [String.toList_append, String.toList_append, String.toList_ofList, preview_of_mem_divChainsOf h]
    rfl
  have hnewline : '\n' ∉ "        // ".toList ++ (Text.collapsed chain).take 80 ++ "...".toList := by
    rw [← preview_of_mem_divChainsOf h]
    simpa using newline_not_mem_preview chain
  have hjoined := splitOn_convertedLines (Catalog.ne_nil_of_mem_divChainsOf h)
  rw [hconverted, List.map_append, List.map_singleton] at hjoined
  rw [SkeletonTarget.chainGroup, String.toList_append, linesOf, ← List.cons_append,
    ← List.cons_append, ← List.cons_append]
  refine Text.splitOn_append_of_splitOn ?_ (by decide)
  have hheader : (bodyIndent ++ target.lineComment ++ " Translated from Rust:").toList.splitOn '\n' =
      ["        // Translated from Rust:".toList] := List.splitOn_eq_singleton (by decide)
  have helem : (bodyIndent ++ target.lineComment ++ " const elem =").toList.splitOn '\n' =
      ["        // const elem =".toList] := List.splitOn_eq_singleton (by decide)
  rw [joinLines, String.toList_intercalate, show "\n".toList = ['\n'] from rfl,
    Text.splitOn_intercalate_eq_flatMap (by simp)]
  simp only [List.map_cons, List.map_nil, List.flatMap_cons, List.flatMap_nil, hheader, hpreview,
    helem, hjoined, List.splitOn_eq_singleton hnewline, List.append_nil]
  rfl

theorem isGroupOf_chainGroup (h : chain ∈ Catalog.builtin.divChainsOf source) :
    IsGroupOf chain ((target.chainGroup Catalog.builtin chain).toList.splitOn '\n') := by
  obtain ⟨init, last, hconverted⟩ := (List.eq_nil_or_concat' _).resolve_left
    (Text.lines_ne_nil (Catalog.convert_ne_nil (Catalog.ne_nil_of_mem_divChainsOf h)))
  have hlines := splitOn_chainGroup h hconverted
  refine ⟨?_, ?_, init, last, hconverted, hlines⟩
  · have hlength := (Catalog.sameStructure_convert chain).length_lines
    rw [hconverted, List.length_append, List.length_singleton] at hlength
    rw [hlines, ← hlength, linesOf]
    simp only [List.length_cons, List.length_append, List.length_map, List.length_nil]
    omega
  · have hsign : ∀ {start : List Char}, "        //".toList <+: start →
        ∀ rest, "        //".toList <+: start ++ rest :=
      fun hstart rest => hstart.trans (List.prefix_append _ rest)
    rw [hlines, linesOf, List.forall_mem_cons, List.forall_mem_cons, List.forall_mem_cons,
      List.forall_mem_append,
      List.forall_mem_map, List.forall_mem_singleton, List.append_assoc, List.append_assoc]
    exact ⟨by decide, hsign (by decide) _, by decide, fun line _ => hsign (by decide) _, hsign (by decide) _⟩

/-! ## The block -/

/-- The title of the chains. -/
def chainsTitle : List String := ["        // Original div chains (auto-translated, may need fixes):"]

theorem rows_chains : blockRows chainsTitle "chains" <:+: zapTemplate.rows := by
  rw [Template.Spelled.eq (t := zapTemplate) ?spelled]
  case spelled => repeat constructor
  decide +kernel

/-- The groups of the block, each as its lines. -/
def groupLines (a : Analysis) : List (List (List Char)) :=
  (a.divChains.take SkeletonTarget.maxChains).map fun chain =>
    (target.chainGroup Catalog.builtin chain.toList).toList.splitOn '\n'

theorem splitOn_chainsBlock {a : Analysis} (h : a.divChains ≠ []) :
    (target.chainsBlock Catalog.builtin a).toList.splitOn '\n' = [[]].intercalate (groupLines a) := by
  have htake : a.divChains.take SkeletonTarget.maxChains ≠ [] := by
    simpa [SkeletonTarget.maxChains] using h
  rw [SkeletonTarget.chainsBlock, groupLines]
  generalize target.chainGroup Catalog.builtin = group
  rw [String.toList_intercalate, orElse_of_ne_nil (by simpa using htake),
    Text.splitOn_intercalate_newlines (by simpa using htake)]
  simp only [List.map_map, Function.comp_def]

theorem isGroupOf_of_mem_divChains {source chain : String}
    (h : chain ∈ (Catalog.builtin.analyze source).divChains) :
    IsGroupOf chain.toList ((target.chainGroup Catalog.builtin chain.toList).toList.splitOn '\n') := by
  rw [Catalog.divChains_analyze] at h
  obtain ⟨cs, hcs, rfl⟩ := List.mem_map.1 h
  rw [String.toList_ofList]
  exact isGroupOf_chainGroup hcs

theorem forall₂_groupLines (source : String) : List.Forall₂ IsGroupOf
    (((Catalog.builtin.analyze source).divChains.take 5).map String.toList)
    (groupLines (Catalog.builtin.analyze source)) := by
  rw [groupLines, SkeletonTarget.maxChains, List.forall₂_map_left_iff, List.forall₂_map_right_iff,
    List.forall₂_same]
  exact fun chain hchain => isGroupOf_of_mem_divChains (List.mem_of_mem_take hchain)

theorem child?_chains (name font source : String) (a : Analysis) :
    ((generatorFor font).data name source a).child? "chains" =
      some (.string (target.chainsBlock Catalog.builtin a)) :=
  child?_data name source (generatorFor font) a "chains"

/-- The lines of the block. -/
def chainsLines (a : Analysis) : List (List Char) :=
    (target.chainsBlock Catalog.builtin a).toList.splitOn '\n'

/-- No group has an empty line, so the empty lines of the block stand between its groups. -/
theorem splitOn_chainsLines {source : String} (h : (Catalog.builtin.analyze source).divChains ≠ []) :
    (chainsLines (Catalog.builtin.analyze source)).splitOn [] =
      groupLines (Catalog.builtin.analyze source) := by
  rw [chainsLines, splitOn_chainsBlock h]
  refine List.splitOn_intercalate [] (fun group hgroup hempty => ?_) ?_
  · obtain ⟨chain, hchain, rfl⟩ := List.mem_map.1 hgroup
    have hcomment := (isGroupOf_of_mem_divChains (List.mem_of_mem_take hchain)).comment [] hempty
    exact absurd hcomment (by decide)
  · simpa [groupLines, SkeletonTarget.maxChains] using h

/-- **The block of chains, cut at its empty lines, has one group for each of the first five
`divChains`**, which `StandInOrder` in the source. `IsGroupOf` says what its lines are. -/
theorem chainLines_generate (name font source : String)
    (h : (Catalog.builtin.analyze source).divChains ≠ []) :
    let chains := (Catalog.builtin.analyze source).divChains
    let groups := (chainsLines (Catalog.builtin.analyze source)).splitOn []
    (∃ document, (generatorFor font).generate name source (Catalog.builtin.analyze source) = .ok document ∧
      document.HasBlock chainsTitle (chainsLines (Catalog.builtin.analyze source))) ∧
    Text.StandInOrder (chains.map String.toList) source.toList ∧
    groups.length = min chains.length 5 ∧
    List.Forall₂ IsGroupOf ((chains.take 5).map String.toList) groups := by
  intro chains groups
  have hforall := splitOn_chainsLines h ▸ forall₂_groupLines source
  refine ⟨?_, ?_, ?_, hforall⟩
  · exact hasBlock_generate rows_chains (by decide +kernel) (child?_chains name font source _)
  · have horder := Catalog.standInOrder_divChainsOf source.toList
    rw [show chains = _ from Catalog.divChains_analyze _ _, List.map_map]
    simpa using horder
  · have hlength := hforall.length_eq
    rw [List.length_map, List.length_take] at hlength
    rw [← hlength, Nat.min_comm]

/-- Two chains, the first of them with an empty line and a line that ends in a carriage return. -/
theorem chainLines_generate_two :
    let source := "let a = div()\r\n\n  .bg(gpui::red()); let b = div().child(\"x\");"
    let groups := (chainsLines (Catalog.builtin.analyze source)).splitOn []
    (Catalog.builtin.analyze source).divChains ≠ [] ∧ groups.length = 2 ∧
      List.Forall₂ IsGroupOf ["div()\r\n\n  .bg(gpui::red())".toList, "div().child(\"x\")".toList]
        groups := by
  intro source groups
  have hchains : (Catalog.builtin.analyze source).divChains =
      ["div()\r\n\n  .bg(gpui::red())", "div().child(\"x\")"] := by decide +kernel
  have hne : (Catalog.builtin.analyze source).divChains ≠ [] := by simp [hchains]
  obtain ⟨-, -, hlength, hgroups⟩ := chainLines_generate "two_chains" "font.ttf" source hne
  rw [hchains] at hlength hgroups
  exact ⟨hne, hlength, hgroups⟩

end ZapUi
end UiSkeleton
