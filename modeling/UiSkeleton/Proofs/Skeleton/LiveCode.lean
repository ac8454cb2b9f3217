/-
What of a source reaches the live code of its skeleton: the colors and the size of the window, and
nothing else. The rows of the template that ask for anything else of the source are four
(`rows_askingSource`), and each of them is filled with comments alone: the count of the lines stands
behind a comment sign, and every line of the blocks of warnings, tasks and chains starts with one.
For the chains this needs that a converted chain has a line at all, or the closing semicolon would
stand alone; it has one because no chain is empty and no rule makes a text vanish.
-/
import Mathlib.Data.List.Basic
import UiSkeleton.Proofs.Catalog.Chain
import UiSkeleton.Proofs.Skeleton.Data
import UiSkeleton.Proofs.Template.Rows

namespace UiSkeleton.ZapUi

open SkeletonTarget (joinLines orElse bodyIndent)

/-- Whether the first characters of a line that are no blanks start a comment. -/
def isRemark (line : List Char) : Bool := "//".toList.isPrefixOf (Text.trimStart line)

/-- The lines of a text that are neither blank nor comments. -/
def liveLines (text : List Char) : List (List Char) :=
  (text.splitOn '\n').filter fun line => !((Text.trimStart line).isEmpty || isRemark line)

theorem liveLines_append_newline (a b : List Char) :
    liveLines (a ++ '\n' :: b) = liveLines a ++ liveLines b := by
  rw [liveLines, List.splitOn_append_cons_self, List.filter_append]
  rfl

theorem liveLines_fill (t : Template) (escaping : Escaping) (v : JsonValue) :
    liveLines (t.fill escaping v) = t.rows.flatMap fun row => liveLines (row.fill escaping v) := by
  rw [liveLines, Template.splitOn_fill, List.filter_flatMap]
  rfl

/-! ## Comments -/

/-- Every line of a text is a comment. -/
def AllRemarks (text : List Char) : Prop := ∀ line ∈ text.splitOn '\n', isRemark line = true

instance (text : List Char) : Decidable (AllRemarks text) :=
  inferInstanceAs (Decidable (∀ line ∈ text.splitOn '\n', isRemark line = true))

theorem AllRemarks.liveLines {text : List Char} (h : AllRemarks text) : liveLines text = [] := by
  rw [ZapUi.liveLines, List.filter_eq_nil_iff]
  intro line hline
  simp [h line hline]

theorem isRemark_append {a : List Char} (h : isRemark a = true) (b : List Char) :
    isRemark (a ++ b) = true := by
  rw [isRemark, List.isPrefixOf_iff_prefix, Text.trimStart] at h ⊢
  rw [List.dropWhile_append]
  split
  · rename_i ha
    rw [List.isEmpty_iff.1 ha] at h
    exact absurd (List.prefix_nil.1 h) (by decide)
  · exact h.trans (List.prefix_append _ _)

theorem AllRemarks.append {a b : List Char} (h : AllRemarks a) (hb : '\n' ∉ b) : AllRemarks (a ++ b) := by
  obtain ⟨init, last, ha, hab⟩ := Text.splitOn_append_of_not_mem hb a
  intro line hline
  rw [hab] at hline
  rcases List.mem_append.1 hline with hline | hline
  · exact h line (by simp [ha, hline])
  · rw [List.mem_singleton.1 hline]
    exact isRemark_append (h last (by simp [ha])) b

theorem AllRemarks.joinLines {lines : List String}
    (hne : lines ≠ []) (h : ∀ line ∈ lines, AllRemarks line.toList) :
    AllRemarks (joinLines lines).toList := by
  intro line hline
  rw [SkeletonTarget.joinLines, String.toList_intercalate, show "\n".toList = ['\n'] from rfl,
    Text.splitOn_intercalate_eq_flatMap (by simpa using hne), List.mem_flatMap] at hline
  obtain ⟨part, hpart, hline⟩ := hline
  obtain ⟨s, hs, rfl⟩ := List.mem_map.1 hpart
  exact h s hs line hline

theorem allRemarks_sign : AllRemarks "//".toList ∧ AllRemarks (bodyIndent ++ "//").toList := by
  constructor <;> decide

/-! ## The blocks of a skeleton -/

variable (name source : String)

theorem allRemarks_warnings :
    AllRemarks (joinLines (target.warningLines (analysisOf name source))).toList := by
  refine AllRemarks.joinLines orElse_ne_nil (forall_mem_orElse ?_ (by decide))
  intro line hline
  obtain ⟨warning, hwarning, rfl⟩ := List.mem_map.1 hline
  obtain ⟨rule, hrule, rfl⟩ := Catalog.mem_features_of_mem_warnings hwarning
  rw [String.toList_append, String.toList_append, List.append_assoc]
  refine allRemarks_sign.1.append ?_
  simpa using Catalog.newline_not_mem_message hrule

theorem allRemarks_todos (a : Analysis) :
    AllRemarks (joinLines (target.todoLines Catalog.builtin a)).toList := by
  refine AllRemarks.joinLines orElse_ne_nil (forall_mem_orElse ?_ (by decide))
  intro line hline
  obtain ⟨todo, htodo, rfl⟩ := List.mem_map.1 hline
  obtain ⟨rule, hrule, htodo⟩ := List.mem_filterMap.1 htodo
  rw [String.toList_append, String.toList_append, List.append_assoc]
  refine allRemarks_sign.2.append ?_
  simpa using Catalog.newline_not_mem_todo (List.mem_filter.1 hrule).1 htodo

theorem newline_not_mem_preview (chain : List Char) : '\n' ∉ SkeletonTarget.preview chain := by
  intro h
  rcases Text.mem_intercalate (List.mem_of_mem_take h) with hspace | ⟨word, hword, hmem⟩
  · simp at hspace
  · exact absurd (Text.not_blank_of_mem_words hword _ hmem) (by decide)

theorem allRemarks_chainGroup {chain : List Char} (h : chain ≠ []) :
    AllRemarks (target.chainGroup Catalog.builtin chain).toList := by
  have start : ∀ {rest : String}, '\n' ∉ rest.toList →
      AllRemarks (bodyIndent ++ target.lineComment ++ rest).toList :=
    fun hrest => by
      rw [String.toList_append]
      exact allRemarks_sign.2.append hrest
  have hconverted : AllRemarks (joinLines (target.convertedLines Catalog.builtin chain)).toList := by
    have hne : target.convertedLines Catalog.builtin chain ≠ [] := by
      simpa [SkeletonTarget.convertedLines] using Text.lines_ne_nil (Catalog.convert_ne_nil h)
    refine AllRemarks.joinLines hne fun line hline => ?_
    obtain ⟨converted, hmem, rfl⟩ := List.mem_map.1 hline
    rw [String.append_assoc]
    refine start ?_
    simpa using fun hn => Text.newline_not_mem_lines hmem (Text.mem_of_mem_trim hn)
  rw [SkeletonTarget.chainGroup, String.toList_append]
  refine AllRemarks.append (AllRemarks.joinLines (by simp) ?_) (by decide)
  intro line hline
  simp only [List.mem_cons, List.not_mem_nil, or_false] at hline
  rcases hline with rfl | rfl | rfl | rfl
  · exact start (by decide)
  · rw [String.append_assoc, String.append_assoc]
    refine start ?_
    simpa using newline_not_mem_preview chain
  · exact start (by decide)
  · exact hconverted

theorem liveLines_chainsBlock :
    liveLines (target.chainsBlock Catalog.builtin (analysisOf name source)).toList = [] := by
  have hgroups : ∀ group ∈ orElse
      (((analysisOf name source).divChains.take SkeletonTarget.maxChains).map fun chain =>
      target.chainGroup Catalog.builtin chain.toList)
        (bodyIndent ++ target.lineComment ++ " No div chains extracted"),
      liveLines group.toList = [] := by
    refine forall_mem_orElse ?_ (AllRemarks.liveLines (by decide))
    intro group hgroup
    obtain ⟨chain, hchain, rfl⟩ := List.mem_map.1 hgroup
    exact (allRemarks_chainGroup (Catalog.divChain_ne_nil (List.mem_of_mem_take hchain))).liveLines
  rw [SkeletonTarget.chainsBlock, String.toList_intercalate]
  generalize orElse _ _ = groups at hgroups
  induction groups with
  | nil => rfl
  | cons group groups ih =>
    have ih := ih fun g hg => hgroups g (by simp [hg])
    cases groups with
    | nil => simpa using hgroups group (by simp)
    | cons next groups =>
      rw [List.map_cons, List.map_cons, List.intercalate_cons_cons, List.append_assoc,
        show "\n\n".toList = ['\n', '\n'] from rfl, List.cons_append, List.cons_append, List.nil_append,
        liveLines_append_newline, hgroups group (by simp), List.nil_append]
      exact (liveLines_append_newline [] _).trans ih


/-! ## The rows of the template -/

/-- The members of the data through which a source could reach a skeleton. -/
def sourceKeys : List String := ["source_lines", "warnings", "todos", "chains"]

/-- Whether a tag asks for such a member. -/
def asksSource (tag : TemplateTag) : Bool :=
  match tag.keys with
  | [] => true
  | key :: _ => sourceKeys.contains key

/-- The row that counts the lines of the source. -/
def countRow : Template :=
  .text "//! Ported from ".toList <| .value (.ofKey "source_lines") false <|
    .text " lines of Rust. Manual adjustments needed - see warnings below.".toList .done

theorem rows_askingSource : zapTemplate.rows.filter (·.tags.any asksSource) =
    [countRow, .slotRow "warnings", .slotRow "todos", .slotRow "chains"] := by
  rw [Template.Spelled.eq (t := zapTemplate) ?spelled]
  case spelled => repeat constructor
  decide

variable (g : SkeletonGenerator)

/-- Analyses with the same `colors` and `windowSize` agree on every other member. -/
theorem child?_data_congr {s₁ s₂ : String} {a b : Analysis} (hcolors : a.colors = b.colors)
    (hwindow : a.windowSize = b.windowSize) {key : String} (h : key ∉ sourceKeys) :
    (g.data name s₁ a).child? key = (g.data name s₂ b).child? key := by
  simp only [sourceKeys, List.mem_cons, List.not_mem_nil, or_false, not_or] at h
  obtain ⟨hlines, hwarnings, htodos, hchains⟩ := h
  rw [child?_data, child?_data]
  simp only [List.lookup_cons, beq_eq_false_iff_ne.2 hlines, beq_eq_false_iff_ne.2 hwarnings,
    beq_eq_false_iff_ne.2 htodos, beq_eq_false_iff_ne.2 hchains, SkeletonTarget.colorLines, hcolors, hwindow]

/-! ## Two sources -/

theorem liveLines_slotRow {key : String} {d : JsonValue} {text : String}
    (h : d.child? key = some (.string text))
    (hlive : liveLines text.toList = []) : liveLines ((Template.slotRow key).fill .raw d) = [] := by
  rw [Template.fill_slotRow h, JsonValue.display_string, hlive]

theorem liveLines_countRow {d : JsonValue} {n : Nat} (h : d.child? "source_lines" = some (.number (.int n))) :
    liveLines (countRow.fill .raw d) = [] := by
  have hfill : countRow.fill .raw d = "//! Ported from ".toList ++ (Nat.toDigits 10 n ++
      " lines of Rust. Manual adjustments needed - see warnings below.".toList) := by
    simp [countRow, Template.fill, TemplateTag.ofKey, JsonValue.follow?, h, Escaping.apply,
      JsonValue.display_nat]
  have hstart : AllRemarks "//! Ported from ".toList := by decide
  have hrest : '\n' ∉ Nat.toDigits 10 n ++
      " lines of Rust. Manual adjustments needed - see warnings below.".toList := by
    rw [List.mem_append, not_or]
    refine ⟨fun hn => ?_, by decide⟩
    have hdigit := Nat.isDigit_of_mem_toDigits (by decide) (by decide) hn
    exact absurd hdigit (by decide)
  rw [hfill]
  exact (hstart.append hrest).liveLines

/-- A row that `asksSource` has no live line. -/
theorem liveLines_of_asksSource (font : String) {row : Template} (hrow : row ∈ zapTemplate.rows)
    (hasks : row.tags.any asksSource = true) :
    liveLines (row.fill .raw ((generatorFor font).data name source (analysisOf name source))) = [] := by
  have hmem : row ∈ zapTemplate.rows.filter (·.tags.any asksSource) := List.mem_filter.2 ⟨hrow, hasks⟩
  rw [rows_askingSource] at hmem
  have hchild := child?_data name source (generatorFor font) (analysisOf name source)
  simp only [List.mem_cons, List.not_mem_nil, or_false] at hmem
  rcases hmem with rfl | rfl | rfl | rfl
  · exact liveLines_countRow (hchild "source_lines")
  · exact liveLines_slotRow (hchild "warnings") (allRemarks_warnings name source).liveLines
  · exact liveLines_slotRow (hchild "todos") (allRemarks_todos (analysisOf name source)).liveLines
  · exact liveLines_slotRow (hchild "chains") (liveLines_chainsBlock name source)

/-- **Only the colors and the window of a source reach the live code of its skeleton.** Sources
whose `analysisOf` agree on `colors` and `windowSize` generate documents with the same `liveLines`,
and `chainsBlock` has none. -/
theorem liveLines_generate_congr (name font s₁ s₂ : String)
    (hcolors : (analysisOf name s₁).colors = (analysisOf name s₂).colors)
    (hwindow : (analysisOf name s₁).windowSize = (analysisOf name s₂).windowSize) :
    ∃ d₁ d₂, (generatorFor font).generate name s₁ (analysisOf name s₁) = .ok d₁ ∧
      (generatorFor font).generate name s₂ (analysisOf name s₂) = .ok d₂ ∧
      liveLines d₁.content.toList = liveLines d₂.content.toList ∧
      ∀ source, liveLines (target.chainsBlock Catalog.builtin (analysisOf name source)).toList = [] := by
  refine ⟨_, _, generate_eq .., generate_eq .., ?_, liveLines_chainsBlock name⟩
  rw [String.toList_ofList, String.toList_ofList, liveLines_fill, liveLines_fill]
  refine List.flatMap_congr fun row hrow => ?_
  cases hasks : row.tags.any asksSource with
  | true =>
    rw [liveLines_of_asksSource name s₁ font hrow hasks, liveLines_of_asksSource name s₂ font hrow hasks]
  | false =>
    -- every other member that the row asks for is the same for both sources
    refine congrArg liveLines (Template.fill_congr fun tag htag => ?_)
    have hother := List.any_eq_false.1 hasks tag htag
    rw [asksSource] at hother
    split at hother
    · simp at hother
    · rename_i key keys hkeys
      have hkey : key ∉ sourceKeys := by simpa using hother
      rw [hkeys, JsonValue.follow?, JsonValue.follow?,
        child?_data_congr name (generatorFor font) hcolors hwindow hkey]

/-- A chain over two lines, the second of which would be code, against no source at all. -/
theorem liveLines_generate_chain : ∃ d₁ d₂,
    (generatorFor "f.ttf").generate "a" "" (analysisOf "a" "") = .ok d₁ ∧
      (generatorFor "f.ttf").generate "a" "div()\n.x()" (analysisOf "a" "div()\n.x()") = .ok d₂ ∧
      liveLines d₁.content.toList = liveLines d₂.content.toList ∧
      ∀ source, liveLines (target.chainsBlock Catalog.builtin (analysisOf "a" source)).toList = [] :=
  liveLines_generate_congr "a" "f.ttf" "" "div()\n.x()" (by decide +kernel) (by decide +kernel)

end UiSkeleton.ZapUi
