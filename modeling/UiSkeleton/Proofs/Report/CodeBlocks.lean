/-
Code blocks of Markdown. A line that starts with three or more backticks opens a block, and the
block goes on up to the first line that is made of at least as many backticks. A fence is longer
than every row of backticks in its text, so no line of the text closes the block; and nothing else
in a report has a backtick, so both blocks are read and no other one.
-/
import UiSkeleton.Proofs.Naming
import UiSkeleton.Proofs.Catalog.Chain
import UiSkeleton.Proofs.Report.Data
import UiSkeleton.Proofs.Report.Fence
import UiSkeleton.Proofs.Skeleton.Data
import UiSkeleton.Proofs.Template.Rows

namespace UiSkeleton.Fenced

/-- A code block of a text. -/
structure CodeBlock where
  language : List Char
  content : List Char
  deriving DecidableEq, Repr

/-- A block whose end is not read yet. -/
structure OpenBlock where
  /-- How many backticks opened it. -/
  fence : Nat
  language : List Char
  lines : List (List Char)

/-- How many backticks a line starts with. -/
def ticks (line : List Char) : Nat := (line.takeWhile (· == backtick)).length

/-- Whether a line ends a block that was opened by the given number of backticks. -/
def closes (fence : Nat) (line : List Char) : Bool := line.all (· == backtick) && fence ≤ line.length

/-- The blocks of some lines, unless the last one is left open. -/
def readBlocks : Option OpenBlock → List (List Char) → Option (List CodeBlock)
  | none, [] => some []
  | some _, [] => none
  | none, line :: more =>
    if ticks line < 3 then readBlocks none more
    else readBlocks (some ⟨ticks line, line.drop (ticks line), []⟩) more
  | some b, line :: more =>
    if closes b.fence line then (readBlocks none more).map (⟨b.language, ['\n'].intercalate b.lines⟩ :: ·)
    else readBlocks (some { b with lines := b.lines ++ [line] }) more

/-- The code blocks of a text. -/
def codeBlocks (text : List Char) : Option (List CodeBlock) := readBlocks none (text.splitOn '\n')

/-- The lines add the given blocks to those of whatever follows. -/
def Yields (lines : List (List Char)) (blocks : List CodeBlock) : Prop :=
  ∀ more, readBlocks none (lines ++ more) = (readBlocks none more).map (blocks ++ ·)

theorem Yields.append {l m : List (List Char)} {x y : List CodeBlock} (hl : Yields l x) (hm : Yields m y) :
    Yields (l ++ m) (x ++ y) := by
  intro more
  rw [List.append_assoc, hl, hm, Option.map_map]
  congr 1
  funext blocks
  exact (List.append_assoc ..).symm

theorem yields_of_ticks {lines : List (List Char)} (h : ∀ line ∈ lines, ticks line < 3) :
    Yields lines [] := by
  intro more
  induction lines with
  | nil => simp
  | cons line lines ih =>
    rw [List.cons_append, readBlocks, if_pos (h line (by simp)), ih fun l hl => h l (by simp [hl])]

/-- Inside a block, lines that do not close it are taken as they are. -/
theorem readBlocks_inside {b : OpenBlock}
    {lines : List (List Char)} (h : ∀ line ∈ lines, closes b.fence line = false)
    (more : List (List Char)) :
    readBlocks (some b) (lines ++ more) = readBlocks (some { b with lines := b.lines ++ lines }) more := by
  induction lines generalizing b with
  | nil => simp
  | cons line lines ih =>
    rw [List.cons_append, readBlocks, if_neg (by simp [h line (by simp)]),
      ih (b := { b with lines := b.lines ++ [line] }) fun l hl => h l (by simp [hl])]
    simp

/-- A row of backticks. -/
def fence (n : Nat) : List Char := List.replicate n backtick

theorem ticks_fence_append (n : Nat) {language : List Char} (h : language.head? ≠ some backtick) :
    ticks (fence n ++ language) = n := by
  have hlanguage : language.takeWhile (· == backtick) = [] := by
    cases language with
    | nil => rfl
    | cons c r => exact List.takeWhile_cons_of_neg (by simpa using h)
  rw [ticks, fence, List.takeWhile_append_of_pos (by simp), hlanguage]
  simp

theorem yields_block {n : Nat} {language : List Char} {lines : List (List Char)} (hn : 3 ≤ n)
    (hlanguage : language.head? ≠ some backtick) (h : ∀ line ∈ lines, closes n line = false) :
    Yields ((fence n ++ language) :: (lines ++ [fence n])) [⟨language, ['\n'].intercalate lines⟩] := by
  intro more
  have hticks := ticks_fence_append n hlanguage
  have hcloses : closes n (fence n) = true := by simp [closes, fence]
  have hdrop : (fence n ++ language).drop n = language := List.drop_left' (by simp [fence])
  rw [List.cons_append, List.append_assoc, readBlocks, if_neg (by omega), hticks, hdrop, readBlocks_inside h,
    List.singleton_append, readBlocks, if_pos hcloses]
  simp

/-! ## Fenced texts -/

/-- How many backticks the fence of a text has. -/
def fenceLength (text : String) : Nat := max (longestRow text.toList) 2 + 1

/-- No line of a text closes its block. -/
theorem not_closes {text : String} {line : List Char} (h : line ∈ text.toList.splitOn '\n') :
    closes (fenceLength text) line = false := by
  rw [Bool.eq_false_iff]
  intro hcloses
  simp only [closes, Bool.and_eq_true, List.all_eq_true, beq_iff_eq, decide_eq_true_eq] at hcloses
  have hinfix : line <:+: text.toList := by
    have hpart := Text.infix_intercalate ['\n'] h
    rwa [List.intercalate_splitOn] at hpart
  have hrow := length_le_longestRow hcloses.1 hinfix
  have hfence : longestRow text.toList < fenceLength text := Nat.lt_succ_of_le (Nat.le_max_left ..)
  omega

/-- **A text in its `codeFence` is read as one block**, whatever the text is. -/
theorem yields_codeFence (text : String) {language : List Char} (h : language.head? ≠ some backtick) :
    Yields (((codeFence text).toList ++ language) :: (text.toList.splitOn '\n' ++ [(codeFence text).toList]))
      [⟨language, text.toList⟩] := by
  have hfence : (codeFence text).toList = fence (fenceLength text) := String.toList_ofList
  have hlength : 3 ≤ fenceLength text := Nat.succ_le_succ (Nat.le_max_right ..)
  have hinside : ∀ line ∈ text.toList.splitOn '\n', closes (fenceLength text) line = false :=
    fun _ => not_closes
  have hblock := yields_block hlength h hinside
  rwa [List.intercalate_splitOn, ← hfence] at hblock

/-! ## The rows of a report -/

/-- The ways to values without backticks, for the examples that can be named. -/
def plainWays : List (List String) :=
  [["title"], ["source_lines"], ["skeleton_lines"], ["color_count"], ["window_size"], ["assets", "gpui"],
    ["assets", "zapui"], ["assets", "diff"], ["assets", "animation"], ["name"], ["skeleton_file"]]

/-- Whether the texts of a row have no backticks and its values neither. -/
def isPlainRow (row : Template) : Bool :=
  !row.letters.contains backtick && row.slots.all (fun tag => plainWays.contains tag.keys) &&
    row.repeats.all fun (tag, body) => tag.keys == ["warnings"] && body.repeats.isEmpty &&
      !body.letters.contains backtick && body.slots.all (·.keys.isEmpty)

/-- The row that opens the block of the source. -/
def sourceOpening : Template :=
  .text [] <| .value (.ofKey "source_fence") false <| .text "rust".toList .done

/-- The row that opens the block of the skeleton. -/
def skeletonOpening : Template :=
  .text [] <| .value (.ofKey "skeleton_fence") false <| .value (.ofKey "skeleton_lang") false <|
    .text [] .done

theorem fill_sourceOpening {v : JsonValue} {fence : String}
    (h : v.child? "source_fence" = some (.string fence)) :
    sourceOpening.fill .raw v = fence.toList ++ "rust".toList := by
  simp only [sourceOpening, Template.fill, TemplateTag.ofKey, JsonValue.follow?, h, Option.bind_some,
    JsonValue.display_string, Escaping.apply, Bool.false_eq_true, if_false, List.nil_append, List.append_nil]

theorem fill_skeletonOpening {v : JsonValue} {fence language : String}
    (hfence : v.child? "skeleton_fence" = some (.string fence))
    (hlanguage : v.child? "skeleton_lang" = some (.string language)) :
    skeletonOpening.fill .raw v = fence.toList ++ language.toList := by
  simp only [skeletonOpening, Template.fill, TemplateTag.ofKey, JsonValue.follow?, hfence,
    hlanguage, Option.bind_some,
    JsonValue.display_string, Escaping.apply, Bool.false_eq_true, if_false, List.nil_append, List.append_nil]

/-- The two blocks of the report stand between plain rows. -/
theorem rows_blocks : ∃ before between after, markdownReport.rows =
    before ++ ([sourceOpening, .slotRow "source", .slotRow "source_fence"] ++ (between ++
      ([skeletonOpening, .slotRow "skeleton", .slotRow "skeleton_fence"] ++ after))) ∧
    (before ++ between ++ after).all isPlainRow = true := by
  refine ⟨markdownReport.rows.take 26, (markdownReport.rows.drop 29).take 3, markdownReport.rows.drop 35, ?_⟩
  rw [Template.Spelled.eq (t := markdownReport) ?spelled]
  case spelled => repeat constructor
  decide

section Values

variable (name : ExampleName) (source content : String)

/-- What the report on an example is filled with, for a skeleton with the given content. -/
abbrev reportData : JsonValue :=
  ReportFormat.data name.text source ⟨name.text, "zig", content⟩ (ZapUi.analysisOf name.text source)

theorem tick_not_mem_name : backtick ∉ name.text.toList := fun h => absurd (name.plain _ h) (by decide)

theorem tick_not_mem_title : backtick ∉ (Naming.displayTitle name.text).toList := fun h => by
  rcases Naming.mem_displayTitle h with h | h <;> exact absurd h (by decide)

theorem tick_not_mem_size (size : WindowSize) : backtick ∉ size.text.toList := by
  simp only [WindowSize.text, String.toList_append, List.mem_append, not_or, Nat.toString_eq_repr,
    Nat.toList_repr]
  exact ⟨⟨Text.not_mem_toDigits (by decide) _, by decide⟩, Text.not_mem_toDigits (by decide) _⟩

theorem tick_not_mem_asset (file : String) (h : backtick ∉ file.toList) :
    backtick ∉ ("../screenshots/" ++ name.text ++ "/" ++ file).toList := by
  simp only [String.toList_append, List.mem_append, not_or]
  exact ⟨⟨⟨by decide, tick_not_mem_name name⟩, by decide⟩, h⟩

theorem tick_not_mem_value {keys : List String} (h : keys ∈ plainWays) {w : JsonValue}
    (hw : (reportData name source content).follow? keys = some w) : backtick ∉ w.display := by
  have hchild := ReportFormat.child?_data name.text source ⟨name.text, "zig", content⟩
    (ZapUi.analysisOf name.text source)
  have member : ∀ {key v}, (reportData name source content).child? key = some v →
      (reportData name source content).follow? [key] = some w → backtick ∉ v.display →
      backtick ∉ w.display := by
    intro key v hv hfollow hdisplay
    rw [JsonValue.follow?, hv] at hfollow
    rwa [← Option.some.inj hfollow]
  have asset : ∀ {key file}, (AssetRefs.ofName name.text).data.child? key =
      some (.string ("../screenshots/" ++ name.text ++ "/" ++ file)) →
      (reportData name source content).follow? ["assets", key] = some w → backtick ∉ file.toList →
      backtick ∉ w.display := by
    intro key file hfile hfollow hplain
    rw [JsonValue.follow?, hchild "assets"] at hfollow
    change ((AssetRefs.ofName name.text).data.child? key).bind _ = _ at hfollow
    rw [hfile] at hfollow
    rw [← Option.some.inj hfollow]
    exact tick_not_mem_asset name file hplain
  have hassets := ReportFormat.child?_assets (AssetRefs.ofName name.text)
  simp only [plainWays, List.mem_cons, List.not_mem_nil, or_false] at h
  rcases h with rfl | rfl | rfl | rfl | rfl | rfl | rfl | rfl | rfl | rfl | rfl
  · refine member (hchild "title") hw ?_
    rw [JsonValue.display_string, ReportFormat.titleOf]
    split <;> exact tick_not_mem_title name
  · exact member (hchild "source_lines") hw (JsonValue.display_nat _ ▸ Text.not_mem_toDigits (by decide) _)
  · exact member (hchild "skeleton_lines") hw (JsonValue.display_nat _ ▸ Text.not_mem_toDigits (by decide) _)
  · exact member (hchild "color_count") hw (JsonValue.display_nat _ ▸ Text.not_mem_toDigits (by decide) _)
  · exact member (hchild "window_size") hw (tick_not_mem_size _)
  · exact asset (hassets "gpui") hw (by decide)
  · exact asset (hassets "zapui") hw (by decide)
  · exact asset (hassets "diff") hw (by decide)
  · exact asset (hassets "animation") hw (by decide)
  · exact member (hchild "name") hw (tick_not_mem_name name)
  · refine member (hchild "skeleton_file") hw ?_
    simp only [JsonValue.display_string, SkeletonDocument.fileName, String.toList_append,
      List.mem_append, not_or]
    exact ⟨⟨tick_not_mem_name name, by decide⟩, by decide⟩

theorem tick_not_mem_warning {warning : String}
    (h : warning ∈ (ZapUi.analysisOf name.text source).warnings.toList) :
    backtick ∉ warning.toList := by
  obtain ⟨rule, hrule, rfl⟩ := Catalog.mem_features_of_mem_warnings h
  have hplain : Catalog.builtinFeatures.all (fun rule => !rule.message.toList.contains backtick) = true := by
    decide
  simpa using List.all_eq_true.1 hplain rule hrule

theorem ticks_of_isPlainRow {row : Template} (h : isPlainRow row = true) {line : List Char}
    (hline : line ∈ (row.fill .raw (reportData name source content)).splitOn '\n') : ticks line < 3 := by
  simp only [isPlainRow, Bool.and_eq_true, Bool.not_eq_true', List.all_eq_true, beq_iff_eq, List.isEmpty_iff,
    List.contains_eq_mem, decide_eq_true_eq, decide_eq_false_iff_not] at h
  obtain ⟨⟨hletters, hslots⟩, hrepeats⟩ := h
  have hrow : backtick ∉ row.fill .raw (reportData name source content) := by
    refine Template.not_mem_fill hletters (fun tag htag w hw => ?_) fun ⟨tag, body⟩ hr items hitems
      item hitem => ?_
    · exact tick_not_mem_value name source content (hslots tag htag) hw
    · obtain ⟨⟨⟨hkeys, hnone⟩, hbody⟩, hcurrent⟩ := hrepeats _ hr
      rw [hkeys, ReportFormat.follow?_warnings] at hitems
      obtain rfl := Option.some.inj hitems
      obtain ⟨warning, hwarning, rfl⟩ := List.mem_map.1 hitem
      refine Template.not_mem_fill hbody (fun tag htag w hw => ?_) (by simp [hnone])
      rw [hcurrent tag htag] at hw
      obtain rfl := Option.some.inj hw
      exact tick_not_mem_warning name source hwarning
  have hplain : backtick ∉ line := fun hc => by
    have hmem := (Text.infix_intercalate ['\n'] hline).subset hc
    rw [List.intercalate_splitOn] at hmem
    exact hrow hmem
  cases line with
  | nil => decide
  | cons c r =>
    have hc : c ≠ backtick := by
      rintro rfl
      simp at hplain
    rw [ticks, List.takeWhile_cons_of_neg (by simpa using hc)]
    decide

end Values

theorem newline_not_mem_codeFence (text : String) : '\n' ∉ (codeFence text).toList := by
  rw [codeFence, String.toList_ofList]
  exact fun h => absurd (List.eq_of_mem_replicate h) (by decide)

/-- The rows of a fenced text are read as its block. -/
theorem yields_rows {v : JsonValue} {opening : Template} {key fenceKey text : String} (language : List Char)
    (hlanguage : language.head? ≠ some backtick ∧ '\n' ∉ language)
    (hopening : opening.fill .raw v = (codeFence text).toList ++ language)
    (htext : v.child? key = some (.string text))
    (hfence : v.child? fenceKey = some (.string (codeFence text))) :
    Yields ([opening, .slotRow key, .slotRow fenceKey].flatMap fun row => (row.fill .raw v).splitOn '\n')
      [⟨language, text.toList⟩] := by
  have hline : '\n' ∉ (codeFence text).toList ++ language := by
    rw [List.mem_append, not_or]
    exact ⟨newline_not_mem_codeFence text, hlanguage.2⟩
  simp only [List.flatMap_cons, List.flatMap_nil, List.append_nil, hopening, Template.fill_slotRow htext,
    Template.fill_slotRow hfence, JsonValue.display_string, List.splitOn_eq_singleton hline,
    List.splitOn_eq_singleton (newline_not_mem_codeFence text), List.singleton_append]
  exact yields_codeFence text hlanguage.1

theorem codeBlocks_markdownReport (name : ExampleName) (source content : String) :
    codeBlocks (markdownReport.fill .raw (reportData name source content)) =
      some [⟨"rust".toList, source.toList⟩, ⟨"zig".toList, content.toList⟩] := by
  obtain ⟨before, between, after, hrows, hplain⟩ := rows_blocks
  rw [List.all_append, List.all_append, Bool.and_eq_true, Bool.and_eq_true] at hplain
  obtain ⟨⟨hbefore, hbetween⟩, hafter⟩ := hplain
  have plain : ∀ {rows : List Template}, rows.all isPlainRow = true →
      Yields (rows.flatMap fun row => (row.fill .raw (reportData name source content)).splitOn '\n') [] := by
    intro rows h
    refine yields_of_ticks fun line hline => ?_
    obtain ⟨row, hrow, hline⟩ := List.mem_flatMap.1 hline
    exact ticks_of_isPlainRow name source content (List.all_eq_true.1 h row hrow) hline
  have hchild := ReportFormat.child?_data name.text source ⟨name.text, "zig", content⟩
    (ZapUi.analysisOf name.text source)
  have hsource := yields_rows "rust".toList (by decide) (fill_sourceOpening (hchild "source_fence"))
    (hchild "source") (hchild "source_fence")
  have hskeleton := yields_rows "zig".toList (by decide)
    (fill_skeletonOpening (hchild "skeleton_fence") (hchild "skeleton_lang")) (hchild "skeleton")
      (hchild "skeleton_fence")
  have hall := ((plain hbefore).append
    (hsource.append ((plain hbetween).append (hskeleton.append (plain hafter))))) []
  rw [List.append_nil, readBlocks] at hall
  rw [codeBlocks, Template.splitOn_fill, hrows]
  simp only [List.flatMap_append]
  exact hall

/-- **The files in a Markdown report can be read back**: its `codeBlocks` are the source and the
skeleton, whatever backticks they hold. -/
theorem codeBlocks_report (name : ExampleName) (font source : String) :
    ∃ skeleton, (ZapUi.generatorFor font).generate name.text source
      (ZapUi.analysisOf name.text source) = .ok skeleton ∧
      ∃ report, ReportFormat.markdown.generate name.text source skeleton
        (ZapUi.analysisOf name.text source) = .ok report ∧
      codeBlocks report.content.toList =
        some [⟨"rust".toList, source.toList⟩, ⟨"zig".toList, skeleton.content.toList⟩] := by
  refine ⟨_, ZapUi.generate_eq .., _, ReportFormat.generate_eq .., ?_⟩
  rw [String.toList_ofList]
  exact codeBlocks_markdownReport name source _

end UiSkeleton.Fenced
