/-
The constants that a skeleton declares at the top level. The rows of the template that may declare
one are few: those of the toolkit, the colors, the view's type and the size of the window. So the
declared names are known one by one, and only the name of the type, which is made from the name of
the example, can be no identifier or one that is declared already.
-/
import UiSkeleton.Proofs.Naming
import UiSkeleton.Proofs.Skeleton.Excerpt
import UiSkeleton.Proofs.Skeleton.LiveCode

namespace UiSkeleton

/-- Whether a text is an identifier: a letter or an underscore, and then letters, digits and
underscores. -/
def isIdentifier : List Char → Bool
  | [] => false
  | c :: r => (c.isAlpha || c == '_') && r.all fun d => d.isAlphanum || d == '_'

namespace ZapUi

open SkeletonTarget (joinLines orElse)

/-! ## Declarations of a text -/

/-- The name that a line declares at the top level: what stands between the keyword and the next
blank or colon. -/
def declared? (line : List Char) : Option (List Char) :=
  if "const ".toList.isPrefixOf line then some ((line.drop 6).takeWhile fun c => c != ' ' &&
    c != ':') else none

/-- The names that the lines of a text declare at the top level. -/
def declarations (text : List Char) : List (List Char) := (text.splitOn '\n').filterMap declared?

theorem declared?_const {name rest : List Char} {c : Char}
    (hname : ∀ d ∈ name, (d.isAlphanum || d == '_') = true) (hc : (c != ' ' && c != ':') = false) :
    declared? ("const ".toList ++ (name ++ c :: rest)) = some name := by
  have hname : ∀ d ∈ name, (d != ' ' && d != ':') = true := by
    intro d hd
    rw [Bool.and_eq_true, bne_iff_ne, bne_iff_ne]
    constructor <;> (rintro rfl; exact absurd (hname _ hd) (by decide))
  have hprefix : "const ".toList.isPrefixOf ("const ".toList ++ (name ++ c :: rest)) = true :=
    List.isPrefixOf_iff_prefix.2 (List.prefix_append _ _)
  rw [declared?, if_pos hprefix, List.drop_left' (by decide), List.takeWhile_append_of_pos hname]
  simp [hc]

theorem declared?_append_eq_none {front : List Char} (h : front.isPrefixOf "const ".toList = false)
    (h' : "const ".toList.isPrefixOf front = false) (rest : List Char) :
    declared? (front ++ rest) = none := by
  rw [declared?, if_neg]
  intro hprefix
  -- of two fronts of one line, one is the front of the other
  rcases List.prefix_or_prefix_of_prefix (List.isPrefixOf_iff_prefix.1 hprefix) (List.prefix_append
      front rest) with hc | hc
  · rw [List.isPrefixOf_iff_prefix.2 hc] at h'
    cases h'
  · rw [List.isPrefixOf_iff_prefix.2 hc] at h
    cases h

theorem declarations_of_line {line : List Char} (h : '\n' ∉ line) :
    declarations line = (declared? line).toList := by
  rw [declarations, List.splitOn_eq_singleton h]
  cases hline : declared? line <;> simp [hline]

theorem declarations_const {name rest : List Char} {c : Char}
    (hname : ∀ d ∈ name, (d.isAlphanum || d == '_') = true)
    (hc : c = ' ' ∨ c = ':') (hrest : '\n' ∉ rest) :
    declarations ("const ".toList ++ (name ++ c :: rest)) = [name] := by
  have hline : '\n' ∉ "const ".toList ++ (name ++ c :: rest) := by
    simp only [List.mem_append, List.mem_cons, not_or]
    refine ⟨by decide, fun h => absurd (hname _ h) (by decide), ?_, hrest⟩
    rcases hc with rfl | rfl <;> decide
  rw [declarations_of_line hline, declared?_const hname (by rcases hc with rfl | rfl <;> rfl)]
  rfl

/-- Only `liveLines` declare names. -/
theorem declarations_eq_liveLines (text : List Char) :
    declarations text = (liveLines text).filterMap declared? := by
  -- the keyword is neither blank nor the mark of a comment
  have hlive : ∀ line, declared? line = none ∨ ((Text.trimStart line).isEmpty || isRemark line) = false := by
    intro line
    by_cases hprefix : "const ".toList.isPrefixOf line = true
    · obtain ⟨rest, rfl⟩ := List.isPrefixOf_iff_prefix.1 hprefix
      exact .inr rfl
    · exact .inl (if_neg hprefix)
  rw [declarations, liveLines, List.filterMap_filter]
  refine List.filterMap_congr fun line _ => ?_
  rcases hlive line with h | h
  · rw [h]
    simp
  · simp [h]

theorem declarations_of_liveLines {text : List Char} (h : liveLines text = []) : declarations text = [] := by
  rw [declarations_eq_liveLines, h, List.filterMap_nil]

theorem declarations_fill (t : Template) (escaping : Escaping) (v : JsonValue) :
    declarations (t.fill escaping v) = t.rows.flatMap fun row => declarations (row.fill escaping v) := by
  rw [declarations, Template.splitOn_fill, List.filterMap_flatMap]
  rfl

/-! ## Rows that declare names -/

/-- What every skeleton takes from the toolkit: the names and where they are found. -/
def toolkit : List (String × String) := [
  ("std", "@import(\"std\")"),
  ("zapui", "@import(\"zapui\")"),
  ("zglfw", "@import(\"zglfw\")"),
  ("GlRenderer", "zapui.GlRenderer"),
  ("TextSystem", "zapui.TextSystem"),
  ("Scene", "zapui.Scene"),
  ("zaffy", "zapui.zaffy"),
  ("Pixels", "zapui.Pixels"),
  ("div", "zapui.elements.div.div"),
  ("v_flex", "zapui.elements.div.v_flex"),
  ("h_flex", "zapui.elements.div.h_flex"),
  ("reset", "zapui.elements.div.reset"),
  ("px", "zapui.elements.div.px")]

def toolkitNames : List String := toolkit.map Prod.fst

def sizeNames : List String := ["WIDTH", "HEIGHT"]

/-- A row that declares a name of the toolkit. -/
def toolkitRow (name place : String) : Template :=
    .text ("const " ++ name ++ " = " ++ place ++ ";").toList .done

/-- The row that declares the type of the view. -/
def typeRow : Template :=
  .text "const ".toList <| .value (.ofKey "type_name") false <| .text " = struct \x7b".toList .done

/-- A row that declares a part of the window's size. -/
def sizeRow (name key : String) : Template :=
  .text ("const " ++ name ++ ": f32 = ").toList <| .value (.ofKey key) false <| .text ";".toList .done

/-- The members of the data that a line of the template takes up. -/
def lineKeys : List String := ["name", "title", "type_name", "target", "source_lines", "font_asset"]

/-- Whether a row is one line, whatever stands in for its tags, and the start of the line shows that
it declares no name. -/
def declaresNothing (row : Template) : Bool :=
  !row.letters.contains '\n' && row.repeats.isEmpty &&
    row.slots.all (fun tag => lineKeys.any fun key => tag.keys = [key]) &&
    match row with
    | .text cs .done => (declared? cs).isNone
    | .text cs _ => !cs.isPrefixOf "const ".toList && !"const ".toList.isPrefixOf cs
    | _ => false

theorem rows_declaring : zapTemplate.rows.filter (fun row => !declaresNothing row) =
    toolkit.map (fun (name, place) => toolkitRow name place) ++
      [.slotRow "colors", .slotRow "warnings", typeRow, .slotRow "todos", .slotRow "chains",
        sizeRow "WIDTH" "width", sizeRow "HEIGHT" "height"] := by
  rw [Template.Spelled.eq (t := zapTemplate) ?spelled]
  case spelled => repeat constructor
  decide +kernel

/-! ## What the rows declare -/

variable {font source : String} {name : ExampleName} {row : Template}

/-- The data of an example's skeleton. -/
abbrev dataOf (font : String) (name source : String) : JsonValue :=
  (generatorFor font).data name source (analysisOf name source)

/-- The members that a line takes up do not break it. -/
theorem newline_not_mem_member (hfont : '\n' ∉ font.toList) {key : String} (hkey : key ∈ lineKeys)
    {w : JsonValue}
    (hw : (dataOf font name.text source).child? key = some w) : '\n' ∉ w.display := by
  have hplain : ∀ c : Char, isNameChar c = true ∨ c = ' ' → c ≠ '\n' := by
    rintro c hc rfl
    exact absurd hc (by decide)
  rw [child?_data] at hw
  simp only [lineKeys, List.mem_cons, List.not_mem_nil, or_false] at hkey
  rcases hkey with rfl | rfl | rfl | rfl | rfl | rfl <;> obtain rfl := Option.some.inj hw
  · exact fun h => hplain _ (.inl (name.plain _ h)) rfl
  · exact fun h => hplain _ (Naming.mem_displayTitle h) rfl
  · exact fun h => absurd (Naming.isAlphanum_of_mem_typeIdentifier name _ h) (by decide)
  · exact (by decide : '\n' ∉ target.name.toList)
  · rw [JsonValue.display_nat]
    exact Text.not_mem_toDigits (by decide) _
  · exact hfont

theorem declarations_of_declaresNothing (hfont : '\n' ∉ font.toList) (h : declaresNothing row = true) :
    declarations (row.fill .raw (dataOf font name.text source)) = [] := by
  simp only [declaresNothing, Bool.and_eq_true, Bool.not_eq_true', List.contains_eq_mem,
    decide_eq_false_iff_not, List.isEmpty_iff, List.all_eq_true] at h
  obtain ⟨⟨⟨hletters, hrepeats⟩, hslots⟩, hfront⟩ := h
  have hline : '\n' ∉ row.fill .raw (dataOf font name.text source) := by
    refine Template.not_mem_fill hletters (fun tag htag w hw => ?_) (by simp [hrepeats])
    obtain ⟨key, hkey, hkeys⟩ := List.any_eq_true.1 (hslots tag htag)
    rw [of_decide_eq_true hkeys, JsonValue.follow?] at hw
    obtain ⟨w', hchild, hw⟩ := Option.bind_eq_some_iff.1 hw
    obtain rfl := Option.some.inj hw
    exact newline_not_mem_member hfont hkey hchild
  rw [declarations_of_line hline]
  split at hfront
  · rw [Template.fill, Template.fill, List.append_nil, Option.isNone_iff_eq_none.1 hfront]
    rfl
  · rw [Bool.and_eq_true, Bool.not_eq_true', Bool.not_eq_true'] at hfront
    rw [Template.fill, declared?_append_eq_none hfront.1 hfront.2]
    rfl
  · cases hfront

/-! ### The colors -/

theorem isIdentifier_constantName {token : ColorToken} (h : token ∈ (Catalog.builtin.analyze source).colors) :
    isIdentifier token.constantName.toList = true := by
  cases token with
  | named color => cases color <;> decide
  | hex digits =>
    have hdigits : ∀ c ∈ digits.toList, (c.isAlphanum || c == '_') = true := fun c hc => by
      rw [Text.isAlphanum_of_isHexDigit (Catalog.isHexDigit_of_mem_colors h c hc)]
      rfl
    have hall : ("olor_".toList ++ digits.toList).all (fun d => d.isAlphanum || d == '_') = true := by
      rw [List.all_append, List.all_eq_true.2 hdigits]
      decide
    rw [ColorToken.constantName, String.toList_append]
    exact hall

theorem forall_of_isIdentifier {cs : List Char} (h : isIdentifier cs = true) :
    ∀ c ∈ cs, (c.isAlphanum || c == '_') = true := by
  cases cs with
  | nil => cases h
  | cons c r =>
    rw [isIdentifier, Bool.and_eq_true, List.all_eq_true] at h
    intro d hd
    rcases List.mem_cons.1 hd with rfl | hd
    · rw [Char.isAlphanum, Bool.or_right_comm, h.1]
      rfl
    · exact h.2 d hd

theorem declared?_colorConstant {token : ColorToken} (h : token ∈ (Catalog.builtin.analyze source).colors) :
    declared? (colorConstant token).toList =
      if token.value?.isSome then some token.constantName.toList else none := by
  cases hvalue : token.value? with
  | none =>
    rw [colorConstant_of_none hvalue]
    simp only [String.toList_append, List.append_assoc]
    exact declared?_append_eq_none (by decide) (by decide) _
  | some value =>
    obtain ⟨remark, -, heq⟩ := colorConstant_of_value hvalue
    have hname := forall_of_isIdentifier (isIdentifier_constantName h)
    simp only [heq, String.toList_append, List.append_assoc]
    exact declared?_const hname (by decide)

/-- The names of the colors that a skeleton declares. -/
def colorNamesOf (a : Analysis) : List (List Char) :=
  (a.colors.toList.filter (·.value?.isSome)).map fun token => token.constantName.toList

theorem declarations_colorLines (name : String) :
    declarations (joinLines (target.colorLines (analysisOf name source))).toList =
    colorNamesOf (analysisOf name source) := by
  have hcolors : ∀ token ∈ (analysisOf name source).colors.toList,
      token ∈ (Catalog.builtin.analyze source).colors :=
    fun token htoken => htoken
  have hlines : ∀ line ∈ target.colorLines (analysisOf name source), '\n' ∉ line.toList := by
    refine forall_mem_orElse (fun line hline => ?_) (by decide)
    obtain ⟨token, htoken, rfl⟩ := List.mem_map.1 hline
    exact newline_not_mem_colorConstant (Catalog.onOneLine_of_mem_colors (hcolors token htoken))
  have hsplit : (joinLines (target.colorLines (analysisOf name source))).toList.splitOn '\n' =
      (target.colorLines (analysisOf name source)).map String.toList := splitOn_joinLines orElse_ne_nil hlines
  rw [declarations, hsplit, SkeletonTarget.colorLines, orElse, List.filterMap_map, colorNamesOf]
  generalize (analysisOf name source).colors.toList = tokens at hcolors
  cases tokens with
  -- the line that stands for no colors at all is a comment
  | nil => decide
  | cons token more =>
    rw [List.map_cons, List.isEmpty_cons, if_neg Bool.false_ne_true,
      ← List.map_cons (f := target.colorConstant),
      List.filterMap_map, ← List.filterMap_eq_map, List.filterMap_filter]
    exact List.filterMap_congr fun token htoken => declared?_colorConstant (hcolors token htoken)

/-! ### All rows -/

theorem declarations_typeRow : declarations (typeRow.fill .raw (dataOf font name.text source)) =
    [(Naming.typeIdentifier name.text).toList] := by
  have hplain := Naming.isAlphanum_of_mem_typeIdentifier name
  have hchild : (dataOf font name.text source).child? "type_name" =
      some (.string (Naming.typeIdentifier name.text)) :=
    child?_data ..
  have hfill : typeRow.fill .raw (dataOf font name.text source) =
      "const ".toList ++ ((Naming.typeIdentifier name.text).toList ++ ' ' :: "= struct \x7b".toList) := by
    simp only [typeRow, Template.fill, TemplateTag.ofKey, JsonValue.follow?, hchild,
      Option.bind_some, Bool.false_eq_true,
      if_false, Escaping.apply, JsonValue.display_string, List.append_nil]
    rfl
  rw [hfill]
  exact declarations_const (fun c hc => by rw [hplain c hc, Bool.true_or]) (.inl rfl) (by decide)

theorem declarations_sizeRow (label : String) {key : String} {n : Nat}
    (hlabel : isIdentifier label.toList = true)
    (hchild : (dataOf font name.text source).child? key = some (.number (.int n))) :
    declarations ((sizeRow label key).fill .raw (dataOf font name.text source)) = [label.toList] := by
  have hfill : (sizeRow label key).fill .raw (dataOf font name.text source) =
      "const ".toList ++ (label.toList ++ ':' ::
        (" f32 = ".toList ++ (Nat.toDigits 10 n ++ ";".toList))) := by
    simp only [sizeRow, Template.fill, TemplateTag.ofKey, JsonValue.follow?, hchild,
      Option.bind_some, Bool.false_eq_true,
      if_false, Escaping.apply, JsonValue.display_nat, String.toList_append, List.append_assoc,
        List.append_nil]
    rfl
  have hrest : '\n' ∉ " f32 = ".toList ++ (Nat.toDigits 10 n ++ ";".toList) := by
    simp only [List.mem_append, not_or]
    exact ⟨by decide, Text.not_mem_toDigits (by decide) n, by decide⟩
  rw [hfill]
  exact declarations_const (forall_of_isIdentifier hlabel) (.inr rfl) hrest

theorem declarations_toolkitRow {label place : String} {v : JsonValue}
    (hlabel : isIdentifier label.toList = true) (hplace : '\n' ∉ place.toList) :
    declarations ((toolkitRow label place).fill .raw v) = [label.toList] := by
  have hfill : (toolkitRow label place).fill .raw v =
      "const ".toList ++ (label.toList ++ ' ' :: ("= ".toList ++ (place.toList ++ ";".toList))) := by
    simp only [toolkitRow, Template.fill, String.toList_append, List.append_assoc, List.append_nil]
    rfl
  have hrest : '\n' ∉ "= ".toList ++ (place.toList ++ ";".toList) := by
    simp only [List.mem_append, not_or]
    exact ⟨by decide, hplace, by decide⟩
  rw [hfill]
  exact declarations_const (forall_of_isIdentifier hlabel) (.inl rfl) hrest

theorem toolkit_plain : toolkit.all
    (fun (name, place) => isIdentifier name.toList && !place.toList.contains '\n') = true := by
  decide

theorem declarations_toolkit (v : JsonValue) :
    (toolkit.map fun (name, place) => toolkitRow name place).flatMap
    (fun row => declarations (row.fill .raw v)) = toolkitNames.map String.toList := by
  rw [List.flatMap_map, toolkitNames, List.map_map, List.map_eq_flatMap]
  refine List.flatMap_congr fun (label, place) hmem => ?_
  have hplain := List.all_eq_true.1 toolkit_plain _ hmem
  simp only [Bool.and_eq_true, Bool.not_eq_true', List.contains_eq_mem, decide_eq_false_iff_not] at hplain
  exact declarations_toolkitRow hplain.1 hplain.2

/-- A block of comments declares nothing. -/
theorem declarations_askingSource {key : String} (hrow : Template.slotRow key ∈ zapTemplate.rows)
    (hkey : sourceKeys.contains key = true) :
    declarations ((Template.slotRow key).fill .raw (dataOf font name.text source)) = [] := by
  refine declarations_of_liveLines (liveLines_of_asksSource name.text source font hrow ?_)
  simpa [Template.slotRow, Template.tags, asksSource, TemplateTag.ofKey] using hkey

theorem declarations_zapTemplate (hfont : '\n' ∉ font.toList) :
    declarations (zapTemplate.fill .raw (dataOf font name.text source)) =
      toolkitNames.map String.toList ++ colorNamesOf (analysisOf name.text source) ++
        (Naming.typeIdentifier name.text).toList :: sizeNames.map String.toList := by
  have hchild := child?_data name.text source (generatorFor font) (analysisOf name.text source)
  have hrows : ∀ row ∈ toolkit.map (fun (name, place) => toolkitRow name place) ++
      [.slotRow "colors", .slotRow "warnings", typeRow, .slotRow "todos", .slotRow "chains",
        sizeRow "WIDTH" "width",
        sizeRow "HEIGHT" "height"], row ∈ zapTemplate.rows := fun row hrow =>
    (List.mem_filter.1 (rows_declaring ▸ hrow)).1
  have hcolors : declarations ((Template.slotRow "colors").fill .raw (dataOf font name.text source)) =
      colorNamesOf (analysisOf name.text source) := by
    rw [Template.fill_slotRow (hchild "colors")]
    exact declarations_colorLines name.text
  -- rows that declare nothing can be left out before any row is filled
  have hother : ∀ rows : List Template,
      (rows.flatMap fun row => declarations (row.fill .raw (dataOf font name.text source))) =
      (rows.filter fun row => !declaresNothing row).flatMap fun row =>
        declarations (row.fill .raw (dataOf font name.text source)) := by
    intro rows
    induction rows with
    | nil => rfl
    | cons row rows ih =>
      rw [List.flatMap_cons, List.filter_cons, ih]
      split
      · rw [List.flatMap_cons]
      · rename_i h
        rw [declarations_of_declaresNothing hfont (by simpa using h), List.nil_append]
  rw [declarations_fill, hother, rows_declaring, List.flatMap_append, declarations_toolkit, List.append_assoc]
  refine congrArg _ ?_
  simp only [List.flatMap_cons, List.flatMap_nil, hcolors, declarations_typeRow,
    declarations_askingSource (hrows (.slotRow "warnings") (by simp)) (by decide),
    declarations_askingSource (hrows (.slotRow "todos") (by simp)) (by decide),
    declarations_askingSource (hrows (.slotRow "chains") (by simp)) (by decide),
    declarations_sizeRow "WIDTH" (by decide) (hchild "width"),
    declarations_sizeRow "HEIGHT" (by decide) (hchild "height")]
  rfl

/-! ## Identifiers and clashes -/

/-- The names that every skeleton declares beside its type. -/
def fixedNames : List String := toolkitNames ++ sizeNames

/-- Those of them that the name of a type can be. -/
def takenNames : List String := ["GlRenderer", "TextSystem", "Scene", "Pixels", "WIDTH", "HEIGHT"]

theorem constantName_injective {a b : ColorToken} (h : a.constantName = b.constantName) : a = b := by
  have hfront : ∀ (color : NamedColor) (digits : String), color.name ≠ "color_" ++ digits := by
    intro color digits heq
    have hprefix : "color_".toList <+: color.name.toList := by
      rw [heq, String.toList_append]
      exact List.prefix_append _ _
    cases color <;> exact absurd hprefix (by decide)
  cases a with
  | named a =>
    cases b with
    | named b => exact congrArg _ (NamedColor.name_injective h)
    | hex digits => exact absurd h (hfront a digits)
  | hex digits =>
    cases b with
    | named b => exact absurd h.symm (hfront b digits)
    | hex digits' => exact congrArg _ (String.append_right_inj _ |>.1 h)

theorem constantName_not_mem_fixedNames (token : ColorToken) : token.constantName ∉ fixedNames := by
  cases token with
  | named color => cases color <;> decide
  | hex digits =>
    have hfixed : fixedNames.all (fun name => !"color_".toList.isPrefixOf name.toList) = true := by decide
    intro hmem
    have hother := List.all_eq_true.1 hfixed _ hmem
    rw [ColorToken.constantName, String.toList_append,
      List.isPrefixOf_iff_prefix.2 (List.prefix_append _ _)] at hother
    cases hother

theorem nodup_colorNamesOf (a : Analysis) : (colorNamesOf a).Nodup := by
  have hdistinct : a.colors.toList.Nodup := a.colors.ascending.imp fun hlt heq => by
    simp [heq] at hlt
  refine (hdistinct.filter _).map fun a b h => constantName_injective ?_
  exact String.toList_inj.1 h

theorem mem_map_toList {names : List String} {name : String} :
    name.toList ∈ names.map String.toList ↔ name ∈ names := by
  rw [List.mem_map]
  refine ⟨?_, fun h => ⟨name, h, rfl⟩⟩
  rintro ⟨other, hother, heq⟩
  rwa [← String.toList_inj.1 heq]

/-- The names that a skeleton declares beside its type. -/
def othersOf (a : Analysis) : List (List Char) := fixedNames.map String.toList ++ colorNamesOf a

theorem nodup_othersOf (a : Analysis) : (othersOf a).Nodup := by
  refine List.Nodup.append (by decide) (nodup_colorNamesOf a) fun cs hfixed hcolor => ?_
  obtain ⟨token, -, rfl⟩ := List.mem_map.1 hcolor
  exact constantName_not_mem_fixedNames token (mem_map_toList.1 hfixed)

theorem isIdentifier_of_mem_othersOf {cs : List Char} (h : cs ∈ othersOf (analysisOf name.text source)) :
    isIdentifier cs = true := by
  rcases List.mem_append.1 h with h | h
  · have hfixed : (fixedNames.map String.toList).all isIdentifier = true := by decide
    exact List.all_eq_true.1 hfixed cs h
  · obtain ⟨token, htoken, rfl⟩ := List.mem_map.1 h
    have hcolor : token ∈ (Catalog.builtin.analyze source).colors := (List.mem_filter.1 htoken).1
    exact isIdentifier_constantName hcolor

theorem declarations_perm (hfont : '\n' ∉ font.toList) :
    (declarations (zapTemplate.fill .raw (dataOf font name.text source))).Perm
      ((Naming.typeIdentifier name.text).toList :: othersOf (analysisOf name.text source)) := by
  rw [declarations_zapTemplate hfont, othersOf, fixedNames, List.map_append]
  refine List.perm_middle.trans (.cons _ ?_)
  rw [List.append_assoc, List.append_assoc]
  exact .append_left _ List.perm_append_comm

/-- `typeIdentifier` is empty, or it starts with the first character of the name that is no
separator. -/
theorem typeIdentifier_cases (name : ExampleName) :
    (name.text.toList.find? (fun c => !Naming.isSeparator c) = none ∧
      (Naming.typeIdentifier name.text).toList = []) ∨
    ∃ c r, name.text.toList.find? (fun c => !Naming.isSeparator c) = some c ∧ c.isAlphanum = true ∧
      (Naming.typeIdentifier name.text).toList = c.toUpper :: r := by
  have hhead := Naming.head?_typeIdentifier name
  cases hfind : name.text.toList.find? fun c => !Naming.isSeparator c with
  | none =>
    rw [hfind, Option.map_none, List.head?_eq_none_iff] at hhead
    exact .inl ⟨rfl, hhead⟩
  | some c =>
    rw [hfind, Option.map_some] at hhead
    obtain ⟨r, hr⟩ := List.head?_eq_some_iff.1 hhead
    have hsep := List.find?_some hfind
    have hplain := Naming.isAlphanum_of_isNameChar (name.plain c (List.mem_of_find?_eq_some hfind))
      (by simpa using hsep)
    exact .inr ⟨c, r, rfl, hplain, hr⟩

theorem isIdentifier_typeIdentifier (name : ExampleName) :
    isIdentifier (Naming.typeIdentifier name.text).toList =
    (name.text.toList.find? fun c => !Naming.isSeparator c).any Char.isAlpha := by
  rcases typeIdentifier_cases name with ⟨hfind, htype⟩ | ⟨c, r, hfind, hc, htype⟩
  · rw [hfind, htype]
    rfl
  · have hall : r.all (fun d => d.isAlphanum || d == '_') = true := by
      refine List.all_eq_true.2 fun d hd => ?_
      rw [Naming.isAlphanum_of_mem_typeIdentifier name d (htype ▸ List.mem_cons_of_mem _ hd), Bool.true_or]
    -- what starts the name is a letter or a digit, so the underscore that may start an identifier
    -- does not help
    have hmark : (c.toUpper == '_') = false := by
      refine beq_eq_false_iff_ne.2 fun heq => ?_
      have hupper := (Text.isAlphanum_case hc).1
      rw [heq] at hupper
      exact absurd hupper (by decide)
    rw [hfind, htype, isIdentifier, hall, hmark, Bool.or_false, Bool.and_true,
      (Text.isAlphanum_case hc).2.2.2]
    rfl

/-- The name of a type starts with no lowercase letter, so among the others it can only be one of
`takenNames`. -/
theorem typeIdentifier_mem_othersOf_iff (name : ExampleName) (a : Analysis) :
    (Naming.typeIdentifier name.text).toList ∈ othersOf a ↔ Naming.typeIdentifier name.text ∈ takenNames := by
  have hhead : (Naming.typeIdentifier name.text).toList.head?.any Char.isLower = false := by
    rcases typeIdentifier_cases name with ⟨-, htype⟩ | ⟨c, r, -, hc, htype⟩
    · rw [htype]
      rfl
    · rw [htype]
      exact (Text.isAlphanum_case hc).2.2.1
  rw [othersOf, List.mem_append, mem_map_toList]
  constructor
  · rintro (hfixed | hcolor)
    · have hlower : fixedNames.all
          (fun name => takenNames.contains name || name.toList.head?.any Char.isLower) = true := by
        decide
      have htaken := List.all_eq_true.1 hlower _ hfixed
      rw [hhead, Bool.or_false] at htaken
      simpa using htaken
    · obtain ⟨token, -, heq⟩ := List.mem_map.1 hcolor
      have hlower : token.constantName.toList.head?.any Char.isLower = true := by
        cases token with
        | named color => cases color <;> decide
        | hex digits =>
          rw [ColorToken.constantName, String.toList_append]
          rfl
      rw [heq, hhead] at hlower
      cases hlower
  · intro htaken
    have hsubset : takenNames.all fixedNames.contains = true := by decide
    exact .inl (by simpa using List.all_eq_true.1 hsubset _ htaken)

/-- **The `declarations` of a skeleton** are `toolkitNames`, the names of its colors, its type and
`sizeNames`. All but the type are distinct identifiers; it is one exactly if the first character of
the example's name that is no separator is a letter, and it differs from the others exactly if it is
none of `takenNames`. -/
theorem declarations_generate (name : ExampleName) (source font : String) (hfont : '\n' ∉ font.toList) :
    ∃ document, (generatorFor font).generate name.text source (analysisOf name.text source) = .ok document ∧
      declarations document.content.toList =
        toolkitNames.map String.toList ++ colorNamesOf (analysisOf name.text source) ++
          (Naming.typeIdentifier name.text).toList :: sizeNames.map String.toList ∧
      (∀ other ∈ othersOf (analysisOf name.text source), isIdentifier other = true) ∧
      (othersOf (analysisOf name.text source)).Nodup ∧
      ((∀ declared ∈ declarations document.content.toList, isIdentifier declared = true) ↔
        (name.text.toList.find? fun c => !Naming.isSeparator c).any Char.isAlpha = true) ∧
      ((declarations document.content.toList).Nodup ↔ Naming.typeIdentifier name.text ∉ takenNames) := by
  refine ⟨_, generate_eq .., ?_⟩
  simp only [String.toList_ofList]
  have hperm : (declarations (zapTemplate.fill .raw (dataOf font name.text source))).Perm
      ((Naming.typeIdentifier name.text).toList :: othersOf (analysisOf name.text source)) :=
        declarations_perm hfont
  refine ⟨declarations_zapTemplate hfont, fun other => isIdentifier_of_mem_othersOf, nodup_othersOf _, ?_, ?_⟩
  · rw [← isIdentifier_typeIdentifier]
    constructor
    · exact fun h => h _ (hperm.mem_iff.2 List.mem_cons_self)
    · intro htype declared hdeclared
      rcases List.mem_cons.1 (hperm.mem_iff.1 hdeclared) with heq | hother
      · rw [heq, htype]
      · exact isIdentifier_of_mem_othersOf hother
  · rw [hperm.nodup_iff, List.nodup_cons, typeIdentifier_mem_othersOf_iff]
    exact and_iff_left (nodup_othersOf _)

/-- A name with a letter at its front, made into a name that nothing else has. -/
theorem declarations_generate_hello_world : ∃ document,
    (generatorFor "f.ttf").generate "hello_world" "" (analysisOf "hello_world" "") = .ok document ∧
      (∀ declared ∈ declarations document.content.toList, isIdentifier declared = true) ∧
      (declarations document.content.toList).Nodup := by
  obtain ⟨document, hdocument, -, -, -, hlegal, hdistinct⟩ :=
    declarations_generate ⟨"hello_world", by decide, List.all_eq_true.1 (by decide)⟩ "" "f.ttf" (by decide)
  exact ⟨document, hdocument, hlegal.2 (by decide), hdistinct.2 (by decide)⟩

/-- Two names of examples: one gives a type that is called as one of the toolkit, the other a type
without a name. -/
theorem scene_declared_twice :
    (∃ name document, ExampleName.read "scene" = .ok name ∧
      (generatorFor SkeletonGenerator.usualFontAsset).generate name.text ""
        (analysisOf name.text "") = .ok document ∧
      ¬ (declarations document.content.toList).Nodup) ∧
    ∃ name document, ExampleName.read "_" = .ok name ∧
      (generatorFor SkeletonGenerator.usualFontAsset).generate name.text ""
        (analysisOf name.text "") = .ok document ∧
      ∃ declared ∈ declarations document.content.toList, isIdentifier declared = false := by
  refine ⟨⟨⟨"scene", by decide, List.all_eq_true.1 (by decide)⟩, _, rfl, generate_eq .., ?_⟩,
    ⟨"_", by decide, List.all_eq_true.1 (by decide)⟩, _, rfl, generate_eq .., [], ?_, rfl⟩
  · rw [String.toList_ofList, (declarations_perm (by decide)).nodup_iff, List.nodup_cons,
      typeIdentifier_mem_othersOf_iff]
    decide
  · rw [String.toList_ofList]
    exact (declarations_perm (by decide)).mem_iff.2 List.mem_cons_self

end ZapUi
end UiSkeleton
