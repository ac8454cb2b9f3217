/-
What a conversion keeps of the structure of a text: how far its parentheses are out of balance, its
quotes, lines, semicolons and braces. Each reworded call has as many of these as the call before it,
and nowhere in it are more parentheses closed than were closed at some place of that call; so a
conversion does not close a parenthesis that a text leaves open, and nested parentheses stay nested.
-/
import UiSkeleton.Proofs.Catalog.Rewording
import UiSkeleton.Proofs.Text.Lines

namespace UiSkeleton

namespace Text

/-- How many more parentheses a text opens than it closes. -/
def depth (cs : List Char) : Int := cs.count '(' - cs.count ')'

/-- The least depth of the fronts of a text, the empty one among them. -/
def lowest : List Char → Int
  | [] => 0
  | c :: cs => min 0 (depth [c] + lowest cs)

/-- No parenthesis is closed that was not opened. -/
def Nested (cs : List Char) : Prop := ∀ front, front <+: cs → front.count ')' ≤ front.count '('

theorem depth_append (x y : List Char) : depth (x ++ y) = depth x + depth y := by
  simp only [depth, List.count_append]
  omega

theorem depth_cons (c : Char) (y : List Char) : depth (c :: y) = depth [c] + depth y := depth_append [c] y

theorem lowest_le_zero (cs : List Char) : lowest cs ≤ 0 := by
  cases cs <;> simp only [lowest] <;> omega

theorem lowest_append (x y : List Char) : lowest (x ++ y) = min (lowest x) (depth x + lowest y) := by
  induction x with
  | nil =>
    have := lowest_le_zero y
    simp only [List.nil_append, lowest, depth, List.count_nil]
    omega
  | cons c x ih =>
    simp only [List.cons_append, lowest, ih, depth_cons c x]
    omega

theorem lowest_le_depth (front : List Char) : lowest front ≤ depth front := by
  have h := lowest_append front []
  simp only [List.append_nil, lowest] at h
  omega

theorem nested_iff {cs : List Char} : Nested cs ↔ 0 ≤ lowest cs := by
  constructor
  · intro h
    induction cs using List.reverseRecOn with
    | nil => simp [lowest]
    | append_singleton cs c ih =>
      have hfront := ih fun front hf => h front (hf.trans (List.prefix_append cs [c]))
      have hall := h _ List.prefix_rfl
      have hdepth : 0 ≤ depth cs + depth [c] := by
        rw [← depth_append, depth]
        omega
      have hcs := lowest_le_depth cs
      simp only [lowest_append, lowest]
      omega
  · rintro h front ⟨rest, rfl⟩
    have hlow := lowest_le_depth front
    rw [lowest_append] at h
    simp only [depth] at hlow
    omega

/-! ## Lines -/

theorem length_cutWhere (c : Char) (cs : List Char) : (cutWhere (· == c) cs).length = cs.count c + 1 := by
  induction cs with
  | nil => simp [cutWhere]
  | cons d cs ih =>
    rw [cutWhere, List.count_cons]
    split
    · simp [ih]
    · split
      · rename_i h
        exact absurd h (cutWhere_ne_nil _ _)
      · rename_i h
        rw [h] at ih
        simpa using ih

/-- `Text.lines` counts one less than the pieces between line feeds where the text ends in one. -/
theorem length_lines (cs : List Char) :
    (lines cs).length = cs.count '\n' + if cs.getLast?.all (· == '\n') then 0 else 1 := by
  have hlength := length_cutWhere '\n' cs
  have hjoin := intercalate_cutWhere '\n' cs
  have hpieces := List.dropLast_concat_getLast (cutWhere_ne_nil (· == '\n') cs)
  generalize hinit : (cutWhere (· == '\n') cs).dropLast = init at hpieces
  have hlast := not_of_mem_cutWhere (List.getLast_mem (cutWhere_ne_nil (· == '\n') cs))
  generalize (cutWhere (· == '\n') cs).getLast _ = last at hpieces hlast
  rw [lines, ← hpieces]
  rw [← hpieces] at hlength hjoin
  simp only [List.length_append, List.length_singleton] at hlength
  have hend : last.isEmpty = cs.getLast?.all (· == '\n') := by
    cases last using List.reverseRecOn with
    | nil =>
      cases init with
      | nil => simp [← hjoin]
      | cons piece init => rw [← hjoin, intercalate_concat (by simp)]; simp
    | append_singleton last c =>
      have hc : (c == '\n') = false := hlast c (by simp)
      cases init with
      | nil => simp [← hjoin, hc]
      | cons piece init =>
        rw [← hjoin, intercalate_concat (by simp), List.getLast?_append_of_ne_nil _ (by simp),
          List.getLast?_concat]
        simp [hc]
  rw [List.dropLast_concat, List.length_append, List.length_map, List.getLastD_concat, hend]
  split <;> simp <;> omega

end Text

namespace Rewritten

variable {E : List Char → List Char → Prop} {s t : List Char}

theorem lowest_le (hE : ∀ {old new}, E old new → Text.depth old = Text.depth new ∧
    Text.lowest old ≤ Text.lowest new)
    (h : Rewritten E s t) : Text.depth s = Text.depth t ∧ Text.lowest s ≤ Text.lowest t := by
  induction h with
  | nil => simp
  | @keep c s t _ ih =>
    simp only [Text.depth_cons c s, Text.depth_cons c t, Text.lowest]
    omega
  | rewrite hold _ ih =>
    have := hE hold
    simp only [Text.depth_append, Text.lowest_append]
    omega

theorem ends_eq {p : Char → Bool}
    (hE : ∀ {old new}, E old new → old.getLast?.all p = false ∧ new.getLast?.all p = false)
    (h : Rewritten E s t) : s.getLast?.all p = t.getLast?.all p := by
  have hne : ∀ {x : List Char}, x.getLast?.all p = false → x ≠ [] := by
    rintro x h rfl
    simp at h
  obtain ⟨rfl, rfl⟩ | ⟨s', t', old, new, rfl, rfl, -, hold | ⟨c, rfl, rfl⟩⟩ := h.cases_end
  · rfl
  · obtain ⟨hold, hnew⟩ := hE hold
    rw [List.getLast?_append_of_ne_nil _ (hne hold), List.getLast?_append_of_ne_nil _ (hne hnew), hold, hnew]
  · simp

end Rewritten

namespace Catalog

/-- The characters of which a conversion keeps the number. -/
def counted : List Char := ['"', '\n', ';', '\x7b', '\x7d']

variable {tag : String} {old new text : List Char}

theorem count_eq_of_all {x y : List Char}
    (h : counted.all (fun c => x.count c == y.count c) = true) {c : Char}
    (hc : c ∈ counted) : x.count c = y.count c := by
  simpa using List.all_eq_true.1 h c hc

theorem Rewords.count_eq (h : Rewords tag old new) {c : Char} (hc : c ∈ counted) :
    old.count c = new.count c := by
  cases h with
  | literal =>
    have hopening : "(rgb(0x".toList.count c = "(zapui.rgb(0x".toList.count c :=
      count_eq_of_all (by decide) hc
    simp only [List.count_cons, List.count_append, hopening]
  | argument =>
    have hopening : "(gpui::".toList.count c = "(".toList.count c := count_eq_of_all (by decide) hc
    have hclosing : "())".toList.count c = ")".toList.count c := count_eq_of_all (by decide) hc
    simp only [List.count_cons, List.count_append, hopening, hclosing]
  | name =>
    have hopening : "gpui::".toList.count c = [].count c := count_eq_of_all (by decide) hc
    have hclosing : "()".toList.count c = [].count c := count_eq_of_all (by decide) hc
    simp only [List.count_append, hopening, hclosing, List.count_nil, Nat.zero_add, Nat.add_zero]
  | child =>
    have hopening : ".child(\"".toList.count c = ".child(div().child_text(\"".toList.count c :=
      count_eq_of_all (by decide) hc
    have hclosing : "\")".toList.count c = "\"))".toList.count c := count_eq_of_all (by decide) hc
    simp only [List.count_append, hopening, hclosing]

theorem Rewords.lowest_le (h : Rewords tag old new) :
    Text.depth old = Text.depth new ∧ Text.lowest old ≤ Text.lowest new := by
  have hmethods : ∀ method ∈ colorMethods, Text.depth ('.' :: method) = 0 ∧
      Text.lowest ('.' :: method) = 0 := by decide
  cases h with
  | @literal method digits hmethod =>
    obtain ⟨hdepth, hlow⟩ := hmethods method hmethod
    have hopening : Text.depth "(rgb(0x".toList = 2 ∧ Text.lowest "(rgb(0x".toList = 0 := by decide
    have hnew : Text.depth "(zapui.rgb(0x".toList = 2 ∧ Text.lowest "(zapui.rgb(0x".toList = 0 := by decide
    simp only [← List.cons_append, Text.depth_append, Text.lowest_append, hdepth, hlow, hopening, hnew]
    exact ⟨trivial, Int.le_refl _⟩
  | @argument method name hmethod =>
    obtain ⟨hdepth, hlow⟩ := hmethods method hmethod
    have hopening : Text.depth "(gpui::".toList = 1 ∧ Text.lowest "(gpui::".toList = 0 := by decide
    have hclosing : Text.depth "())".toList = -1 ∧ Text.lowest "())".toList = -1 := by decide
    have hnew : Text.depth "(".toList = 1 ∧ Text.lowest "(".toList = 0 := by decide
    have hnew' : Text.depth ")".toList = -1 ∧ Text.lowest ")".toList = -1 := by decide
    simp only [← List.cons_append, Text.depth_append, Text.lowest_append, hdepth, hlow, hopening,
      hclosing, hnew, hnew']
    exact ⟨trivial, Int.le_refl _⟩
  | name =>
    have hopening : Text.depth "gpui::".toList = 0 ∧ Text.lowest "gpui::".toList = 0 := by decide
    have hclosing : Text.depth "()".toList = 0 ∧ Text.lowest "()".toList = 0 := by decide
    simp only [Text.depth_append, Text.lowest_append, hopening, hclosing]
    exact ⟨by omega, by omega⟩
  | child =>
    have hopening : Text.depth ".child(\"".toList = 1 ∧ Text.lowest ".child(\"".toList = 0 := by decide
    have hclosing : Text.depth "\")".toList = -1 ∧ Text.lowest "\")".toList = -1 := by decide
    have hnew : Text.depth ".child(div().child_text(\"".toList = 2 ∧
        Text.lowest ".child(div().child_text(\"".toList = 0 := by
      decide +kernel
    have hnew' : Text.depth "\"))".toList = -2 ∧ Text.lowest "\"))".toList = -2 := by decide
    simp only [Text.depth_append, Text.lowest_append, hopening, hclosing, hnew, hnew']
    exact ⟨by omega, by omega⟩

theorem Rewords.ends (h : Rewords tag old new) :
    old.getLast?.all (· == '\n') = false ∧ new.getLast?.all (· == '\n') = false := by
  have hnames : ∀ name ∈ colorNames, name.getLast?.all (· == '\n') = false := by decide
  cases h with
  | name hname => exact ⟨by simp [List.getLast?_append, List.getLast?_cons], hnames _ hname⟩
  | _ => constructor <;> simp [List.getLast?_cons, List.getLast?_append]

/-- The second text has the structure of the first one. -/
structure SameStructure (text converted : List Char) : Prop where
  depth : Text.depth converted = Text.depth text
  lowest : Text.lowest text ≤ Text.lowest converted
  count : ∀ c ∈ counted, converted.count c = text.count c
  ends : text.getLast?.all (· == '\n') = converted.getLast?.all (· == '\n')

theorem SameStructure.refl (text : List Char) : SameStructure text text :=
    ⟨rfl, Int.le_refl _, fun _ _ => rfl, rfl⟩

theorem SameStructure.trans {s t u : List Char} (h : SameStructure s t) (h' : SameStructure t u) :
    SameStructure s u where
  depth := h'.depth.trans h.depth
  lowest := Int.le_trans h.lowest h'.lowest
  count c hc := (h'.count c hc).trans (h.count c hc)
  ends := h.ends.trans h'.ends

theorem SameStructure.length_lines {text converted : List Char} (h : SameStructure text converted) :
    (Text.lines converted).length = (Text.lines text).length := by
  rw [Text.length_lines, Text.length_lines, h.ends, h.count '\n' (by decide)]

theorem sameStructure_apply {rule : ConversionRule} (h : rule ∈ builtinConversions) (text : List Char) :
    SameStructure text (rule.apply text) := by
  have hrewritten := rewritten_apply h text
  obtain ⟨hdepth, hlowest⟩ := hrewritten.lowest_le Rewords.lowest_le
  refine ⟨hdepth.symm, hlowest, fun c hc => ?_, hrewritten.ends_eq Rewords.ends⟩
  have hcount : (text.count c : Int) = (rule.apply text).count c :=
    hrewritten.weight_eq (fun cs => (cs.count c : Int)) (by simp) fun hold => by rw [hold.count_eq hc]
  omega

theorem sameStructure_convert (text : List Char) : SameStructure text (builtin.convert text) := by
  rw [convert, conversions_builtin]
  exact foldl_apply_induct (fun rule hrule t ht => ht.trans (sameStructure_apply hrule t)) (.refl text)

theorem not_mem_of_mem_divChains {source chain : String} (h : chain ∈ (builtin.analyze source).divChains) :
    ';' ∉ chain.toList ∧ '\x7b' ∉ chain.toList := by
  rw [divChains_analyze] at h
  obtain ⟨cs, hcs, rfl⟩ := List.mem_map.1 h
  obtain ⟨text, htext, rfl⟩ := List.mem_map.1 hcs
  simp only [Matcher.textMatcher_findAll, Matcher.findAll, divChain_reads.1, if_true, List.mem_map,
    Piece.mem_occurrences_iff] at htext
  obtain ⟨o, ho, rfl⟩ := htext
  obtain ⟨a, after, -, hmatches⟩ := Pattern.exists_matches_of_mem_pieces ho
  obtain ⟨-, tail, hcall, -, htail, -⟩ := matches_divChain.1 hmatches
  have hcall' : ∀ c ∈ "div()".toList, chainChar.contains c = true := List.all_eq_true.1 (by decide)
  have hchars : ∀ c ∈ o.text, chainChar.contains c = true := by
    intro c hc
    rw [hcall, List.mem_append] at hc
    exact hc.elim (hcall' c) (htail c)
  rw [String.toList_ofList]
  constructor
  · intro hmem
    exact absurd (hchars _ (Text.mem_of_mem_trimEnd hmem)) (by decide)
  · intro hmem
    exact absurd (hchars _ (Text.mem_of_mem_trimEnd hmem)) (by decide)

/-- **A conversion keeps the structure of a text**: `convert` changes neither the difference of
parentheses nor the number of quotes, line feeds, semicolons, braces and lines; what is `Nested`
stays so; and none of the `divChains` is given a semicolon or an opening brace. -/
theorem structure_convert :
    (∀ text : List Char,
      ((builtin.convert text).count '(' : Int) - (builtin.convert text).count ')' =
        (text.count '(' : Int) - text.count ')' ∧
      (∀ c ∈ ['"', '\n', ';', '\x7b', '\x7d'], (builtin.convert text).count c = text.count c) ∧
      (Text.Nested text → Text.Nested (builtin.convert text)) ∧
      (Text.lines (builtin.convert text)).length = (Text.lines text).length) ∧
    ∀ source chain : String, chain ∈ (builtin.analyze source).divChains →
      ';' ∉ builtin.convert chain.toList ∧ '\x7b' ∉ builtin.convert chain.toList := by
  constructor
  · intro text
    have h := sameStructure_convert text
    refine ⟨h.depth, h.count, fun hnested => ?_, ?_⟩
    · rw [Text.nested_iff] at hnested ⊢
      exact Int.le_trans hnested h.lowest
    · rw [Text.length_lines, Text.length_lines, h.ends, h.count '\n' (by decide)]
  · intro source chain hchain
    have h := sameStructure_convert chain.toList
    obtain ⟨hsemicolon, hbrace⟩ := not_mem_of_mem_divChains hchain
    rw [← List.count_eq_zero] at hsemicolon hbrace ⊢
    rw [← List.count_eq_zero, h.count _ (by decide), h.count _ (by decide)]
    exact ⟨hsemicolon, hbrace⟩

/-- A chain of two lines in which three calls are reworded, one of them around a parenthesis. -/
theorem structure_convert_chain :
    "div().bg(gpui::red())\n.border_color(rgb(0xff)).child(\"(a)\")" ∈
      (builtin.analyze "let a = div().bg(gpui::red())\n.border_color(rgb(0xff)).child(\"(a)\");").divChains ∧
    Text.Nested "div().bg(gpui::red())\n.border_color(rgb(0xff)).child(\"(a)\")".toList ∧
    Text.Nested (builtin.convert "div().bg(gpui::red())\n.border_color(rgb(0xff)).child(\"(a)\")".toList) ∧
    ';' ∉ builtin.convert "div().bg(gpui::red())\n.border_color(rgb(0xff)).child(\"(a)\")".toList := by
  have hchain : "div().bg(gpui::red())\n.border_color(rgb(0xff)).child(\"(a)\")" ∈
      (builtin.analyze
        "let a = div().bg(gpui::red())\n.border_color(rgb(0xff)).child(\"(a)\");").divChains := by
    decide +kernel
  have hnested : Text.Nested "div().bg(gpui::red())\n.border_color(rgb(0xff)).child(\"(a)\")".toList :=
    Text.nested_iff.2 (by decide +kernel)
  exact ⟨hchain, hnested, (structure_convert.1 _).2.2.1 hnested, (structure_convert.2 _ _ hchain).1⟩

end Catalog
end UiSkeleton
