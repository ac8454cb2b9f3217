/-
The markup of an HTML report. Values are escaped, and an escaped value has none of the characters
that markup is made of; so these characters are those of the template, some of which stand once for
every warning. Code blocks are what stands between two marks. A text is quiet if no mark begins in
it, whatever follows; the rows of the template are quiet but for two, each of which encloses one
value, and reading its entities gives the value back.
-/
import UiSkeleton.Proofs.Report.Data
import UiSkeleton.Proofs.Template.Rows

namespace UiSkeleton.Markup

/-- The characters that make up tags and attributes. -/
def isMark (c : Char) : Bool := c == '<' || c == '>' || c == '"'

/-- The markup of a text. -/
def marks (cs : List Char) : List Char := cs.filter isMark

/-- The entities that escaping uses. -/
def entities : List (List Char × Char) :=
  [("&lt;".toList, '<'), ("&gt;".toList, '>'), ("&quot;".toList, '"'), ("&amp;".toList, '&'),
    ("&#x27;".toList, '\''), ("&#x60;".toList, '\x60'), ("&#x3D;".toList, '=')]

/-- The text with every entity read, from front to back. -/
def unescape : List Char → List Char
  | [] => []
  | c :: r =>
    match entities.find? fun (entity, _) => entity.isPrefixOf (c :: r) with
    | some (entity, meant) => meant :: unescape (r.drop (entity.length - 1))
    | none => c :: unescape r
termination_by cs => cs.length

/-- Entities begin alike, hold no markup, and none of them is the start of another one. -/
theorem entities_facts : entities.all (fun e => e.1.head? == some '&' && (marks e.1).isEmpty &&
    entities.all fun f => f == e || !f.1.isPrefixOf e.1 && !e.1.isPrefixOf f.1) = true := by
  decide

theorem entity_fact {e : List Char × Char} (h : e ∈ entities) : (∃ tail, e.1 = '&' :: tail) ∧ marks e.1 = [] ∧
    ∀ f ∈ entities, f.1 <+: e.1 ∨ e.1 <+: f.1 → f = e := by
  have hfacts := List.all_eq_true.1 entities_facts e h
  simp only [Bool.and_eq_true, beq_iff_eq, List.isEmpty_iff, List.all_eq_true, Bool.or_eq_true,
    Bool.not_eq_true'] at hfacts
  obtain ⟨⟨hhead, hmarks⟩, hapart⟩ := hfacts
  refine ⟨List.head?_eq_some_iff.1 hhead, hmarks, fun f hf hcomparable => ?_⟩
  rcases hapart f hf with heq | ⟨hfe, hef⟩
  · exact heq
  · rcases hcomparable with h | h
    · rw [List.isPrefixOf_iff_prefix.2 h] at hfe
      cases hfe
    · rw [List.isPrefixOf_iff_prefix.2 h] at hef
      cases hef

/-- A character is escaped by its entity, or it is none of the special ones. -/
theorem htmlEntity_cases (c : Char) :
    (htmlEntity c, c) ∈ entities ∨ (htmlEntity c = [c] ∧ isMark c = false ∧ c ≠ '&') := by
  unfold htmlEntity
  split
  case h_8 hlt hgt hquot hamp _ _ _ => exact .inr ⟨rfl, by simpa [isMark] using ⟨⟨hlt, hgt⟩, hquot⟩, hamp⟩
  all_goals simp [entities]

theorem marks_apply_html (cs : List Char) : marks (Escaping.html.apply cs) = [] := by
  rw [marks, Escaping.apply, List.filter_flatMap, List.flatMap_eq_nil_iff]
  intro c _
  rcases htmlEntity_cases c with h | ⟨hc, hmark, -⟩
  · exact (entity_fact h).2.1
  · simp [hc, hmark]

theorem unescape_entity {e : List Char × Char} (h : e ∈ entities) (rest : List Char) :
    unescape (e.1 ++ rest) = e.2 :: unescape rest := by
  obtain ⟨⟨tail, htail⟩, -, hunique⟩ := entity_fact h
  have hfound : entities.find? (fun f => f.1.isPrefixOf (e.1 ++ rest)) = some e := by
    have hsome : (entities.find? fun f => f.1.isPrefixOf (e.1 ++ rest)).isSome := by
      rw [List.find?_isSome]
      exact ⟨e, h, List.isPrefixOf_iff_prefix.2 (List.prefix_append _ _)⟩
    obtain ⟨f, hf⟩ := Option.isSome_iff_exists.1 hsome
    have hmatch := List.find?_some (p := fun f : List Char × Char => f.1.isPrefixOf (e.1 ++ rest)) hf
    have hcomparable := List.prefix_or_prefix_of_prefix (List.isPrefixOf_iff_prefix.1 hmatch)
      (List.prefix_append e.1 rest)
    rw [hf, hunique f (List.mem_of_find?_eq_some hf) hcomparable]
  rw [htail, List.cons_append] at hfound ⊢
  rw [unescape, hfound]
  simp [htail]

theorem unescape_cons {c : Char} (h : c ≠ '&') (rest : List Char) :
    unescape (c :: rest) = c :: unescape rest := by
  have hnone : entities.find? (fun f => f.1.isPrefixOf (c :: rest)) = none := by
    rw [List.find?_eq_none]
    intro f hf hstarts
    obtain ⟨⟨tail, htail⟩, -⟩ := entity_fact hf
    rw [htail, List.isPrefixOf_iff_prefix, List.cons_prefix_cons] at hstarts
    exact h hstarts.1.symm
  rw [unescape, hnone]

/-- **`unescape` takes back what `Escaping.html` does.** -/
theorem unescape_apply_html (cs : List Char) : unescape (Escaping.html.apply cs) = cs := by
  rw [Escaping.apply]
  induction cs with
  | nil => rw [List.flatMap_nil, unescape]
  | cons c cs ih =>
    rw [List.flatMap_cons]
    rcases htmlEntity_cases c with h | ⟨hc, -, hamp⟩
    · rw [unescape_entity h, ih]
    · rw [hc, List.singleton_append, unescape_cons hamp, ih]

/-! ## The markup of a template -/

/-- Whether every value is escaped. -/
def isEscaped : Template → Bool
  | .done => true
  | .text _ next => isEscaped next
  | .value _ raw next => !raw && isEscaped next
  | .choose _ yes no next => isEscaped yes && isEscaped no && isEscaped next
  | .each _ body _ other next => isEscaped body && isEscaped other && isEscaped next

/-- What the conditions and the repetitions ask for. -/
def controls : Template → List TemplateTag
  | .done => []
  | .text _ next | .value _ _ next => controls next
  | .choose tag yes no next => tag :: (controls yes ++ controls no ++ controls next)
  | .each tag body _ other next => tag :: (controls body ++ controls other ++ controls next)

/-- Whether the bodies of repetitions hold no conditions and no repetitions. -/
def isFlat : Template → Bool
  | .done => true
  | .text _ next | .value _ _ next => isFlat next
  | .choose _ yes no next => isFlat yes && isFlat no && isFlat next
  | .each _ body _ other next => (controls body).isEmpty && isFlat body && isFlat other && isFlat next

/-- The markup of a template whose conditions and repetitions all ask for a list of `n` items. -/
def templateMarks (n : Nat) : Template → List Char
  | .done => []
  | .text cs next => marks cs ++ templateMarks n next
  | .value _ _ next => templateMarks n next
  | .choose _ yes no next =>
      (if n = 0 then templateMarks n no else templateMarks n yes) ++ templateMarks n next
  | .each _ body hasOther other next =>
    (if n = 0 then if hasOther then templateMarks n other else []
      else (List.replicate n (templateMarks n body)).flatten) ++ templateMarks n next

theorem marks_append (a b : List Char) : marks (a ++ b) = marks a ++ marks b := List.filter_append ..

theorem marks_flatMap {f : JsonValue → List Char} {x : List Char}
    (h : ∀ w, marks (f w) = x) (items : List JsonValue) :
    marks (items.flatMap f) = (List.replicate items.length x).flatten := by
  induction items with
  | nil => rfl
  | cons w ws ih =>
    rw [List.flatMap_cons, marks_append, h, ih, List.length_cons, List.replicate_succ, List.flatten_cons]

/-- **Values do not change the `marks`.** They depend on the number of items in the list alone. -/
theorem marks_fill {n : Nat} {t : Template} (hescaped : isEscaped t = true)
    (hflat : isFlat t = true) {v : JsonValue}
    (hcontrols : ∀ tag ∈ controls t, ∃ items, v.follow? tag.keys = some (.array items) ∧ items.length = n) :
    marks (t.fill .html v) = templateMarks n t := by
  induction t generalizing v with
  | done => rfl
  | text cs next ih =>
    rw [Template.fill, marks_append, templateMarks, ih hescaped hflat hcontrols]
  | value tag raw next ih =>
    simp only [isEscaped, Bool.and_eq_true, Bool.not_eq_true'] at hescaped
    rw [Template.fill, marks_append, templateMarks, ih hescaped.2 hflat hcontrols, hescaped.1]
    split
    · rfl
    · rw [if_neg Bool.false_ne_true, marks_apply_html, List.nil_append]
  | choose tag yes no next ihYes ihNo ih =>
    simp only [isEscaped, isFlat, Bool.and_eq_true] at hescaped hflat
    obtain ⟨items, hitems, hlength⟩ := hcontrols tag (by simp [controls])
    have hnext := ih hescaped.2 hflat.2 fun u hu => hcontrols u (by simp [controls, hu])
    rw [Template.fill, marks_append, templateMarks, hnext, hitems]
    cases items with
    | nil =>
      have hn : n = 0 := hlength.symm
      rw [if_pos hn, ← ihNo hescaped.1.2 hflat.1.2 fun u hu => hcontrols u (by simp [controls, hu])]
      rfl
    | cons w ws =>
      have hn : n ≠ 0 := fun hn => by simp [hn] at hlength
      rw [if_neg hn, ← ihYes hescaped.1.1 hflat.1.1 fun u hu => hcontrols u (by simp [controls, hu])]
      rfl
  | each tag body hasOther other next ihBody ihOther ih =>
    simp only [isEscaped, isFlat, Bool.and_eq_true, List.isEmpty_iff] at hescaped hflat
    obtain ⟨items, hitems, hlength⟩ := hcontrols tag (by simp [controls])
    have hnext := ih hescaped.2 hflat.2 fun u hu => hcontrols u (by simp [controls, hu])
    have hbody : ∀ w, marks (body.fill .html w) = templateMarks n body := fun w =>
      ihBody hescaped.1.1 hflat.1.1.2 (by simp [hflat.1.1.1])
    have hother := ihOther hescaped.1.2 hflat.1.2 fun u hu => hcontrols u (by simp [controls, hu])
    rw [Template.fill, marks_append, templateMarks, hnext, hitems]
    cases items with
    | nil =>
      have hn : n = 0 := hlength.symm
      rw [if_pos hn, ← hother]
      cases hasOther <;> rfl
    | cons w ws =>
      have hn : n ≠ 0 := fun hn => by simp [hn] at hlength
      have hitem := marks_flatMap hbody (w :: ws)
      rw [hlength] at hitem
      rw [if_neg hn, ← hitem]
      rfl

/-! ## Code blocks -/

/-- What a code block starts with. -/
def opening : List Char := "<pre><code>".toList

/-- What ends a code block. -/
def closing : List Char := "</code></pre>".toList

/-- The text before a mark, if there is one. -/
def textBefore? (mark : List Char) : List Char → Option (List Char)
  | [] => none
  | c :: r => if mark.isPrefixOf (c :: r) then some [] else (textBefore? mark r).map (c :: ·)

/-- For every opening mark the text up to the next closing one. -/
def codeTexts : List Char → List (Option (List Char))
  | [] => []
  | c :: r =>
    if opening.isPrefixOf (c :: r) then textBefore? closing ((c :: r).drop opening.length) :: codeTexts r
    else codeTexts r

/-- The text adds the given code blocks to those of whatever follows. -/
def Yields (cs : List Char) (texts : List (Option (List Char))) : Prop :=
  ∀ rest, codeTexts (cs ++ rest) = texts ++ codeTexts rest

theorem Yields.append {a b : List Char}
    {x y : List (Option (List Char))} (ha : Yields a x) (hb : Yields b y) :
    Yields (a ++ b) (x ++ y) := by
  intro rest
  rw [List.append_assoc, ha, hb, List.append_assoc]

theorem Yields.eq {cs : List Char} {texts : List (Option (List Char))} (h : Yields cs texts) :
    codeTexts cs = texts := by
  simpa [codeTexts] using h []

/-- Whether no opening mark starts in the text, whatever follows. -/
def isQuiet : List Char → Bool
  | [] => true
  | c :: r => !(opening.isPrefixOf (c :: r) || (c :: r).isPrefixOf opening) && isQuiet r

theorem yields_of_isQuiet {cs : List Char} (h : isQuiet cs = true) : Yields cs [] := by
  intro rest
  induction cs with
  | nil => rfl
  | cons c r ih =>
    simp only [isQuiet, Bool.and_eq_true, Bool.not_eq_true', Bool.or_eq_false_iff] at h
    obtain ⟨⟨hopening, hcs⟩, hr⟩ := h
    rw [List.cons_append, codeTexts, if_neg, ih hr]
    intro hstarts
    rw [List.isPrefixOf_iff_prefix, ← List.cons_append] at hstarts
    rcases List.prefix_or_prefix_of_prefix hstarts (List.prefix_append (c :: r) rest) with h | h
    · rw [List.isPrefixOf_iff_prefix.2 h] at hopening
      cases hopening
    · rw [List.isPrefixOf_iff_prefix.2 h] at hcs
      cases hcs

theorem ne_of_marks_cons {c : Char} {r : List Char} (h : marks (c :: r) = []) : c ≠ '<' ∧ marks r = [] := by
  rw [marks, List.filter_cons] at h
  split at h
  · cases h
  · rename_i hc
    refine ⟨?_, h⟩
    rintro rfl
    exact hc rfl

theorem isQuiet_of_marks {cs : List Char} (h : marks cs = []) : isQuiet cs = true := by
  induction cs with
  | nil => rfl
  | cons c r ih =>
    obtain ⟨hne, hr⟩ := ne_of_marks_cons h
    obtain ⟨tail, htail⟩ : ∃ tail, opening = '<' :: tail := ⟨_, rfl⟩
    rw [isQuiet, htail, List.isPrefixOf, List.isPrefixOf, beq_eq_false_iff_ne.2 hne,
      beq_eq_false_iff_ne.2 hne.symm, ih hr]
    rfl

/-- A text without markup ends at the first closing mark after it. -/
theorem textBefore?_closing {cs : List Char} (h : marks cs = []) (rest : List Char) :
    textBefore? closing (cs ++ (closing ++ rest)) = some cs := by
  induction cs with
  | nil =>
    obtain ⟨tail, htail⟩ : ∃ tail, closing = '<' :: tail := ⟨_, rfl⟩
    have hstarts : closing.isPrefixOf (closing ++ rest) = true :=
      List.isPrefixOf_iff_prefix.2 (List.prefix_append _ _)
    rw [htail, List.cons_append] at hstarts
    rw [List.nil_append, htail, List.cons_append, textBefore?, if_pos hstarts]
  | cons c r ih =>
    obtain ⟨hne, hr⟩ := ne_of_marks_cons h
    obtain ⟨tail, htail⟩ : ∃ tail, closing = '<' :: tail := ⟨_, rfl⟩
    have hstarts : closing.isPrefixOf (c :: (r ++ (closing ++ rest))) = false := by
      rw [htail, List.isPrefixOf, beq_eq_false_iff_ne.2 hne.symm, Bool.false_and]
    rw [List.cons_append, textBefore?, hstarts, if_neg Bool.false_ne_true, ih hr, Option.map_some]

theorem isQuiet_tail_opening : isQuiet (opening.drop 1) = true := by decide

theorem yields_block {cs : List Char} (h : marks cs = []) :
    Yields (opening ++ (cs ++ closing)) [some cs] := by
  intro rest
  obtain ⟨tail, htail⟩ : ∃ tail, opening = '<' :: tail := ⟨_, rfl⟩
  have hstarts : opening.isPrefixOf (opening ++ (cs ++ (closing ++ rest))) = true :=
    List.isPrefixOf_iff_prefix.2 (List.prefix_append _ _)
  have hdrop : (opening ++ (cs ++ (closing ++ rest))).drop opening.length = cs ++ (closing ++ rest) :=
    List.drop_left
  have hquiet : Yields (tail ++ (cs ++ closing)) [] := by
    have htail' : tail = opening.drop 1 := by rw [htail]; rfl
    have hclosing : isQuiet closing = true := by decide
    rw [htail']
    exact (yields_of_isQuiet isQuiet_tail_opening).append
      ((yields_of_isQuiet (isQuiet_of_marks h)).append (yields_of_isQuiet hclosing))
  rw [List.append_assoc, List.append_assoc]
  have hcons : opening ++ (cs ++ (closing ++ rest)) = '<' :: (tail ++ (cs ++ (closing ++ rest))) := by
    rw [htail, List.cons_append]
  rw [hcons] at hstarts hdrop ⊢
  have hafter := hquiet rest
  rw [List.append_assoc, List.append_assoc] at hafter
  rw [codeTexts, if_pos hstarts, hdrop, textBefore?_closing h, hafter]
  rfl

/-! ## The rows of a template -/

/-- Whether every value of a template is escaped and every text of it is quiet. -/
def hasNoCode : Template → Bool
  | .done => true
  | .text cs next => isQuiet cs && hasNoCode next
  | .value _ raw next => !raw && hasNoCode next
  | .choose _ yes no next => hasNoCode yes && hasNoCode no && hasNoCode next
  | .each _ body _ other next => hasNoCode body && hasNoCode other && hasNoCode next

theorem yields_apply_html (cs : List Char) : Yields (Escaping.html.apply cs) [] :=
  yields_of_isQuiet (isQuiet_of_marks (marks_apply_html cs))

theorem yields_flatMap {f : JsonValue → List Char} (h : ∀ w, Yields (f w) []) (items : List JsonValue) :
    Yields (items.flatMap f) [] := by
  induction items with
  | nil => exact yields_of_isQuiet rfl
  | cons w ws ih => exact (h w).append ih

theorem yields_fill {t : Template} (h : hasNoCode t = true) (v : JsonValue) : Yields (t.fill .html v) [] := by
  induction t generalizing v with
  | done => exact yields_of_isQuiet rfl
  | text cs next ih =>
    simp only [hasNoCode, Bool.and_eq_true] at h
    exact (yields_of_isQuiet h.1).append (ih h.2 v)
  | value tag raw next ih =>
    simp only [hasNoCode, Bool.and_eq_true, Bool.not_eq_true'] at h
    refine Yields.append (x := []) ?_ (ih h.2 v)
    split
    · exact yields_of_isQuiet rfl
    · rw [h.1, if_neg Bool.false_ne_true]
      exact yields_apply_html _
  | choose tag yes no next ihYes ihNo ih =>
    simp only [hasNoCode, Bool.and_eq_true] at h
    refine Yields.append (x := []) ?_ (ih h.2 v)
    split
    · exact ihYes h.1.1 v
    · exact ihNo h.1.2 v
  | each tag body hasOther other next ihBody ihOther ih =>
    simp only [hasNoCode, Bool.and_eq_true] at h
    refine Yields.append (x := []) ?_ (ih h.2 v)
    split
    · exact yields_flatMap (ihBody h.1.1) _
    · split
      · exact ihOther h.1.2 v
      · exact yields_of_isQuiet rfl

/-- A row with a heading and a code block. -/
def codeRow (heading after code : String) : Template :=
  .text "<section><h3>".toList <| .value (.ofKey heading) false <| .text (after.toList ++ opening) <|
    .value (.ofKey code) false <| .text (closing ++ "</section>".toList) .done

/-- Two rows of the report have a code block. -/
theorem rows_code : htmlReport.rows.filter (fun row => !hasNoCode row) =
    [codeRow "name" ".rs</h3>" "source", codeRow "skeleton_file" "</h3>" "skeleton"] := by
  rw [Template.Spelled.eq (t := htmlReport) ?spelled]
  case spelled => repeat constructor
  decide

theorem yields_codeRow (heading after : String) {code text : String}
    (hafter : isQuiet after.toList = true) {v : JsonValue}
    (hcode : v.child? code = some (.string text)) :
    Yields ((codeRow heading after code).fill .html v) [some (Escaping.html.apply text.toList)] := by
  have hheading : Yields ((Template.value (.ofKey heading) false .done).fill .html v) [] := yields_fill rfl v
  have hfill : (codeRow heading after code).fill .html v = "<section><h3>".toList ++
      ((Template.value (.ofKey heading) false .done).fill .html v ++ (after.toList ++
        ((opening ++ (Escaping.html.apply text.toList ++ closing)) ++ "</section>".toList))) := by
    simp only [codeRow, Template.fill, TemplateTag.ofKey, JsonValue.follow?, hcode, Option.bind_some,
      JsonValue.display_string, Bool.false_eq_true, if_false, List.append_assoc, List.append_nil]
  rw [hfill]
  refine Yields.append (x := []) (yields_of_isQuiet (by decide)) (hheading.append ?_)
  refine (yields_of_isQuiet hafter).append ((yields_block (marks_apply_html _)).append (y := []) ?_)
  exact yields_of_isQuiet (by decide)

theorem yields_fillRows {v : JsonValue} : ∀ {rows : List Template},
    (∀ row ∈ rows, ∃ texts, Yields (row.fill .html v) texts) →
      Yields (Template.fillRows .html v rows) (rows.flatMap fun row => codeTexts (row.fill .html v))
  | [], _ => yields_of_isQuiet rfl
  | [row], h => by
    obtain ⟨texts, htexts⟩ := h row (by simp)
    simpa [Template.fillRows, htexts.eq] using htexts
  | row :: next :: rows, h => by
    obtain ⟨texts, htexts⟩ := h row (by simp)
    have hnext : ∀ r ∈ next :: rows, ∃ texts, Yields (r.fill .html v) texts := fun r hr => h r (by simp [hr])
    have ih := yields_fillRows hnext
    rw [List.flatMap_cons, htexts.eq, Template.fillRows, List.map_cons, List.map_cons,
      List.intercalate_cons_cons, List.append_assoc]
    exact htexts.append (Yields.append (x := []) (yields_of_isQuiet rfl) ih)

theorem flatMap_eq_flatMap_filter {f : Template → List (Option (List Char))} {p : Template → Bool} :
    ∀ {rows : List Template}, (∀ row ∈ rows, p row = false → f row = []) →
      rows.flatMap f = (rows.filter p).flatMap f
  | [], _ => rfl
  | row :: rows, h => by
    have ih := flatMap_eq_flatMap_filter fun r hr => h r (List.mem_cons_of_mem _ hr)
    rw [List.flatMap_cons, ih, List.filter_cons]
    split
    · rfl
    · rename_i hp
      rw [h row (by simp) (by simpa using hp), List.nil_append]

theorem codeTexts_htmlReport (name source : String) (skeleton : SkeletonDocument) (a : Analysis) :
    codeTexts (htmlReport.fill .html (ReportFormat.data name source skeleton a)) =
      [some (Escaping.html.apply source.toList), some (Escaping.html.apply skeleton.content.toList)] := by
  have hchild := ReportFormat.child?_data name source skeleton a
  generalize ReportFormat.data name source skeleton a = v at hchild
  have hsource := yields_codeRow "name" ".rs</h3>" (by decide) (hchild "source")
  have hskeleton := yields_codeRow "skeleton_file" "</h3>" (by decide) (hchild "skeleton")
  have hrows : ∀ row ∈ htmlReport.rows, ∃ texts, Yields (row.fill .html v) texts := by
    intro row hrow
    cases hcode : hasNoCode row with
    | true => exact ⟨[], yields_fill hcode v⟩
    | false =>
      have hmem : row ∈ htmlReport.rows.filter fun row => !hasNoCode row :=
        List.mem_filter.2 ⟨hrow, by simp [hcode]⟩
      simp only [rows_code, List.mem_cons, List.not_mem_nil, or_false] at hmem
      rcases hmem with rfl | rfl
      · exact ⟨_, hsource⟩
      · exact ⟨_, hskeleton⟩
  rw [Template.fill_eq_fillRows, (yields_fillRows hrows).eq,
    flatMap_eq_flatMap_filter (p := fun row => !hasNoCode row), rows_code]
  · simp [hsource.eq, hskeleton.eq]
  · intro row _ hrow
    exact (yields_fill (by simpa using hrow) v).eq

/-! ## The report -/

theorem controls_warnings : (isEscaped htmlReport && isFlat htmlReport &&
    (controls htmlReport).all (fun tag => tag.keys == ["warnings"])) = true := by
  decide

/-- **No value alters the markup of an HTML report, and the files in it can be read back.** Its
`marks` depend on the number of warnings alone, and its `codeTexts`, each under `unescape`, are the
source and the skeleton. -/
theorem marks_and_codeTexts_report (name source : String) (skeleton : SkeletonDocument) (a : Analysis) :
    ∃ report, ReportFormat.html.generate name source skeleton a = .ok report ∧
      marks report.content.toList = templateMarks a.warnings.size htmlReport ∧
      (codeTexts report.content.toList).map (·.map unescape) =
        [some source.toList, some skeleton.content.toList] := by
  refine ⟨_, ReportFormat.generate_eq .., ?_, ?_⟩
  · rw [String.toList_ofList]
    have hcontrols := controls_warnings
    simp only [Bool.and_eq_true, List.all_eq_true, beq_iff_eq] at hcontrols
    refine marks_fill hcontrols.1.1 hcontrols.1.2 fun tag htag => ?_
    rw [hcontrols.2 tag htag, ReportFormat.follow?_warnings]
    exact ⟨_, rfl, by simp [SortedSet.size]⟩
  · rw [String.toList_ofList]
    show (codeTexts (htmlReport.fill .html _)).map _ = _
    rw [codeTexts_htmlReport]
    simp [unescape_apply_html]

end UiSkeleton.Markup
