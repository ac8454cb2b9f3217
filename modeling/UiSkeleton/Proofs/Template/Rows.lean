/-
Rows of a template: the template cut at the line feeds of its own text. What is filled in may bring
further line feeds, so a row need not fill a single line; but the text of a template is the texts of
its rows with line feeds between them, and so its lines are the lines of its rows.
-/
import UiSkeleton.Proofs.Template.Fill
import UiSkeleton.Proofs.Text.Lines

namespace UiSkeleton.Template

/-- The rows with something put in front of the first one. -/
def inFront (f : Template → Template) : List Template → List Template
  | [] => [f .done]
  | row :: more => f row :: more

/-- The rows with some lines before them, the last of which the first row goes on with. -/
def linesBefore : List (List Char) → List Template → List Template
  | [], rows => rows
  | [line], rows => inFront (.text line) rows
  | line :: more, rows => .text line .done :: linesBefore more rows

/-- The rows of a template. What stands inside a condition or a repetition is not cut. -/
def rows : Template → List Template
  | .done => [.done]
  | .text cs next => linesBefore (cs.splitOn '\n') next.rows
  | .value tag raw next => inFront (.value tag raw) next.rows
  | .choose tag yes no next => inFront (.choose tag yes no) next.rows
  | .each tag body hasOther other next => inFront (.each tag body hasOther other) next.rows

theorem inFront_ne_nil {f : Template → Template} {rows : List Template} : inFront f rows ≠ [] := by
  cases rows <;> simp [inFront]

theorem linesBefore_ne_nil : ∀ {lines : List (List Char)} {rows : List Template}, rows ≠ [] →
    linesBefore lines rows ≠ []
  | [], _, h => h
  | [_], _, _ => inFront_ne_nil
  | _ :: _ :: _, _, _ => by simp [linesBefore]

theorem rows_ne_nil (t : Template) : t.rows ≠ [] := by
  induction t with
  | done => simp [rows]
  | text cs next ih => exact linesBefore_ne_nil ih
  | value | choose | each => exact inFront_ne_nil

variable {escaping : Escaping} {v : JsonValue}

/-- The texts of some rows with line feeds between them. -/
def fillRows (escaping : Escaping) (v : JsonValue) (rows : List Template) : List Char :=
  ['\n'].intercalate (rows.map fun row => row.fill escaping v)

theorem fillRows_inFront {f : Template → Template} {cs : List Char}
    (hf : ∀ t, (f t).fill escaping v = cs ++ t.fill escaping v) {rows : List Template} (h : rows ≠ []) :
    fillRows escaping v (inFront f rows) = cs ++ fillRows escaping v rows := by
  cases rows with
  | nil => exact absurd rfl h
  | cons row more => cases more <;> simp [fillRows, inFront, hf]

theorem fillRows_linesBefore : ∀ {lines : List (List Char)} {rows : List Template}, lines ≠ [] → rows ≠ [] →
    fillRows escaping v (linesBefore lines rows) = ['\n'].intercalate lines ++ fillRows escaping v rows
  | [line], rows, _, h => by
    rw [linesBefore, fillRows_inFront (fun _ => rfl) h, List.intercalate_singleton]
  | line :: next :: more, rows, _, h => by
    have hnext : next :: more ≠ [] := by simp
    have ih := fillRows_linesBefore hnext h
    have hne : linesBefore (next :: more) rows ≠ [] := linesBefore_ne_nil h
    obtain ⟨row, others, hrows⟩ := List.exists_cons_of_ne_nil hne
    rw [linesBefore, List.intercalate_cons_cons, List.append_assoc, ← ih, hrows]
    · simp [fillRows, fill]
    · simp

/-- **A template's text is the texts of its `rows`** with line feeds between them. -/
theorem fill_eq_fillRows (t : Template) : t.fill escaping v = fillRows escaping v t.rows := by
  induction t with
  | done => rfl
  | text cs next ih =>
    rw [rows, fillRows_linesBefore (List.splitOn_ne_nil _ _) next.rows_ne_nil,
      List.intercalate_splitOn, fill, ih]
  | value tag raw next ih => rw [rows, fillRows_inFront (fun _ => rfl) next.rows_ne_nil, fill, ih]
  | choose tag yes no next _ _ ih => rw [rows, fillRows_inFront (fun _ => rfl) next.rows_ne_nil, fill, ih]
  | each tag body hasOther other next _ _ ih =>
    rw [rows, fillRows_inFront (fun _ => rfl) next.rows_ne_nil, fill, ih]

/-- The lines of a template's text are the lines of its `rows`. -/
theorem splitOn_fill (t : Template) :
    (t.fill escaping v).splitOn '\n' = t.rows.flatMap fun row => (row.fill escaping v).splitOn '\n' := by
  rw [fill_eq_fillRows, fillRows, Text.splitOn_intercalate_eq_flatMap (by simp [rows_ne_nil]),
    List.flatMap_map]

/-- The lines of rows that follow one another stand together among the lines of the text. -/
theorem splitOn_fill_of_infix {t : Template} {part : List Template} (h : part <:+: t.rows) : ∃ before after,
    (t.fill escaping v).splitOn '\n' =
      before ++ (part.flatMap fun row => (row.fill escaping v).splitOn '\n') ++ after := by
  obtain ⟨before, after, hrows⟩ := h
  refine ⟨before.flatMap fun row => (row.fill escaping v).splitOn '\n',
    after.flatMap fun row => (row.fill escaping v).splitOn '\n', ?_⟩
  rw [splitOn_fill, ← hrows, List.flatMap_append, List.flatMap_append]

theorem splitOn_fill_of_mem {t row : Template} (h : row ∈ t.rows) : ∃ before after,
    (t.fill escaping v).splitOn '\n' = before ++ (row.fill escaping v).splitOn '\n' ++ after := by
  obtain ⟨front, back, hrows⟩ := List.append_of_mem h
  have hinfix : [row] <:+: t.rows := ⟨front, back, by simp [hrows]⟩
  obtain ⟨before, after, hsplit⟩ := splitOn_fill_of_infix hinfix
  exact ⟨before, after, by simpa using hsplit⟩

/-- A row that is the value of a member and nothing else. -/
def slotRow (key : String) : Template := .text [] <| .value (.ofKey key) false <| .text [] .done

theorem fill_slotRow {key : String} {w : JsonValue} (h : v.child? key = some w) :
    (slotRow key).fill .raw v = w.display := by
  simp only [slotRow, fill, TemplateTag.ofKey, JsonValue.follow?, h, Option.bind_some, Escaping.apply,
    Bool.false_eq_true, if_false, List.append_nil, List.nil_append]

end UiSkeleton.Template
