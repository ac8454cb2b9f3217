/-
The words of a text, joined by spaces. A text that ends in no blank is its words with the runs of
blanks between them; so the joined words are the text with a single space for each run, apart from
the blanks at its start.
-/
import UiSkeleton.Proofs.Text.Blank

namespace UiSkeleton.Text

variable {c d : Char} {cs r : List Char}

/-- The text with a single space for each run of blanks. -/
def collapsed : List Char → List Char
  | [] => []
  | c :: r =>
    if isBlank c then
      -- the last blank of a run stands for all of it
      if r.head?.any isBlank then collapsed r else ' ' :: collapsed r
    else c :: collapsed r

theorem collapsed_letter (hc : isBlank c = false) : collapsed (c :: r) = c :: collapsed r := by
  simp [collapsed, hc]

theorem collapsed_blank (hc : isBlank c = true) : collapsed (c :: r) = ' ' :: collapsed (trimStart r) := by
  induction r generalizing c with
  | nil => simp [collapsed, trimStart, hc]
  | cons d r ih =>
    rw [collapsed, if_pos hc]
    cases hd : isBlank d with
    | true => rw [if_pos (by simpa using hd), ih hd, trimStart_blank hd]
    | false => rw [if_neg (by simpa using hd), trimStart_letter hd]

/-! ## The words -/

theorem words_blank (hc : isBlank c = true) : words (c :: r) = words r := by
  simp [words, cutWhere, hc]

theorem words_single (hc : isBlank c = false) (hr : ∀ d ∈ r.head?, isBlank d = true) :
    words (c :: r) = [c] :: words r := by
  cases r with
  | nil => simp [words, cutWhere, hc]
  | cons d r => simp [words, cutWhere, hc, hr d rfl]

/-- A character before a word belongs to it. -/
theorem words_letter (hc : isBlank c = false) (hd : isBlank d = false) :
    ∃ word more, words (d :: r) = word :: more ∧ words (c :: d :: r) = (c :: word) :: more := by
  obtain ⟨piece, pieces, hr⟩ := List.exists_cons_of_ne_nil (cutWhere_ne_nil isBlank r)
  refine ⟨d :: piece, pieces.filter fun w => !w.isEmpty, ?_, ?_⟩ <;> simp [words, cutWhere, hc, hd, hr]

theorem words_ne_nil (hc : c ∈ cs) (hblank : isBlank c = false) : words cs ≠ [] := by
  induction cs with
  | nil => cases hc
  | cons d r ih =>
    cases hd : isBlank d with
    | true =>
      rw [words_blank hd]
      refine ih ((List.mem_cons.1 hc).resolve_left ?_)
      rintro rfl
      rw [hd] at hblank
      cases hblank
    | false =>
      obtain ⟨piece, pieces, hr⟩ := List.exists_cons_of_ne_nil (cutWhere_ne_nil isBlank r)
      simp [words, cutWhere, hd, hr]

/-- **The joined `words` are the text with its runs of blanks `collapsed`.** -/
theorem intercalate_words (hend : ∀ c ∈ cs.getLast?, isBlank c = false) :
    [' '].intercalate (words cs) = collapsed (trimStart cs) := by
  induction cs with
  | nil => rfl
  | cons c r ih =>
    have ih' := ih fun x hx => hend x (by rw [List.getLast?_cons, Option.mem_def.1 hx]; rfl)
    cases hc : isBlank c with
    | true => rw [words_blank hc, trimStart_blank hc, ih']
    | false =>
      rw [trimStart_letter hc, collapsed_letter hc]
      cases r with
      | nil => simp [words, cutWhere, hc, collapsed]
      | cons d r =>
        cases hd : isBlank d with
        | true =>
          -- the text does not end in a blank, so another word comes
          have hlast : words (d :: r) ≠ [] := words_ne_nil (List.getLast_mem (List.cons_ne_nil d r))
            (hend _
              (by rw [List.getLast?_cons_cons, List.getLast?_eq_some_getLast (List.cons_ne_nil d r)]; rfl))
          obtain ⟨word, more, hwords⟩ := List.exists_cons_of_ne_nil hlast
          rw [words_single hc (by simpa using hd), collapsed_blank hd, ← trimStart_blank hd, ← ih', hwords,
            List.intercalate_cons_cons]
          rfl
        | false =>
          obtain ⟨word, more, hwords, hjoined⟩ := words_letter (r := r) hc hd
          rw [hjoined, ← trimStart_letter (r := r) hd, ← ih', hwords]
          cases more with
          | nil => simp
          | cons next more => rw [List.intercalate_cons_cons, List.intercalate_cons_cons]; rfl

example : [' '].intercalate (words "a \n\tb".toList) = "a b".toList := by decide

end UiSkeleton.Text
