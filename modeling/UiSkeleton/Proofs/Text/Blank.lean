/-
Trimming and words: trimming keeps nothing that was not there, a text that ends in no blank keeps it
before what is trimmed, and no word holds a blank.
-/
import UiSkeleton.Proofs.Text.Lines

namespace UiSkeleton.Text

theorem mem_of_mem_trimEnd {c : Char} {cs : List Char} (h : c ∈ trimEnd cs) : c ∈ cs := by
  rw [trimEnd, List.mem_reverse] at h
  exact List.mem_reverse.1 ((List.dropWhile_sublist _).subset h)

theorem mem_of_mem_trim {c : Char} {cs : List Char} (h : c ∈ trim cs) : c ∈ cs :=
  (List.dropWhile_sublist _).subset (mem_of_mem_trimEnd h)

theorem isBlank_or_mem_trim {c : Char} {cs : List Char} (h : c ∈ cs) : isBlank c = true ∨ c ∈ trim cs := by
  have hdrop : ∀ {ds : List Char}, c ∈ ds → isBlank c = true ∨ c ∈ ds.dropWhile isBlank := fun {ds} hds => by
    rw [← List.takeWhile_append_dropWhile (p := isBlank) (l := ds), List.mem_append] at hds
    exact hds.imp_left fun htake => List.all_eq_true.1 (List.all_takeWhile ..) c htake
  rcases hdrop h with hblank | hmem
  · exact .inl hblank
  · rcases hdrop (List.mem_reverse.2 hmem) with hblank | hmem
    · exact .inl hblank
    · exact .inr (List.mem_reverse.2 hmem)

theorem trimEnd_prefix (cs : List Char) : trimEnd cs <+: cs := by
  rw [trimEnd, ← List.reverse_suffix, List.reverse_reverse]
  exact List.dropWhile_suffix _

theorem trimStart_letter {c : Char} {r : List Char} (hc : isBlank c = false) : trimStart (c :: r) = c :: r :=
  List.dropWhile_cons_of_neg (by simp [hc])

theorem trimStart_blank {c : Char} {r : List Char} (hc : isBlank c = true) :
    trimStart (c :: r) = trimStart r :=
  List.dropWhile_cons_of_pos hc

theorem not_blank_getLast?_trimEnd (cs : List Char) : ∀ c ∈ (trimEnd cs).getLast?, isBlank c = false := by
  intro c hc
  rw [trimEnd, List.getLast?_reverse] at hc
  have hstop := List.head?_dropWhile_not isBlank cs.reverse
  rw [Option.mem_def.1 hc] at hstop
  simpa using hstop

/-- Trimming stops at a character that is no blank. -/
theorem trimEnd_append {a : List Char} {c : Char} (hc : isBlank c = false) (b : List Char) :
    trimEnd (a ++ [c] ++ b) = a ++ [c] ++ trimEnd b := by
  rw [trimEnd, trimEnd, List.reverse_append, List.dropWhile_append]
  split
  · rename_i hb
    simp [List.isEmpty_iff.1 hb, hc]
  · simp

theorem dropWhile_eq_self {cs : List Char} (h : ∀ c ∈ cs, isBlank c = false) : cs.dropWhile isBlank = cs := by
  cases cs with
  | nil => rfl
  | cons c cs => exact List.dropWhile_cons_of_neg (by simp [h c List.mem_cons_self])

theorem trim_eq_self {cs : List Char} (h : ∀ c ∈ cs, isBlank c = false) : trim cs = cs := by
  rw [trim, trimStart, dropWhile_eq_self h, trimEnd,
    dropWhile_eq_self fun c hc => h c (List.mem_reverse.1 hc), List.reverse_reverse]

theorem trim_append_blanks {front cs back : List Char} (hfront : ∀ c ∈ front, isBlank c = true)
    (hcs : ∀ c ∈ cs, isBlank c = false) (hback : ∀ c ∈ back, isBlank c = true) :
    trim (front ++ (cs ++ back)) = cs := by
  have hend : trimEnd (cs ++ back) = cs := by
    rw [trimEnd, List.reverse_append,
      List.dropWhile_append_of_pos fun c hc => hback c (List.mem_reverse.1 hc),
      dropWhile_eq_self fun c hc => hcs c (List.mem_reverse.1 hc), List.reverse_reverse]
  rw [trim, trimStart, List.dropWhile_append_of_pos hfront]
  cases cs with
  | nil =>
    rw [List.nil_append, ← List.append_nil back, List.dropWhile_append_of_pos hback]
    rfl
  | cons c cs =>
    rw [List.cons_append, List.dropWhile_cons_of_neg (by simp [hcs c List.mem_cons_self]),
      ← List.cons_append, hend]

theorem not_blank_of_mem_words {cs word : List Char} (h : word ∈ words cs) : ∀ c ∈ word, isBlank c = false :=
  not_of_mem_cutWhere (List.mem_filter.1 h).1

end UiSkeleton.Text
