/-
Titles of examples and names of their types. The characters of an example's name are plain, so their
case is simple and every separator separates. So the title of an example consists of the characters
of names and of the blanks between its words, and the name of its type of letters and digits.
-/
import UiSkeleton.ExampleName
import UiSkeleton.Naming
import UiSkeleton.Proofs.Text.Ascii
import UiSkeleton.Proofs.Text.Lines

namespace UiSkeleton

theorem isNameChar_toNat {c : Char} (h : isNameChar c = true) : c.toNat < 0x80 := by
  simp only [isNameChar, Bool.or_eq_true, beq_iff_eq] at h
  rcases h with (h | rfl) | rfl
  · exact Text.isAlphanum_toNat h
  · decide
  · decide

theorem isPlain_of_isNameChar {c : Char} (h : isNameChar c = true) : Text.isPlain c = true := by
  simp [Text.isPlain, isNameChar_toNat h]

theorem isNameChar_case {c : Char} (h : isNameChar c = true) :
    isNameChar c.toUpper = true ∧ isNameChar c.toLower = true := by
  have hcase : ∀ d : Char, d.toNat < 0x80 →
      (!isNameChar d || isNameChar d.toUpper && isNameChar d.toLower) = true :=
    Text.forall_ascii (by decide)
  simpa [h] using hcase c (isNameChar_toNat h)

theorem isBlank_of_isNameChar {c : Char} (h : isNameChar c = true) : Text.isBlank c = false := by
  have hblank : ∀ d : Char, d.toNat < 0x80 → (!isNameChar d || !Text.isBlank d) = true :=
    Text.forall_ascii (by decide)
  simpa [h] using hblank c (isNameChar_toNat h)

namespace Naming

theorem mem_of_mem_pieces {before : Option Char} {cs piece : List Char} {c : Char}
    (h : piece ∈ pieces before cs)
    (hc : c ∈ piece) : c ∈ cs := by
  induction cs generalizing before piece with
  | nil => simp_all [pieces]
  | cons d r ih =>
    rw [pieces] at h
    split at h
    · rcases List.mem_cons.1 h with rfl | h
      · simp at hc
      · exact List.mem_cons_of_mem _ (ih h hc)
    · split at h
      · rw [List.mem_singleton.1 h] at hc
        rw [List.mem_singleton.1 hc]
        exact List.mem_cons_self
      · rename_i first more hlater
        rcases List.mem_cons.1 h with rfl | h
        · rcases List.mem_cons.1 hc with rfl | hc
          · exact List.mem_cons_self
          · exact List.mem_cons_of_mem _ (ih (hlater ▸ List.mem_cons_self) hc)
        · exact List.mem_cons_of_mem _ (ih (hlater ▸ List.mem_cons_of_mem _ h) hc)

theorem capitalized_cons {c : Char} {r : List Char} (h : ∀ d ∈ c :: r, Text.isPlain d = true) :
    capitalized (c :: r) = c.toUpper :: r.map Char.toLower := by
  rw [capitalized, (Text.forms_of_isPlain (h c List.mem_cons_self)).1, Text.lower,
    Text.lowerAfter_plain fun d hd => h d (List.mem_cons_of_mem _ hd)]
  rfl

theorem mem_capitalized {word : List Char} (h : ∀ d ∈ word, Text.isPlain d = true) {c : Char}
    (hc : c ∈ capitalized word) : ∃ d ∈ word, c = d.toUpper ∨ c = d.toLower := by
  cases word with
  | nil => cases hc
  | cons first r =>
    rw [capitalized_cons h] at hc
    rcases List.mem_cons.1 hc with rfl | hc
    · exact ⟨first, List.mem_cons_self, .inl rfl⟩
    · obtain ⟨d, hd, rfl⟩ := List.mem_map.1 hc
      exact ⟨d, List.mem_cons_of_mem _ hd, .inr rfl⟩

theorem isNameChar_of_mem_capitalized {word : List Char} (h : ∀ c ∈ word, isNameChar c = true) :
    ∀ c ∈ capitalized word, isNameChar c = true := by
  intro c hc
  obtain ⟨d, hd, rfl | rfl⟩ := mem_capitalized (fun d hd => isPlain_of_isNameChar (h d hd)) hc
  · exact (isNameChar_case (h d hd)).1
  · exact (isNameChar_case (h d hd)).2

/-- A title has characters of names and blanks alone. -/
theorem mem_displayTitle {name : ExampleName} {c : Char} (h : c ∈ (displayTitle name.text).toList) :
    isNameChar c = true ∨ c = ' ' := by
  rw [displayTitle, String.toList_ofList] at h
  rcases Text.mem_intercalate h with h | ⟨part, hpart, hc⟩
  · exact .inr (List.mem_singleton.1 h)
  · obtain ⟨word, hword, rfl⟩ := List.mem_map.1 hpart
    have hplain : ∀ d ∈ word, isNameChar d = true := fun d hd =>
      name.plain d (mem_of_mem_pieces (List.mem_filter.1 hword).1 hd)
    exact .inl (isNameChar_of_mem_capitalized hplain c hc)

/-! ## Names of types -/

/-- In a plain text every separator separates, since no character joins it. -/
theorem pieces_eq_cutWhere {before : Option Char} {cs : List Char}
    (hbefore : ∀ c ∈ before, Text.isPlain c = true)
    (hcs : ∀ c ∈ cs, Text.isPlain c = true) : pieces before cs = Text.cutWhere isSeparator cs := by
  induction cs generalizing before with
  | nil => rfl
  | cons c r ih =>
    have hrest : pieces (some c) r = Text.cutWhere isSeparator r :=
      ih (by simpa using hcs c List.mem_cons_self) fun d hd => hcs d (List.mem_cons_of_mem _ hd)
    have hseparates : separates before r = true := by
      have hafter : ∀ d ∈ before, Text.joinsAfter d = false := fun d hd =>
        (Text.not_joins_of_isPlain (hbefore d hd)).2
      have hfront : ∀ d ∈ r.head?, Text.joinsBefore d = false := fun d hd =>
        (Text.not_joins_of_isPlain (hcs d (List.mem_cons_of_mem _ (List.mem_of_head? hd)))).1
      cases before <;> cases r <;> simp_all [separates]
    cases hsep : isSeparator c with
    | true => simp [pieces, Text.cutWhere, hsep, hseparates, hrest]
    | false =>
      obtain ⟨piece, more, hr⟩ := List.exists_cons_of_ne_nil (Text.cutWhere_ne_nil isSeparator r)
      simp [pieces, Text.cutWhere, hsep, hrest, hr]

/-- The `words` of a plain text are what is left between its separators. -/
theorem words_eq {cs : List Char} (hcs : ∀ c ∈ cs, Text.isPlain c = true) :
    words cs = (cs.splitOnP isSeparator).filter fun w => !w.isEmpty := by
  rw [words, pieces_eq_cutWhere (by simp) hcs, Text.cutWhere_eq_splitOnP]

theorem flatten_splitOnP (p : Char → Bool) (cs : List Char) :
    (cs.splitOnP p).flatten = cs.filter fun c => !p c := by
  induction cs with
  | nil => rfl
  | cons c r ih =>
    rw [List.splitOnP_cons_eq_if_modifyHead, List.filter_cons, ← ih]
    cases p c with
    | true => rfl
    | false =>
      obtain ⟨piece, more, hr⟩ := List.exists_cons_of_ne_nil (List.splitOnP_ne_nil p r)
      simp [hr]

theorem flatten_words {cs : List Char} (hcs : ∀ c ∈ cs, Text.isPlain c = true) :
    (words cs).flatten = cs.filter fun c => !isSeparator c := by
  rw [words_eq hcs, List.flatten_filter_not_isEmpty, flatten_splitOnP]

variable (name : ExampleName)

theorem isPlain_name : ∀ c ∈ name.text.toList, Text.isPlain c = true :=
    fun c hc => isPlain_of_isNameChar (name.plain c hc)

theorem isAlphanum_of_isNameChar {c : Char} (h : isNameChar c = true) (hsep : isSeparator c = false) :
    c.isAlphanum = true := by
  simp only [isSeparator, Bool.or_eq_false_iff] at hsep
  simpa [isNameChar, hsep] using h

theorem isAlphanum_of_mem_words {word : List Char} (h : word ∈ words name.text.toList) :
    ∀ c ∈ word, c.isAlphanum = true := by
  intro c hc
  have hmem : c ∈ (words name.text.toList).flatten := List.mem_flatten.2 ⟨word, h, hc⟩
  rw [flatten_words (isPlain_name name), List.mem_filter] at hmem
  exact isAlphanum_of_isNameChar (name.plain c hmem.1) (by simpa using hmem.2)

theorem isAlphanum_of_mem_typeIdentifier : ∀ c ∈ (typeIdentifier name.text).toList, c.isAlphanum = true := by
  rw [typeIdentifier, String.toList_ofList]
  intro c hc
  obtain ⟨word, hword, hc⟩ := List.mem_flatMap.1 hc
  have hplain := isAlphanum_of_mem_words name hword
  obtain ⟨d, hd, rfl | rfl⟩ := mem_capitalized
    (fun d hd => isPlain_name name d (mem_of_mem_pieces (List.mem_filter.1 hword).1 hd)) hc
  · exact (Text.isAlphanum_case (hplain d hd)).1
  · exact (Text.isAlphanum_case (hplain d hd)).2.1

/-- `typeIdentifier` starts with the first character of the name that is no separator. -/
theorem head?_typeIdentifier : (typeIdentifier name.text).toList.head? =
    (name.text.toList.find? fun c => !isSeparator c).map Char.toUpper := by
  have hplain : ∀ word ∈ words name.text.toList, ∀ c ∈ word, Text.isPlain c = true := fun word hword c hc =>
    isPlain_name name c (mem_of_mem_pieces (List.mem_filter.1 hword).1 hc)
  have hfilled : ∀ word ∈ words name.text.toList, word ≠ [] := fun word hword => by
    simpa using (List.mem_filter.1 hword).2
  rw [typeIdentifier, String.toList_ofList, ← List.head?_filter, ← flatten_words (isPlain_name name)]
  cases hwords : words name.text.toList with
  | nil => rfl
  | cons word more =>
    rw [hwords] at hplain hfilled
    obtain ⟨c, r, rfl⟩ := List.exists_cons_of_ne_nil (hfilled word List.mem_cons_self)
    rw [List.flatMap_cons, capitalized_cons (hplain _ List.mem_cons_self)]
    rfl

end Naming
end UiSkeleton
