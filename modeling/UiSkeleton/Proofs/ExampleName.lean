/-
Names of examples, and the texts that give them. A text gives a name if it is the name, or the name
with the extension of its source, apart from the blanks around it (`Gives`). Reading leaves the
extension out once, and no name ends in it; so a text gives one name at most, and reading finds this
name or refuses.
-/
import UiSkeleton.Proofs.Naming
import UiSkeleton.Proofs.Text.Blank

namespace UiSkeleton.ExampleName

/-! ## The extension -/

theorem dropEnding_append (cs ending : List Char) : dropEnding ending (cs ++ ending) = cs := by
  have hsuffix : ending.isSuffixOf (cs ++ ending) = true :=
    List.isSuffixOf_iff_suffix.2 (List.suffix_append cs ending)
  rw [dropEnding, if_pos hsuffix, List.length_append, Nat.add_sub_cancel, List.take_left]

theorem dropEnding_of_not_suffix {cs ending : List Char} (h : ¬ ending <:+ cs) :
    dropEnding ending cs = cs := by
  rw [dropEnding, if_neg fun hsuffix => h (List.isSuffixOf_iff_suffix.1 hsuffix)]

theorem dropEnding_eq_iff {cs ending text : List Char} (h : ¬ ending <:+ text) :
    dropEnding ending cs = text ↔ cs = text ∨ cs = text ++ ending := by
  constructor
  · rintro rfl
    by_cases hsuffix : ending <:+ cs
    · obtain ⟨front, rfl⟩ := hsuffix
      exact .inr (by rw [dropEnding_append])
    · exact .inl (dropEnding_of_not_suffix hsuffix).symm
  · rintro (rfl | rfl)
    · exact dropEnding_of_not_suffix h
    · exact dropEnding_append text ending

theorem not_suffix_text (name : ExampleName) : ¬ sourceExtension.toList <:+ name.text.toList := fun h => by
  have hpoint : isNameChar '.' = true := name.plain '.' (h.subset (by decide))
  exact absurd hpoint (by decide)

/-! ## Reading -/

variable {raw : String} {name : ExampleName}

theorem text_inj {a b : ExampleName} (h : a.text = b.text) : a = b := by
  cases a
  cases b
  cases h
  rfl

theorem ofChars?_eq_some_iff {cs : List Char} : ofChars? cs = some name ↔ cs = name.text.toList := by
  constructor
  · intro h
    rw [ofChars?] at h
    split at h
    · cases h
      exact String.toList_ofList.symm
    · cases h
  · rintro rfl
    have hname : (!name.text.toList.isEmpty && name.text.toList.all isNameChar) = true := by
      rw [Bool.and_eq_true, List.all_eq_true]
      exact ⟨by simpa using name.nonempty, name.plain⟩
    rw [ofChars?, dif_pos hname]
    exact congrArg some (text_inj String.ofList_toList)

theorem read_eq_ok_iff : read raw = .ok name ↔
    dropEnding sourceExtension.toList (Text.trim raw.toList) = name.text.toList := by
  rw [← ofChars?_eq_some_iff, read]
  cases ofChars? (dropEnding sourceExtension.toList (Text.trim raw.toList)) <;> simp

/-- What `ExampleName.read` gives is the text without the blanks around it, and then without the
extension. -/
theorem toList_of_read (h : read raw = .ok name) :
    name.text.toList = dropEnding sourceExtension.toList (Text.trim raw.toList) := (read_eq_ok_iff.1 h).symm

theorem text_eq_iff (h : read raw = .ok name) :
    name.text = raw ↔ Text.trim raw.toList = raw.toList ∧ ¬ sourceExtension.toList <:+ raw.toList := by
  constructor
  · rintro rfl
    exact ⟨Text.trim_eq_self fun c hc => isBlank_of_isNameChar (name.plain c hc), name.not_suffix_text⟩
  · rintro ⟨htrim, hsuffix⟩
    have htext := toList_of_read h
    rw [htrim, dropEnding_of_not_suffix hsuffix] at htext
    exact String.toList_inj.1 htext

/-! ## What gives a name -/

/-- The text gives the name. -/
structure Gives (raw n : String) : Prop where
  nonempty : n ≠ ""
  plain : ∀ c ∈ n.toList, c.isAlphanum = true ∨ c = '_' ∨ c = '-'
  spelled : Text.trimmed raw = n ∨ Text.trimmed raw = n ++ ".rs"

theorem isNameChar_iff {c : Char} : isNameChar c = true ↔ c.isAlphanum = true ∨ c = '_' ∨ c = '-' := by
  simp [isNameChar, or_assoc]

theorem trimmed_eq_iff {raw cs : String} : Text.trimmed raw = cs ↔ Text.trim raw.toList = cs.toList := by
  rw [Text.trimmed, ← String.toList_inj, String.toList_ofList]

theorem gives_iff {n : String} : Gives raw n ↔ ∃ name, read raw = .ok name ∧ name.text = n := by
  simp only [read_eq_ok_iff, dropEnding_eq_iff (not_suffix_text _)]
  constructor
  · intro h
    let name : ExampleName := ⟨n, by simpa using h.nonempty, fun c hc => isNameChar_iff.2 (h.plain c hc)⟩
    refine ⟨name, ?_, rfl⟩
    rw [← String.toList_append, ← trimmed_eq_iff, ← trimmed_eq_iff]
    exact h.spelled
  · rintro ⟨name, hspelled, rfl⟩
    rw [← String.toList_append, ← trimmed_eq_iff, ← trimmed_eq_iff] at hspelled
    exact ⟨by simpa using name.nonempty, fun c hc => isNameChar_iff.1 (name.plain c hc), hspelled⟩

theorem read_eq_error_iff : read raw = .error (.ofCause (.invalidName raw)) ↔ ∀ n, ¬ Gives raw n := by
  simp only [gives_iff, not_exists, not_and]
  cases hread : read raw with
  | ok name => simp
  | error failure =>
    have hfailure : failure = .ofCause (.invalidName raw) := by
      rw [read] at hread
      split at hread
      · cases hread
      · exact (Except.error.inj hread).symm
    simp [hfailure]

/-- A name is read again from itself, with or without the extension and blanks around it. -/
theorem read_of_blanks (name : ExampleName) {front ending back : List Char}
    (hfront : ∀ c ∈ front, Text.isBlank c = true)
    (hending : ending = [] ∨ ending = sourceExtension.toList) (hback : ∀ c ∈ back, Text.isBlank c = true) :
    read (String.ofList (front ++ (name.text.toList ++ ending ++ back))) = .ok name := by
  have hname : ∀ c ∈ name.text.toList, Text.isBlank c = false := fun c hc =>
    isBlank_of_isNameChar (name.plain c hc)
  have hextension : ∀ c ∈ sourceExtension.toList, Text.isBlank c = false := by
    have hplain : sourceExtension.toList.all (!Text.isBlank ·) = true := by decide
    simpa using hplain
  have hall : ∀ c ∈ name.text.toList ++ ending, Text.isBlank c = false := by
    rw [List.forall_mem_append]
    rcases hending with rfl | rfl
    · exact ⟨hname, by simp⟩
    · exact ⟨hname, hextension⟩
  rw [read_eq_ok_iff, String.toList_ofList, Text.trim_append_blanks hfront hall hback,
    dropEnding_eq_iff name.not_suffix_text]
  rcases hending with rfl | rfl
  · exact .inl (List.append_nil _)
  · exact .inr rfl

/-- **`ExampleName.read` finds the name that a text `Gives`, and refuses every other text.** No text
gives two names. A name is read again from itself, with or without the extension and blanks around
it, and has no separator of paths, no point and no NUL. -/
theorem read_iff_gives :
    (∀ raw n : String, (∃ name, read raw = .ok name ∧ name.text = n) ↔ Gives raw n) ∧
    (∀ raw : String, read raw = .error (.ofCause (.invalidName raw)) ↔ ∀ n, ¬ Gives raw n) ∧
    (∀ raw n n' : String, Gives raw n → Gives raw n' → n = n') ∧
    ∀ raw name, read raw = .ok name →
      (∀ front ending back : List Char, (∀ c ∈ front, Text.isBlank c = true) →
        (ending = [] ∨ ending = ".rs".toList) →
        (∀ c ∈ back, Text.isBlank c = true) →
        read (String.ofList (front ++ (name.text.toList ++ ending ++ back))) = .ok name) ∧
      ∀ c ∈ ['/', '\\', '.', '\x00'], c ∉ name.text.toList := by
  refine ⟨fun raw n => gives_iff.symm, fun raw => read_eq_error_iff, fun raw n n' h h' => ?_,
    fun raw name _ => ⟨?_, ?_⟩⟩
  · obtain ⟨name, hread, rfl⟩ := gives_iff.1 h
    obtain ⟨name', hread', rfl⟩ := gives_iff.1 h'
    rw [hread] at hread'
    cases hread'
    rfl
  · exact fun front ending back hfront hending hback => read_of_blanks name hfront hending hback
  · have hother : ['/', '\\', '.', '\x00'].all (fun c => !isNameChar c) = true := by decide
    intro c hc hmem
    have hplain := List.all_eq_true.1 hother c hc
    rw [name.plain c hmem] at hplain
    cases hplain

/-- A second extension stays; the extension alone, a blank before it and letters beyond ASCII are
refused. -/
theorem read_iff_gives_blanks :
    Gives "\u00a0\u2003hello-World_1.rs\r\n" "hello-World_1" ∧
      (∃ name, read "\u00a0\u2003hello-World_1.rs\r\n" = .ok name ∧ name.text = "hello-World_1") ∧
      ∀ raw ∈ ["a.rs.rs", ".rs", "a .rs", "é", ""], ∀ n, ¬ Gives raw n := by
  have hchars : "hello-World_1".toList.all isNameChar = true := by decide
  have hgives : Gives "\u00a0\u2003hello-World_1.rs\r\n" "hello-World_1" :=
    ⟨by decide, fun c hc => isNameChar_iff.1 (List.all_eq_true.1 hchars c hc), by decide⟩
  refine ⟨hgives, (read_iff_gives.1 _ _).2 hgives, fun raw hraw => (read_iff_gives.2.1 raw).1 ?_⟩
  simp only [List.mem_cons, List.not_mem_nil, or_false] at hraw
  rcases hraw with rfl | rfl | rfl | rfl | rfl <;> rfl

end UiSkeleton.ExampleName
