/-
What a title and the name of a type say of a name, and what they pass over. Both are made of the
same words, and a title spells its words so that they are read from it again; hence the name of the
type is the title without its blanks, and a title is its own title. The words do not see which
separators stand between them, how many there are, or whether some stand at the ends.
-/
import Mathlib.Logic.Relation
import UiSkeleton.Proofs.ExampleName

namespace UiSkeleton.Naming

/-! ## Words -/

/-- A plain text that is one word. -/
structure IsWord (w : List Char) : Prop where
  nonempty : w ≠ []
  plain : ∀ c ∈ w, Text.isPlain c = true
  apart : ∀ c ∈ w, isSeparator c = false

theorem isPlain_of_isSeparator {c : Char} (h : isSeparator c = true) : Text.isPlain c = true := by
  simp only [isSeparator, Bool.or_eq_true, beq_iff_eq] at h
  rcases h with (rfl | rfl) | rfl <;> decide

theorem isWord_of_mem_words {cs w : List Char} (hcs : ∀ c ∈ cs, Text.isPlain c = true)
    (h : w ∈ words cs) : IsWord w where
  nonempty := by simpa using (List.mem_filter.1 h).2
  plain := fun c hc => hcs c (mem_of_mem_pieces (List.mem_filter.1 h).1 hc)
  apart := by
    rw [words, pieces_eq_cutWhere (by simp) hcs] at h
    exact Text.not_of_mem_cutWhere (List.mem_filter.1 h).1

theorem IsWord.words {w : List Char} (h : IsWord w) : words w = [w] := by
  rw [words_eq h.plain, List.splitOnP_eq_singleton h.apart]
  simp [h.nonempty]

/-- A separator between two plain texts leaves them their `words`. -/
theorem words_append_cons {a b : List Char} {c : Char} (ha : ∀ d ∈ a, Text.isPlain d = true)
    (hb : ∀ d ∈ b, Text.isPlain d = true) (hc : isSeparator c = true) :
    words (a ++ c :: b) = words a ++ words b := by
  have hplain : ∀ d ∈ a ++ c :: b, Text.isPlain d = true :=
    List.forall_mem_append.2 ⟨ha, List.forall_mem_cons.2 ⟨isPlain_of_isSeparator hc, hb⟩⟩
  rw [words_eq hplain, words_eq ha, words_eq hb, List.splitOnP_append_cons a b hc, List.filter_append]

theorem isPlain_of_mem_intercalate {parts : List (List Char)} (h : ∀ w ∈ parts, IsWord w) {c : Char}
    (hc : c ∈ [' '].intercalate parts) : Text.isPlain c = true := by
  rcases Text.mem_intercalate hc with hc | ⟨w, hw, hc⟩
  · rw [List.mem_singleton.1 hc]
    decide
  · exact (h w hw).plain c hc

/-- The `words` of joined words are these words. -/
theorem words_intercalate : ∀ {parts : List (List Char)}, (∀ w ∈ parts, IsWord w) →
    words ([' '].intercalate parts) = parts
  | [], _ => rfl
  | [w], h => by
    rw [List.intercalate_singleton]
    exact (h w List.mem_cons_self).words
  | w :: next :: parts, h => by
    have hrest : ∀ v ∈ next :: parts, IsWord v := fun v hv => h v (List.mem_cons_of_mem _ hv)
    have hw := h w List.mem_cons_self
    rw [List.intercalate_cons_cons, List.append_assoc, List.singleton_append,
      words_append_cons hw.plain (fun c hc => isPlain_of_mem_intercalate hrest hc) rfl, hw.words,
        words_intercalate hrest]
    rfl

/-! ## Capitalized words -/

theorem isSeparator_case {c : Char} (h : Text.isPlain c = true) (hsep : isSeparator c = false) :
    isSeparator c.toUpper = false ∧ isSeparator c.toLower = false := by
  have hcase : ∀ d : Char, Text.isPlain d = true →
      (isSeparator d || !isSeparator d.toUpper && !isSeparator d.toLower) = true :=
    Text.forall_plain (by decide +kernel)
  simpa [hsep] using hcase c h

theorem IsWord.capitalized {w : List Char} (h : IsWord w) : IsWord (capitalized w) where
  nonempty := by
    obtain ⟨c, r, rfl⟩ := List.exists_cons_of_ne_nil h.nonempty
    rw [capitalized_cons h.plain]
    exact List.cons_ne_nil _ _
  plain := by
    intro c hc
    obtain ⟨d, hd, rfl | rfl⟩ := mem_capitalized h.plain hc
    · exact (Text.isPlain_case (h.plain d hd)).1
    · exact (Text.isPlain_case (h.plain d hd)).2.1
  apart := by
    intro c hc
    obtain ⟨d, hd, rfl | rfl⟩ := mem_capitalized h.plain hc
    · exact (isSeparator_case (h.plain d hd) (h.apart d hd)).1
    · exact (isSeparator_case (h.plain d hd) (h.apart d hd)).2

theorem IsWord.capitalized_again {w : List Char} (h : IsWord w) :
    Naming.capitalized (Naming.capitalized w) = Naming.capitalized w := by
  obtain ⟨c, r, rfl⟩ := List.exists_cons_of_ne_nil h.nonempty
  have hplain := h.capitalized.plain
  rw [capitalized_cons h.plain] at hplain ⊢
  obtain ⟨hc, hr⟩ := List.forall_mem_cons.1 h.plain
  rw [capitalized_cons hplain, (Text.isPlain_case hc).2.2.1, List.map_map]
  congr 1
  exact List.map_congr_left fun d hd => (Text.isPlain_case (hr d hd)).2.2.2

/-! ## Titles -/

section title

variable {name : String} (hname : ∀ c ∈ name.toList, Text.isPlain c = true)
include hname

theorem isWord_of_mem_capitalized {w : List Char} (h : w ∈ (words name.toList).map capitalized) :
    IsWord w := by
  obtain ⟨v, hv, rfl⟩ := List.mem_map.1 h
  exact (isWord_of_mem_words hname hv).capitalized

theorem isPlain_displayTitle : ∀ c ∈ (displayTitle name).toList, Text.isPlain c = true := by
  rw [displayTitle, String.toList_ofList]
  exact fun c hc => isPlain_of_mem_intercalate (fun w => isWord_of_mem_capitalized hname) hc

/-- The `words` of a title are those of the name, each `capitalized`. -/
theorem words_displayTitle : words (displayTitle name).toList = (words name.toList).map capitalized := by
  rw [displayTitle, String.toList_ofList, words_intercalate fun w => isWord_of_mem_capitalized hname]

theorem map_capitalized_displayTitle :
    (words (displayTitle name).toList).map capitalized = (words name.toList).map capitalized := by
  rw [words_displayTitle hname, List.map_map]
  exact List.map_congr_left fun w hw => (isWord_of_mem_words hname hw).capitalized_again

theorem displayTitle_again : displayTitle (displayTitle name) = displayTitle name := by
  rw [displayTitle, map_capitalized_displayTitle hname, displayTitle]

theorem typeIdentifier_displayTitle : typeIdentifier (displayTitle name) = typeIdentifier name := by
  rw [typeIdentifier, List.flatMap_def, map_capitalized_displayTitle hname, ← List.flatMap_def,
    typeIdentifier]

/-- `typeIdentifier` is `displayTitle` without its blanks. -/
theorem typeIdentifier_eq_filter :
    (typeIdentifier name).toList = (displayTitle name).toList.filter (· != ' ') := by
  have hseparators : (displayTitle name).toList.filter (fun c => !isSeparator c) =
      (typeIdentifier name).toList := by
    rw [← flatten_words (isPlain_displayTitle hname), words_displayTitle hname, typeIdentifier,
      String.toList_ofList, List.flatMap_def]
  rw [← hseparators]
  refine List.filter_congr fun c hc => ?_
  -- the only separators of a title are its blanks
  rw [displayTitle, String.toList_ofList] at hc
  rcases Text.mem_intercalate hc with hc | ⟨w, hw, hc⟩
  · rw [List.mem_singleton.1 hc]
    rfl
  · have hapart := (isWord_of_mem_capitalized hname hw).apart c hc
    have hblank : c ≠ ' ' := by
      rintro rfl
      cases hapart
    simp [hapart, hblank]

end title

/-! ## Blanks of titles -/

/-- No blank at either end, and no two in a row. -/
structure SinglySpaced (cs : List Char) : Prop where
  head : cs.head? ≠ some ' '
  last : cs.getLast? ≠ some ' '
  apart : ¬ [' ', ' '] <:+: cs

theorem singlySpaced_of_splitOn {cs : List Char} (h : [] ∉ cs.splitOn ' ') : SinglySpaced cs where
  head := by
    intro hhead
    obtain ⟨r, rfl⟩ := List.head?_eq_some_iff.1 hhead
    exact h (by simp [List.splitOn_cons_eq_if_modifyHead])
  last := by
    intro hlast
    obtain ⟨r, rfl⟩ := List.getLast?_eq_some_iff.1 hlast
    rw [List.splitOn_append_cons_self] at h
    exact h (List.mem_append_right _ (by simp))
  apart := by
    rintro ⟨a, b, rfl⟩
    rw [List.append_assoc, List.cons_append, List.splitOn_append_cons_self] at h
    exact h (List.mem_append_right _ (by simp [List.splitOn_cons_eq_if_modifyHead]))

theorem singlySpaced_displayTitle {name : String} (hname : ∀ c ∈ name.toList, Text.isPlain c = true) :
    SinglySpaced (displayTitle name).toList := by
  have hword : ∀ w ∈ (words name.toList).map capitalized, IsWord w := fun w => isWord_of_mem_capitalized hname
  rw [displayTitle, String.toList_ofList]
  by_cases hnone : (words name.toList).map capitalized = []
  · rw [hnone]
    exact ⟨by simp, by simp, by simp⟩
  · refine singlySpaced_of_splitOn ?_
    rw [List.splitOn_intercalate ' ' (fun w hw hblank => ?_) hnone]
    · exact fun hnil => (hword [] hnil).nonempty rfl
    · have hapart := (hword w hw).apart ' ' hblank
      cases hapart

/-! ## Separators -/

/-- A text with one hyphen in the place of an underscore, or with one separator more, next to
another one or at an end. -/
inductive Respelled : List Char → List Char → Prop
  | hyphen {a b} : Respelled (a ++ '_' :: b) (a ++ '-' :: b)
  | before {a b s c} : isSeparator s = true → isSeparator c = true →
      Respelled (a ++ c :: b) (a ++ s :: c :: b)
  | behind {a b s c} : isSeparator s = true → isSeparator c = true →
      Respelled (a ++ c :: b) (a ++ c :: s :: b)
  | front {cs s} : isSeparator s = true → Respelled cs (s :: cs)
  | back {cs s} : isSeparator s = true → Respelled cs (cs ++ [s])

/-- Texts that are `Respelled` have the same `words`. -/
theorem Respelled.words_eq {cs ds : List Char} (h : Respelled cs ds) (hcs : ∀ c ∈ cs, Text.isPlain c = true) :
    (∀ c ∈ ds, Text.isPlain c = true) ∧ words ds = words cs := by
  have hfront : ∀ {s : Char} {b : List Char}, isSeparator s = true → (∀ c ∈ b, Text.isPlain c = true) →
      words (s :: b) = words b := fun {s b} hs hb => words_append_cons (by simp) hb hs (a := [])
  cases h with
  | @hyphen a b =>
    obtain ⟨ha, hb⟩ := List.forall_mem_append.1 hcs
    have hb' := (List.forall_mem_cons.1 hb).2
    refine ⟨List.forall_mem_append.2 ⟨ha, List.forall_mem_cons.2 ⟨rfl, hb'⟩⟩, ?_⟩
    rw [words_append_cons ha hb' rfl, words_append_cons ha hb' rfl]
  | @before a b s c hs hc =>
    obtain ⟨ha, hb⟩ := List.forall_mem_append.1 hcs
    have hb' := (List.forall_mem_cons.1 hb).2
    refine ⟨List.forall_mem_append.2 ⟨ha, List.forall_mem_cons.2 ⟨isPlain_of_isSeparator hs, hb⟩⟩, ?_⟩
    rw [words_append_cons ha hb hs, hfront hc hb', words_append_cons ha hb' hc]
  | @behind a b s c hs hc =>
    obtain ⟨ha, hb⟩ := List.forall_mem_append.1 hcs
    obtain ⟨hcplain, hb'⟩ := List.forall_mem_cons.1 hb
    have hsb : ∀ d ∈ s :: b, Text.isPlain d = true := List.forall_mem_cons.2 ⟨isPlain_of_isSeparator hs, hb'⟩
    refine ⟨List.forall_mem_append.2 ⟨ha, List.forall_mem_cons.2 ⟨hcplain, hsb⟩⟩, ?_⟩
    rw [words_append_cons ha hsb hc, hfront hs hb', words_append_cons ha hb' hc]
  | front hs =>
    exact ⟨List.forall_mem_cons.2 ⟨isPlain_of_isSeparator hs, hcs⟩, hfront hs hcs⟩
  | back hs =>
    refine ⟨List.forall_mem_append.2 ⟨hcs, by simpa using isPlain_of_isSeparator hs⟩, ?_⟩
    rw [words_append_cons hcs (by simp) hs]
    exact List.append_nil _

theorem words_of_respelled {cs ds : List Char} (h : Relation.ReflTransGen Respelled cs ds)
    (hcs : ∀ c ∈ cs, Text.isPlain c = true) : (∀ c ∈ ds, Text.isPlain c = true) ∧ words ds = words cs := by
  induction h with
  | refl => exact ⟨hcs, rfl⟩
  | tail _ hstep ih =>
    obtain ⟨hplain, hwords⟩ := ih
    obtain ⟨hplain', hwords'⟩ := hstep.words_eq hplain
    exact ⟨hplain', hwords'.trans hwords⟩

/-! ## Names -/

/-- The title and the name of the type agree on a name, and neither depends on how its separators
are spelled. -/
structure Agree (name : String) : Prop where
  type_eq : (typeIdentifier name).toList = (displayTitle name).toList.filter (· != ' ')
  spaced : SinglySpaced (displayTitle name).toList
  title_again : displayTitle (displayTitle name) = displayTitle name
  type_of_title : typeIdentifier (displayTitle name) = typeIdentifier name
  respelled : ∀ other : String, Relation.ReflTransGen Respelled name.toList other.toList →
    displayTitle other = displayTitle name ∧ typeIdentifier other = typeIdentifier name

theorem agree_of_isPlain {name : String} (h : ∀ c ∈ name.toList, Text.isPlain c = true) : Agree name where
  type_eq := typeIdentifier_eq_filter h
  spaced := singlySpaced_displayTitle h
  title_again := displayTitle_again h
  type_of_title := typeIdentifier_displayTitle h
  respelled := fun other hother => by
    have hwords := (words_of_respelled hother h).2
    exact ⟨by rw [displayTitle, hwords, displayTitle], by rw [typeIdentifier, hwords, typeIdentifier]⟩

theorem isPlain_of_read {raw : String} {name : ExampleName} (h : ExampleName.read raw = .ok name) :
    ∀ c ∈ raw.toList, Text.isPlain c = true := by
  have hextension : sourceExtension.toList.all Text.isPlain = true := by decide
  have htrim : ∀ c ∈ Text.trim raw.toList, Text.isPlain c = true := by
    rw [ExampleName.read_eq_ok_iff, ExampleName.dropEnding_eq_iff name.not_suffix_text] at h
    rcases h with h | h <;> rw [h]
    · exact isPlain_name name
    · exact List.forall_mem_append.2 ⟨isPlain_name name, List.all_eq_true.1 hextension⟩
  intro c hc
  rcases Text.isBlank_or_mem_trim hc with hblank | hc
  · simp [Text.isPlain, hblank]
  · exact htrim c hc

/-- **`displayTitle` and `typeIdentifier` `Agree`**, on every text that `ExampleName.read` accepts
and on the name that it gives. -/
theorem agree_of_read {raw : String} {name : ExampleName} (h : ExampleName.read raw = .ok name) :
    Agree raw ∧ Agree name.text :=
  ⟨agree_of_isPlain (isPlain_of_read h), agree_of_isPlain (isPlain_name name)⟩

/-- A name between blanks with its extension, and the name with its separators spelled in another
way. -/
theorem agree_of_read_hello_world : ∃ name, ExampleName.read "\u3000hello_World-3d.rs\n" = .ok name ∧
    name.text = "hello_World-3d" ∧
    Relation.ReflTransGen Respelled "hello_World-3d".toList "-hello-World-_3d".toList ∧
    displayTitle "-hello-World-_3d" = displayTitle "hello_World-3d" ∧
    (typeIdentifier "hello_World-3d").toList = (displayTitle "hello_World-3d").toList.filter (· != ' ') := by
  obtain ⟨name, h, hname⟩ : ∃ name, ExampleName.read "\u3000hello_World-3d.rs\n" = .ok name ∧
      name.text = "hello_World-3d" :=
    ⟨_, rfl, rfl⟩
  have hhyphen : Respelled "hello_World-3d".toList "hello-World-3d".toList :=
    .hyphen (a := "hello".toList) (b := "World-3d".toList)
  have hfront : Respelled "hello-World-3d".toList "-hello-World-3d".toList := .front rfl
  have hbehind : Respelled "-hello-World-3d".toList "-hello-World-_3d".toList :=
    .behind (a := "-hello-World".toList) (b := "3d".toList) rfl rfl
  have hsteps := ((Relation.ReflTransGen.single hhyphen).tail hfront).tail hbehind
  have hagree := (agree_of_read h).2
  rw [hname] at hagree
  exact ⟨name, h, hname, hsteps, (hagree.respelled _ hsteps).1, hagree.type_eq⟩

example : displayTitle "-hello-World-_3d" = "Hello World 3d" ∧ typeIdentifier
    "-hello-World-_3d" = "HelloWorld3d" := by
  decide +kernel

end UiSkeleton.Naming
