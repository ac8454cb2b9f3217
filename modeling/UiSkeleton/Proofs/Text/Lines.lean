/-
Lines of a text, cut at line feeds alone. `List.splitOn` says what they are, and texts that are
joined by line feeds have the lines of their parts. `cutWhere` and `lines` are brought to it: a line
of either holds no line feed, and only the empty text has no line.
-/
import UiSkeleton.Text.Blank

namespace UiSkeleton.Text

theorem cutWhere_eq_splitOnP (p : Char → Bool) (cs : List Char) : cutWhere p cs = cs.splitOnP p := by
  induction cs with
  | nil => simp [cutWhere]
  | cons c r ih =>
    rw [cutWhere, List.splitOnP_cons_eq_if_modifyHead, ih]
    split
    · rfl
    · split
      · rename_i h
        exact absurd h (List.splitOnP_ne_nil _ _)
      · rename_i h
        simp [h]

theorem intercalate_cutWhere (c : Char) (cs : List Char) : [c].intercalate (cutWhere (· == c) cs) = cs := by
  rw [cutWhere_eq_splitOnP, ← List.splitOn_eq_splitOnP, List.intercalate_splitOn]

theorem not_mem_of_mem_splitOn {c : Char} {cs line : List Char} (h : line ∈ cs.splitOn c) : c ∉ line := by
  rw [List.splitOn_eq_splitOnP, ← cutWhere_eq_splitOnP] at h
  intro hc
  simpa using not_of_mem_cutWhere h c hc

theorem splitOn_intercalate_eq_flatMap {c : Char} : ∀ {parts : List (List Char)}, parts ≠ [] →
    ([c].intercalate parts).splitOn c = parts.flatMap (·.splitOn c)
  | [part], _ => by simp
  | part :: next :: parts, _ => by
    have hnext : next :: parts ≠ [] := by simp
    have ih := splitOn_intercalate_eq_flatMap (c := c) hnext
    rw [List.intercalate_cons_cons, List.append_assoc, List.singleton_append,
      List.splitOn_append_cons_self, ih]
    simp

/-- Texts between empty lines have the lines of each, with an empty line between them. -/
theorem splitOn_intercalate_newlines : ∀ {parts : List (List Char)}, parts ≠ [] →
    ("\n\n".toList.intercalate parts).splitOn '\n' = [[]].intercalate (parts.map (·.splitOn '\n'))
  | [part], _ => by simp
  | part :: next :: parts, _ => by
    have ih := splitOn_intercalate_newlines (List.cons_ne_nil next parts)
    rw [List.intercalate_cons_cons, List.map_cons, List.map_cons, List.intercalate_cons_cons,
      ← List.map_cons, ← ih,
      show "\n\n".toList = ['\n', '\n'] from rfl, List.append_assoc, List.cons_append, List.cons_append,
      List.nil_append, List.splitOn_append_cons_self]
    simp [List.splitOn_cons_eq_if_modifyHead]

theorem splitOn_append_of_not_mem {c : Char} {b : List Char} (h : c ∉ b) (a : List Char) :
    ∃ init last, a.splitOn c = init ++ [last] ∧ (a ++ b).splitOn c = init ++ [last ++ b] := by
  induction a with
  | nil => exact ⟨[], [], by simp, by simpa using List.splitOn_eq_singleton h⟩
  | cons d a ih =>
    obtain ⟨init, last, ha, hab⟩ := ih
    rw [List.cons_append, List.splitOn_cons_eq_if_modifyHead, List.splitOn_cons_eq_if_modifyHead, ha, hab]
    split
    · exact ⟨[] :: init, last, rfl, rfl⟩
    · cases init with
      | nil => exact ⟨[], d :: last, rfl, rfl⟩
      | cons first init => exact ⟨(d :: first) :: init, last, rfl, rfl⟩

theorem splitOn_append_of_splitOn {c : Char} {a b last : List Char}
    {init : List (List Char)} (ha : a.splitOn c = init ++ [last])
    (hb : c ∉ b) : (a ++ b).splitOn c = init ++ [last ++ b] := by
  obtain ⟨init', last', ha', hab⟩ := splitOn_append_of_not_mem hb a
  obtain ⟨rfl, hlast⟩ := List.append_inj' (ha'.symm.trans ha) rfl
  obtain rfl := List.singleton_inj.1 hlast
  exact hab

/-- What stands in joined parts stands in the separator or in a part. -/
theorem mem_intercalate {c : Char} {sep : List Char} :
    ∀ {parts : List (List Char)}, c ∈ sep.intercalate parts →
    c ∈ sep ∨ ∃ part ∈ parts, c ∈ part
  | [], h => by simp at h
  | [part], h => .inr ⟨part, by simp, by simpa using h⟩
  | part :: next :: parts, h => by
    rw [List.intercalate_cons_cons, List.mem_append, List.mem_append] at h
    rcases h with (h | h) | h
    · exact .inr ⟨part, by simp, h⟩
    · exact .inl h
    · rcases mem_intercalate h with h | ⟨p, hp, h⟩
      · exact .inl h
      · exact .inr ⟨p, by simp [hp], h⟩

theorem infix_intercalate (sep : List Char) {part : List Char} : ∀ {parts : List (List Char)}, part ∈ parts →
    part <:+: sep.intercalate parts
  | [only], h => by
    obtain rfl := List.mem_singleton.1 h
    simp
  | first :: next :: parts, h => by
    rw [List.intercalate_cons_cons]
    rcases List.mem_cons.1 h with rfl | h
    · exact ⟨[], sep ++ sep.intercalate (next :: parts), by simp⟩
    · exact (infix_intercalate sep h).trans (List.suffix_append _ _).isInfix

theorem intercalate_concat {sep last : List Char} : ∀ {parts : List (List Char)}, parts ≠ [] →
    sep.intercalate (parts ++ [last]) = sep.intercalate parts ++ sep ++ last
  | [part], _ => by simp
  | part :: next :: parts, _ => by
    have hnext : next :: parts ≠ [] := by simp
    have ih : sep.intercalate (next :: parts ++ [last]) = _ := intercalate_concat hnext
    rw [List.cons_append, List.cons_append, List.intercalate_cons_cons, ← List.cons_append, ih,
      List.intercalate_cons_cons]
    simp

theorem mem_of_mem_dropReturn {c : Char} {line : List Char} (h : c ∈ dropReturn line) : c ∈ line := by
  rw [dropReturn] at h
  split at h
  · exact List.dropLast_subset _ h
  · exact h

theorem newline_not_mem_lines {cs line : List Char} (h : line ∈ lines cs) : '\n' ∉ line := by
  have piece : ∀ {l}, l ∈ cutWhere (· == '\n') cs → '\n' ∉ l := fun hl hn => by
    simpa using not_of_mem_cutWhere hl _ hn
  simp only [lines, List.mem_append, List.mem_map] at h
  rcases h with ⟨l, hl, rfl⟩ | h
  · exact fun hn => piece (List.dropLast_subset _ hl) (mem_of_mem_dropReturn hn)
  · split at h
    · simp at h
    · rw [List.mem_singleton.1 h, List.getLastD_eq_getLast?,
        List.getLast?_eq_some_getLast (cutWhere_ne_nil _ _)]
      exact piece (List.getLast_mem _)

theorem lines_ne_nil {cs : List Char} (h : cs ≠ []) : lines cs ≠ [] := by
  intro hl
  simp only [lines, List.append_eq_nil_iff, List.map_eq_nil_iff] at hl
  obtain ⟨hinit, hlast⟩ := hl
  have hpieces := List.dropLast_concat_getLast (cutWhere_ne_nil (· == '\n') cs)
  rw [hinit, List.nil_append] at hpieces
  have hempty : (cutWhere (· == '\n') cs).getLast (cutWhere_ne_nil _ _) = [] := by
    rw [← hpieces] at hlast
    simpa using hlast
  rw [hempty] at hpieces
  have hcs := intercalate_cutWhere '\n' cs
  rw [← hpieces] at hcs
  exact h (by simpa using hcs.symm)

end UiSkeleton.Text
