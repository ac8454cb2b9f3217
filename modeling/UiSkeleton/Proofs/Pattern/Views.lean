/-
The views of a text that a matcher gives agree. All of them come from two walks over the text, the
search for the first occurrence and the cut into pieces; the first piece found is what the search
finds, and the pieces join up to the text. So nothing is found, and nothing replaced, exactly where
nothing occurs, and an occurrence put back in its place changes nothing, even if it is empty.
-/
import UiSkeleton.Proofs.Pattern.Numbering
import UiSkeleton.Proofs.Pattern.Spelling

namespace UiSkeleton.Matcher

variable {m : Matcher} {text : List Char}

/-! ## Occurring and being found -/

theorem isSome_firstGroups : (m.firstGroups text).isSome = m.occursIn text := by
  rw [firstGroups, Option.isSome_map, occursIn]

theorem length_of_mem_firstGroups {groups : List (List Char)} (h : groups ∈ m.firstGroups text) :
    groups.length = m.groupCount := by
  obtain ⟨o, -, rfl⟩ := Option.map_eq_some_iff.1 h
  rw [List.length_map, List.length_range]

theorem head?_occurrences_pieces : ((m.pieces text).filterMap Piece.occurrence?).head? = m.find? text :=
  Pattern.head?_occurrences

theorem occurrences_eq_nil_iff :
    (m.pieces text).filterMap Piece.occurrence? = [] ↔ m.occursIn text = false := by
  rw [← List.head?_eq_none_iff, head?_occurrences_pieces, occursIn, Option.isSome_eq_false_iff,
    Option.isNone_iff_eq_none]

theorem findAll_eq_nil (h : m.occursIn text = false) : m.findAll text = [] := by
  rw [findAll, occurrences_eq_nil_iff.2 h]
  split <;> rfl

theorem findAll_eq_nil_iff (hcount : m.groupCount = 0) : m.findAll text = [] ↔ m.occursIn text = false := by
  rw [findAll, if_pos hcount, List.map_eq_nil_iff, occurrences_eq_nil_iff]

/-! ## Replacing -/

theorem replaceAll_of_not_occursIn (h : m.occursIn text = false) (r : Replacement) :
    m.replaceAll text r = text := by
  refine replaceAll_eq_of_found fun o ho => ?_
  have hfound : m.occursIn text = true := Pattern.exists_found_iff.1 ⟨o, ho⟩
  rw [hfound] at h
  cases h

/-- The replacement `${0}` stands for the whole occurrence. -/
theorem read_whole : Replacement.read "$\x7b0\x7d" = [.number 0] := by decide

theorem replaceAll_whole (m : Matcher) (text : List Char) :
    m.replaceAll text (Replacement.read "$\x7b0\x7d") = text := by
  refine replaceAll_eq_of_found fun o _ => ?_
  rw [read_whole, Replacement.expand, List.flatMap_singleton, ReplacementPart.expand,
    Occurrence.group?, if_pos rfl]
  rfl

/-! ## The first group -/

/-- A group that took part in an occurrence is one that the pattern has. -/
theorem le_lastGroup_of_group? {o : Occurrence} {index : Nat} {x : List Char} (h : m.find? text = some o)
    (hindex : index ≠ 0) (hx : o.group? index = some x) : index ≤ m.pattern.lastGroup := by
  have hfound : .found o ∈ m.pieces text :=
    Piece.mem_occurrences_iff.1 (List.mem_of_head? (head?_occurrences_pieces.trans h))
  obtain ⟨before, after, -, hmatches⟩ := Pattern.exists_matches_of_mem_pieces hfound
  rw [Occurrence.group?, if_neg hindex] at hx
  exact hmatches.le_lastGroup (Pattern.mem_of_lookup hx)

/-- The first group of the first occurrence comes first in `findAll` and `firstGroups`, if it took
part. -/
theorem head?_findAll {o : Occurrence} {x : List Char} (hcount : m.groupCount ≠ 0) (h : m.find? text = some o)
    (hx : o.group? 1 = some x) :
    (m.findAll text).head? = some x ∧ (m.firstGroups text).bind List.head? = some x := by
  constructor
  · have hhead := head?_occurrences_pieces.trans h
    obtain ⟨more, hmore⟩ := List.head?_eq_some_iff.1 hhead
    rw [findAll, hmore, if_neg hcount, List.filterMap_cons, hx]
    rfl
  · obtain ⟨n, hn⟩ := Nat.exists_eq_succ_of_ne_zero hcount
    rw [firstGroups, h, hn, List.range_succ_eq_map]
    simp [hx]

/-! ## All views -/

/-- What `read` gives was assembled from the tokens of the text. -/
theorem assemble_of_read {pattern : String} (h : read pattern = .ok m) : ∃ tokens,
    Pattern.readTokens pattern.toList.length {} [] pattern.toList = .ok tokens ∧
      Pattern.assemble tokens = .ok ⟨m.pattern, m.names⟩ := by
  rw [read, Pattern.read] at h
  cases htokens : Pattern.readTokens pattern.toList.length {} [] pattern.toList with
  | error e => rw [htokens] at h; cases h
  | ok tokens =>
    rw [htokens] at h
    refine ⟨tokens, rfl, ?_⟩
    cases hread : Pattern.assemble tokens with
    | error e => simp [hread, bind, Except.bind, Except.map] at h
    | ok r =>
      simp only [hread, bind, Except.bind, Except.map, Except.ok.injEq] at h
      rw [← h]

/-- **`firstGroups`, `findAll` and `replaceAll` follow `occursIn`**, whatever `Pattern` a `Matcher`
has. `groupCount` is at most the number of groups that the tokens of the pattern open (those of
`assemble_of_read`, if it was read), and this number if none of them `leavesOut` any. -/
theorem views_agree (m : Matcher) (text : List Char) :
    (m.firstGroups text).isSome = m.occursIn text ∧
    (∀ groups ∈ m.firstGroups text, groups.length = m.groupCount) ∧
    (∀ tokens, Pattern.assemble tokens = .ok ⟨m.pattern, m.names⟩ →
      m.groupCount ≤ tokens.countP Pattern.Token.opensNumbered ∧
      ((∀ token ∈ tokens, token.leavesOut = false) →
        m.groupCount = tokens.countP Pattern.Token.opensNumbered)) ∧
    (m.occursIn text = false → m.findAll text = [] ∧ ∀ r, m.replaceAll text r = text) ∧
    (m.groupCount = 0 → (m.findAll text = [] ↔ m.occursIn text = false)) ∧
    (∀ o x, m.find? text = some o → o.group? 1 = some x →
      (m.findAll text).head? = some x ∧ (m.firstGroups text).bind List.head? = some x) ∧
    m.replaceAll text (Replacement.read "$\x7b0\x7d") = text := by
  refine ⟨isSome_firstGroups, fun groups => length_of_mem_firstGroups,
    fun tokens h => Pattern.lastGroup_of_assemble h,
    fun hnone => ⟨findAll_eq_nil hnone, replaceAll_of_not_occursIn hnone⟩, findAll_eq_nil_iff, ?_,
      replaceAll_whole m text⟩
  intro o x ho hx
  have hlast : 1 ≤ m.groupCount := le_lastGroup_of_group? ho Nat.one_ne_zero hx
  exact head?_findAll (Nat.ne_of_gt hlast) ho hx

/-- The group of `(a)?b*` takes part in the first occurrence in `abba`. -/
theorem views_agree_optional : ∃ m, Matcher.read "(a)?b*" = .ok m ∧
    m.find? "abba".toList = some ⟨"abb".toList, [(1, ['a'])]⟩ ∧
    (m.findAll "abba".toList).head? = some ['a'] ∧ (m.firstGroups "abba".toList).bind List.head? =
      some ['a'] := by
  obtain ⟨m, h, hfind⟩ : ∃ m, Matcher.read "(a)?b*" = .ok m ∧
      m.find? "abba".toList = some ⟨"abb".toList, [(1, ['a'])]⟩ := ⟨_, rfl, by decide⟩
  obtain ⟨-, -, -, -, -, hfirst, -⟩ := views_agree m "abba".toList
  exact ⟨m, h, hfind, hfirst _ ['a'] hfind rfl⟩

/-- The pattern `(a){0}` opens a group, and its first occurrence has none. -/
theorem firstGroups_leaves_out : ∃ tokens m, Pattern.readTokens 6 {} [] "(a)\x7b0\x7d".toList = .ok tokens ∧
    Matcher.read "(a)\x7b0\x7d" = .ok m ∧ tokens.countP Pattern.Token.opensNumbered = 1 ∧
    m.occursIn ['b'] = true ∧ m.firstGroups ['b'] = some [] :=
  ⟨_, _, rfl, rfl, by decide, by decide, by decide⟩

end UiSkeleton.Matcher
