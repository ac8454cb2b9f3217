/-
Groups that always take part. Two tests on the pattern alone, that every way closes a group
(`binds`) and that no group of its number closes on nothing (`solid`), give that the group holds
some text in every occurrence. A replacement that uses such a group, or has a character of its own,
then never puts nothing in the place of an occurrence.
-/
import UiSkeleton.Proofs.Pattern.Pieces

namespace UiSkeleton

namespace Pattern

/-- Every way through the pattern closes the group. -/
def binds (index : Nat) : Pattern → Bool
  | .empty | .atom _ | .edge _ | .star _ _ _ => false
  | .seq first second => first.binds index || second.binds index
  | .alt _ left right => left.binds index && right.binds index
  | .plus _ _ body => body.binds index
  | .group other body => other == index || body.binds index

/-- No group with the number closes without a character. -/
def solid (index : Nat) : Pattern → Bool
  | .empty | .atom _ | .edge _ => true
  | .seq first second => first.solid index && second.solid index
  | .alt _ left right => left.solid index && right.solid index
  | .star _ _ body | .plus _ _ body => body.solid index
  | .group other body => (other != index || !body.nullable) && body.solid index

variable {p : Pattern} {b : Option Char} {w a : List Char} {g : List (Nat × List Char)} {index : Nat}

/-- A `solid` group has some text wherever it is closed. -/
theorem Matches.ne_nil_of_mem (h : p.Matches b w a g) (hsolid : p.solid index = true) {x : List Char}
    (hx : (index, x) ∈ g) : x ≠ [] := by
  induction h with
  | empty | atom | edge | stop => cases hx
  | seq _ _ ih₁ ih₂ =>
    simp only [solid, Bool.and_eq_true] at hsolid
    exact (List.mem_append.1 hx).elim (ih₂ hsolid.2) (ih₁ hsolid.1)
  | left _ ih =>
    simp only [solid, Bool.and_eq_true] at hsolid
    exact ih hsolid.1 hx
  | right _ ih =>
    simp only [solid, Bool.and_eq_true] at hsolid
    exact ih hsolid.2 hx
  | more _ _ ih₁ ih₂ | plus _ _ ih₁ ih₂ => exact (List.mem_append.1 hx).elim (ih₂ hsolid) (ih₁ hsolid)
  | group h ih =>
    simp only [solid, Bool.and_eq_true, Bool.or_eq_true, bne_iff_ne, Bool.not_eq_true'] at hsolid
    rcases List.mem_cons.1 hx with heq | hx
    · obtain ⟨rfl, rfl⟩ := Prod.mk.inj heq
      exact h.ne_nil (hsolid.1.resolve_left (by simp))
    · exact ih hsolid.2 hx

/-- A match closes every group that its pattern `binds`. -/
theorem Matches.exists_mem (h : p.Matches b w a g) (hbinds : p.binds index = true) : ∃ x, (index, x) ∈ g := by
  have later : ∀ {l m : List (Nat × List Char)}, (∃ x, (index, x) ∈ l) ∨ (∃ x, (index, x) ∈ m) →
      ∃ x, (index, x) ∈ m ++ l := by
    rintro l m (⟨x, hx⟩ | ⟨x, hx⟩)
    · exact ⟨x, List.mem_append_right _ hx⟩
    · exact ⟨x, List.mem_append_left _ hx⟩
  induction h with
  | empty | atom | edge | stop | more => cases hbinds
  | seq _ _ ih₁ ih₂ => exact later ((Bool.or_eq_true_iff.1 hbinds).imp ih₁ ih₂)
  | left _ ih => exact ih (Bool.and_eq_true_iff.1 hbinds).1
  | right _ ih => exact ih (Bool.and_eq_true_iff.1 hbinds).2
  | plus _ _ ih₁ _ => exact later (.inl (ih₁ hbinds))
  | group _ ih =>
    simp only [binds, Bool.or_eq_true, beq_iff_eq] at hbinds
    rcases hbinds with rfl | hbinds
    · exact ⟨_, List.mem_cons_self⟩
    · obtain ⟨x, hx⟩ := ih hbinds
      exact ⟨x, List.mem_cons_of_mem _ hx⟩

theorem mem_of_lookup {κ α : Type} [BEq κ] [LawfulBEq κ] {key : κ} {x : α}
    {l : List (κ × α)} (h : l.lookup key = some x) : (key, x) ∈ l := by
  obtain ⟨before, after, rfl, -⟩ := List.lookup_eq_some_iff.1 h
  exact List.mem_append_right _ List.mem_cons_self

/-- **A group that is `solid` and bound holds some text** in every occurrence. -/
theorem group_ne_nil {p : Pattern} {before : Option Char} {rest : List Char} {o : Occurrence} {index : Nat}
    (h : p.matchAt before rest = some o) (hsolid : p.solid index = true) (hbinds : p.binds index = true)
    (hindex : index ≠ 0) : ∃ x, o.group? index = some x ∧ x ≠ [] := by
  obtain ⟨after, -, hmatches⟩ := matches_of_matchAt h
  obtain ⟨y, hy⟩ := hmatches.exists_mem hbinds
  have hsome : (o.groups.lookup index).isSome = true := List.lookup_isSome_iff.2 ⟨_, hy, by simp⟩
  obtain ⟨x, hx⟩ := Option.isSome_iff_exists.1 hsome
  exact ⟨x, by rw [Occurrence.group?, if_neg hindex, hx], hmatches.ne_nil_of_mem hsolid (mem_of_lookup hx)⟩

end Pattern

/-- Whether a replacement never is empty at an occurrence of the pattern. -/
def Replacement.remains (r : Replacement) (p : Pattern) : Bool :=
  r.any fun
    | .char _ => true
    | .number index => index != 0 && p.solid index && p.binds index
    | .name _ => false

theorem Replacement.expand_ne_nil {r : Replacement} {p : Pattern}
    {names : List (String × Nat)} {o : Occurrence}
    {before : Option Char} {rest : List Char} (hr : r.remains p = true) (h : p.matchAt before rest = some o) :
    r.expand names o ≠ [] := by
  obtain ⟨part, hmem, hpart⟩ := List.any_eq_true.1 hr
  have hne : part.expand names o ≠ [] := by
    cases part with
    | char c => simp [ReplacementPart.expand]
    | number index =>
      simp only [Bool.and_eq_true, bne_iff_ne] at hpart
      obtain ⟨x, hx, hne⟩ := Pattern.group_ne_nil h hpart.1.2 hpart.2 hpart.1.1
      rw [ReplacementPart.expand, hx]
      exact hne
    | name word => cases hpart
  rw [expand, Ne, List.flatMap_eq_nil_iff]
  exact fun hall => hne (hall part hmem)

theorem Matcher.replaceAll_ne_nil {m : Matcher} {r : Replacement} {text : List Char}
    (hr : r.remains m.pattern = true) (h : text ≠ []) : m.replaceAll text r ≠ [] := by
  have hne : m.pattern.pieces none 0 false text ≠ [] := Pattern.pieces_ne_nil h
  obtain ⟨piece, pieces, hpieces⟩ := List.exists_cons_of_ne_nil hne
  rw [replaceAll, Matcher.pieces, hpieces, List.flatMap_cons]
  cases piece with
  | plain c => simp
  | found o =>
    have hfound : .found o ∈ m.pattern.pieces none 0 false text := by simp [hpieces]
    obtain ⟨before, rest, -, hm⟩ := Pattern.exists_matchAt_of_mem_pieces hfound
    simp [Replacement.expand_ne_nil hr hm]

end UiSkeleton
