/-
Texts that differ in some stretches. What a replacement makes of a text is the text with some
stretches rewritten and all other characters kept; nothing else is said of where the stretches are.
So what every single rewriting keeps, a number of characters or a construct that it cannot reach
into, the whole keeps.
-/
import Mathlib.Data.List.Induction
import UiSkeleton.Proofs.Pattern.Pieces

namespace UiSkeleton

/-- The second text is the first one with some stretches rewritten, each as the relation allows. -/
inductive Rewritten (E : List Char → List Char → Prop) : List Char → List Char → Prop
  | nil : Rewritten E [] []
  | keep {c s t} : Rewritten E s t → Rewritten E (c :: s) (c :: t)
  | rewrite {old new s t} : E old new → Rewritten E s t → Rewritten E (old ++ s) (new ++ t)

namespace Rewritten

variable {E : List Char → List Char → Prop} {s t a b : List Char}

theorem refl (s : List Char) : Rewritten E s s := by
  induction s with
  | nil => exact .nil
  | cons c s ih => exact .keep ih

theorem symm (h : Rewritten E s t) : Rewritten (fun new old => E old new) t s := by
  induction h with
  | nil => exact .nil
  | keep _ ih => exact .keep ih
  | rewrite hold _ ih => exact .rewrite hold ih

theorem cases_end (h : Rewritten E s t) : (s = [] ∧ t = []) ∨
    ∃ s' t' old new, s = s' ++ old ∧ t = t' ++ new ∧ Rewritten E s' t' ∧
      (E old new ∨ ∃ c, old = [c] ∧ new = [c]) := by
  induction h with
  | nil => exact .inl ⟨rfl, rfl⟩
  | @keep c s t _ ih =>
    right
    rcases ih with ⟨rfl, rfl⟩ | ⟨s', t', old, new, rfl, rfl, h', hlast⟩
    · exact ⟨[], [], [c], [c], rfl, rfl, .nil, .inr ⟨c, rfl, rfl⟩⟩
    · exact ⟨c :: s', c :: t', old, new, rfl, rfl, .keep h', hlast⟩
  | @rewrite old new s t hold _ ih =>
    right
    rcases ih with ⟨rfl, rfl⟩ | ⟨s', t', old', new', rfl, rfl, h', hlast⟩
    · exact ⟨[], [], old, new, by simp, by simp, .nil, .inl hold⟩
    · exact ⟨old ++ s', new ++ t', old', new', by simp, by simp, .rewrite hold h', hlast⟩

/-- What adds up over a text and is the same for both sides of every rewriting stays the same. -/
theorem weight_eq (weight : List Char → Int) (happend : ∀ x y, weight (x ++ y) = weight x + weight y)
    (hE : ∀ {old new}, E old new → weight old = weight new) (h : Rewritten E s t) : weight s = weight t := by
  induction h with
  | nil => rfl
  | @keep c s t _ ih =>
    have hs := happend [c] s
    have ht := happend [c] t
    simp only [List.singleton_append] at hs ht
    rw [hs, ht, ih]
  | rewrite hold _ ih => rw [happend, happend, hE hold, ih]

/-! ## Stretches that are kept -/

/-- A character that no rewriting reads or writes parts both texts. -/
theorem split {c : Char} (hE : ∀ {old new}, E old new → c ∉ old) (h : Rewritten E s t)
    (hs : s = a ++ c :: b) : ∃ a' b', t = a' ++ c :: b' ∧ Rewritten E a a' ∧ Rewritten E b b' := by
  induction h generalizing a with
  | nil => simp at hs
  | @keep d s t h ih =>
    cases a with
    | nil =>
      obtain ⟨rfl, rfl⟩ := List.cons.inj hs
      exact ⟨[], t, rfl, .nil, h⟩
    | cons e a =>
      obtain ⟨rfl, hrest⟩ := List.cons.inj hs
      obtain ⟨a', b', rfl, ha, hb⟩ := ih hrest
      exact ⟨d :: a', b', rfl, .keep ha, hb⟩
  | @rewrite old new s t hold h ih =>
    rcases List.append_eq_append_iff.1 hs with ⟨x, rfl, hx⟩ | ⟨x, rfl, hx⟩
    · obtain ⟨a', b', rfl, ha, hb⟩ := ih hx
      exact ⟨new ++ a', b', by simp, .rewrite hold ha, hb⟩
    · cases x with
      | nil =>
        obtain ⟨a', b', rfl, ha, hb⟩ := ih (a := []) hx.symm
        exact ⟨new ++ a', b', by simp, by simpa using Rewritten.rewrite hold ha, hb⟩
      | cons d x =>
        obtain ⟨rfl, -⟩ := List.cons.inj hx
        exact absurd (List.mem_append_right a List.mem_cons_self) (hE hold)

theorem head {c : Char} (hE : ∀ {old new}, E old new → old ≠ [] ∧ old.head? ≠ some c)
    (h : Rewritten E (c :: b) t) : ∃ b', t = c :: b' := by
  generalize hs : c :: b = s at h
  cases h with
  | nil => cases hs
  | keep h => exact ⟨_, by rw [(List.cons.inj hs).1]⟩
  | rewrite hold h =>
    obtain ⟨hne, hhead⟩ := hE hold
    obtain ⟨d, old, rfl⟩ := List.exists_cons_of_ne_nil hne
    obtain ⟨rfl, -⟩ := List.cons.inj hs
    simp at hhead

/-- Nothing of the text ends where a front of the needle ends: neither is a tail of the other. -/
def Clears (needle text : List Char) : Prop := ∀ u, u <+: needle → u ≠ [] → ¬ (u <:+ text ∨ text <:+ u)

/-- A text still ends with a needle if no rewriting ends inside it. -/
theorem tail {needle u : List Char} (hE : ∀ {old new}, E old new → Clears needle old) (hu : u <+: needle)
    (h : Rewritten E (a ++ u) t) : ∃ a', t = a' ++ u := by
  induction u using List.reverseRecOn generalizing a t with
  | nil => exact ⟨t, by simp⟩
  | append_singleton u c ih =>
    obtain ⟨hnil, -⟩ | ⟨s', t', old, new, hs, rfl, h', hlast⟩ := h.cases_end
    · simp at hnil
    · rcases hlast with hold | ⟨d, rfl, rfl⟩
      · have hsuffix : old <:+ a ++ (u ++ [c]) := ⟨s', hs.symm⟩
        have hback := List.suffix_or_suffix_of_suffix (List.suffix_append a (u ++ [c])) hsuffix
        exact absurd hback (hE hold _ hu (by simp))
      · rw [← List.append_assoc] at hs
        obtain ⟨rfl, hc⟩ := List.append_inj' hs rfl
        obtain rfl := List.singleton_inj.1 hc
        obtain ⟨a', rfl⟩ := ih ((List.prefix_append u [c]).trans hu) h'
        exact ⟨a', by simp⟩

theorem ne_nil (hE : ∀ {old new}, E old new → new ≠ []) (h : Rewritten E s t) (hs : s ≠ []) : t ≠ [] := by
  cases h with
  | nil => exact absurd rfl hs
  | keep => simp
  | rewrite hold => simp [hE hold]

theorem not_mem {c : Char}
    (hE : ∀ {old new}, E old new → c ∉ new) (h : Rewritten E s t) (hs : c ∉ s) : c ∉ t := by
  induction h with
  | nil => exact hs
  | keep _ ih =>
    simp only [List.mem_cons, not_or] at hs ⊢
    exact ⟨hs.1, ih hs.2⟩
  | rewrite hold _ ih =>
    simp only [List.mem_append, not_or] at hs ⊢
    exact ⟨hE hold, ih hs.2⟩

end Rewritten

/-- `replaceAll` rewrites what is found. -/
theorem Matcher.rewritten_replaceAll {E : List Char → List Char → Prop} {m : Matcher}
    {r : Replacement} {text : List Char}
    (h : ∀ o, .found o ∈ m.pieces text → E o.text (r.expand m.names o)) :
    Rewritten E text (m.replaceAll text r) := by
  have hpieces : (m.pieces text).flatMap Piece.text = text := Pattern.flatMap_text_pieces
  rw [replaceAll]
  conv => arg 2; rw [← hpieces]
  generalize m.pieces text = pieces at h
  induction pieces with
  | nil => exact .nil
  | cons piece pieces ih =>
    have hrest := ih fun o ho => h o (List.mem_cons_of_mem _ ho)
    cases piece with
    | plain c => exact .keep hrest
    | found o => exact .rewrite (h o List.mem_cons_self) hrest

end UiSkeleton
