/-
Texts that stand in another one, not behind a word character, and what becomes of them when
occurrences of a pattern are edited. An occurrence and what is put in its place run from a full stop
to a closing parenthesis; a call has a colon, no full stop and one closing parenthesis at its end.
So no call reaches into what was edited, and what calls there are after the edits there were before
(`Edits.stands`).
-/
import Mathlib.Data.List.Infix
import UiSkeleton.Proofs.Pattern.Pieces

namespace UiSkeleton

namespace Text

/-- The text stands in the source, at its start or after a character that is no word character. -/
def Stands (text source : List Char) : Prop :=
  ∃ a b, source = a ++ text ++ b ∧ ∀ c ∈ a.getLast?, isWord c = false

/-- The text stands in a source that goes on after a character, not behind a word character. -/
def StandsAfter (before : Option Char) (text source : List Char) : Prop :=
  ∃ a b, source = a ++ text ++ b ∧ ∀ c ∈ Pattern.lastOr before a, isWord c = false

theorem standsAfter_none {text source : List Char} : StandsAfter none text source ↔ Stands text source := by
  simp only [StandsAfter, Stands, Pattern.lastOr_none]

theorem StandsAfter.append {before : Option Char} {text source u : List Char}
    (h : StandsAfter (Pattern.lastOr before u) text source) : StandsAfter before text (u ++ source) := by
  obtain ⟨a, b, rfl, hb⟩ := h
  exact ⟨u ++ a, b, by simp, by rwa [Pattern.lastOr_append]⟩

/-- A text from a full stop to a closing parenthesis. -/
def Enclosed (text : List Char) : Prop := ∃ x, text = '.' :: x ++ [')']

/-- A text that is closed by its only parenthesis of that kind, with a colon and no full stop in
it. -/
structure IsCall (text : List Char) : Prop where
  colon : ':' ∈ text
  stop : '.' ∉ text
  closed : ∃ x, text = x ++ [')'] ∧ ')' ∉ x

end Text

open Text

/-- What stands in place of each piece, where every occurrence is edited. -/
structure Edits (out : Piece → List Char) (pieces : List Piece) : Prop where
  plain : ∀ c, out (.plain c) = [c]
  source : ∀ o, .found o ∈ pieces → Enclosed o.text
  edited : ∀ o, .found o ∈ pieces → Enclosed (out (.found o))
  colon : ∀ o, .found o ∈ pieces → ':' ∉ out (.found o)

namespace Edits

variable {out : Piece → List Char} {pieces : List Piece} {piece : Piece} {w : List Char}

theorem tail (h : Edits out (piece :: pieces)) : Edits out pieces where
  plain := h.plain
  source o ho := h.source o (List.mem_cons_of_mem _ ho)
  edited o ho := h.edited o (List.mem_cons_of_mem _ ho)
  colon o ho := h.colon o (List.mem_cons_of_mem _ ho)

/-- A text without a full stop at the start of the edited text reaches into no occurrence. -/
theorem isPrefix (h : Edits out pieces) (hw : '.' ∉ w) (hfront : w <+: pieces.flatMap out) :
    w <+: pieces.flatMap Piece.text := by
  induction pieces generalizing w with
  | nil => exact hfront
  | cons piece pieces ih =>
    cases w with
    | nil => exact List.nil_prefix
    | cons d w =>
      rw [List.flatMap_cons] at hfront ⊢
      cases piece with
      | plain c =>
        rw [h.plain] at hfront
        obtain ⟨rfl, hrest⟩ := List.cons_prefix_cons.1 hfront
        exact List.cons_prefix_cons.2 ⟨rfl, ih h.tail (fun hmem => hw (List.mem_cons_of_mem _ hmem)) hrest⟩
      | found o =>
        obtain ⟨x, hx⟩ := h.edited o List.mem_cons_self
        rw [hx] at hfront
        obtain ⟨rfl, -⟩ := List.cons_prefix_cons.1 hfront
        exact absurd List.mem_cons_self hw

/-- A call does not start inside an edited text. -/
theorem not_inside {v a y rest b : List Char} (hw : IsCall w) (hv : Enclosed v) (hcolon : ':' ∉ v)
    (hsplit : v = a ++ y)
    (hy : y ≠ []) : w ++ b ≠ y ++ rest := by
  intro heq
  obtain ⟨x, hx⟩ := hv
  have hcolon' : ':' ∉ y := fun hmem => hcolon (hsplit ▸ List.mem_append_right a hmem)
  have hclose : ')' ∈ y := by
    have hlast : v.getLast? = y.getLast? := by rw [hsplit, List.getLast?_append_of_ne_nil _ hy]
    rw [hx, List.getLast?_concat] at hlast
    exact List.mem_of_getLast? hlast.symm
  have hfront : y <+: w ++ b := heq ▸ List.prefix_append y rest
  rcases List.prefix_or_prefix_of_prefix hfront (List.prefix_append w b) with hyw | hwy
  · obtain ⟨z, rfl, hz⟩ := hw.closed
    rcases List.prefix_concat_iff.1 hyw with rfl | hyz
    · exact hcolon' hw.colon
    · exact hz (hyz.subset hclose)
  · exact hcolon' (hwy.subset hw.colon)

/-- **What `Stands` after the edits stood there before.** -/
theorem stands (h : Edits out pieces) (hw : IsCall w) {before : Option Char}
    (hstands : StandsAfter before w (pieces.flatMap out)) :
    StandsAfter before w (pieces.flatMap Piece.text) := by
  induction pieces generalizing before with
  | nil => exact hstands
  | cons piece pieces ih =>
    obtain ⟨a, b, heq, hb⟩ := hstands
    rw [List.append_assoc] at heq
    cases piece with
    | plain c =>
      cases a with
      | nil =>
        have hfront : w <+: (.plain c :: pieces).flatMap Piece.text := h.isPrefix hw.stop ⟨b, heq.symm⟩
        obtain ⟨rest, hrest⟩ := hfront
        exact ⟨[], rest, hrest.symm, hb⟩
      | cons d a =>
        rw [List.flatMap_cons, h.plain] at heq
        obtain ⟨rfl, hrest⟩ := List.cons.inj heq
        rw [Pattern.lastOr_cons] at hb
        have hlater : StandsAfter (some c) w (pieces.flatMap Piece.text) :=
          ih h.tail ⟨a, b, hrest.trans (List.append_assoc ..).symm, hb⟩
        exact StandsAfter.append (u := [c]) hlater
    | found o =>
      obtain ⟨x, hx⟩ := h.source o List.mem_cons_self
      obtain ⟨y, hy⟩ := h.edited o List.mem_cons_self
      have later : ∀ {a}, pieces.flatMap out = a ++ (w ++ b) →
          (∀ c ∈ Pattern.lastOr before (out (.found o) ++ a), isWord c = false) →
          StandsAfter before w ((.found o :: pieces).flatMap Piece.text) := by
        intro a heq hb
        -- both the occurrence and what replaces it end with the same character
        have hend : ∀ {x : List Char}, Pattern.lastOr before ('.' :: x ++ [')']) = some ')' := by
          intro x
          simp [Pattern.lastOr_append]
        rw [hy, Pattern.lastOr_append, hend] at hb
        have hrest := ih h.tail ⟨a, b, heq.trans (List.append_assoc ..).symm, hb⟩
        refine StandsAfter.append (u := o.text) ?_
        rwa [hx, hend]
      rw [List.flatMap_cons] at heq
      rcases List.append_eq_append_iff.1 heq with ⟨a', rfl, hrest⟩ | ⟨z, hz, hrest⟩
      · exact later hrest hb
      · by_cases hnil : z = []
        · subst hnil
          rw [List.append_nil] at hz
          exact later (a := []) hrest.symm (by rwa [List.append_nil, hz])
        · exact absurd hrest (not_inside hw ⟨y, hy⟩ (h.colon o List.mem_cons_self) hz hnil)

end Edits

end UiSkeleton
