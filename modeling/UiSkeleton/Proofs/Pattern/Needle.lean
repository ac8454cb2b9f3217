/-
Texts that every match holds. Where a pattern has some characters in a row that no choice goes
around, each of its matches has them too; so a text without them has no match, and a rule that
searches for the pattern leaves it as it is (`replaceAll_eq_of_needle`).
-/
import UiSkeleton.Proofs.Pattern.Spelling

namespace UiSkeleton

namespace Pattern

/-- Whether every match starts with the text, one character after the other. -/
def opensWith : List Char → Pattern → Bool
  | [], _ => true
  | [c], .atom (.range first last) => first == c && last == c
  | c :: cs, .seq (.atom (.range first last)) next => first == c && last == c && opensWith cs next
  | _, _ => false

/-- Whether every match holds the text, at a place that the pattern fixes. -/
def holdsText (needle : List Char) : Pattern → Bool
  | .seq first second =>
    opensWith needle (.seq first second) || first.holdsText needle || second.holdsText needle
  | .group _ body => body.holdsText needle
  | p => opensWith needle p

variable {p : Pattern} {b : Option Char} {w a needle : List Char} {g : List (Nat × List Char)}

theorem Matches.prefix_of_opensWith (h : p.Matches b w a g) (hopens : opensWith needle p = true) :
    needle <+: w := by
  induction needle generalizing p b w g with
  | nil => exact List.nil_prefix
  | cons c cs ih =>
    rw [opensWith.eq_def] at hopens
    split at hopens
    · rename_i heq
      cases heq
    · rename_i first last heq
      cases heq
      simp only [Bool.and_eq_true, beq_iff_eq] at hopens
      obtain ⟨rfl, rfl⟩ := hopens
      obtain ⟨⟨d, rfl, hd⟩, -⟩ := matches_atom.1 h
      obtain rfl := contains_single.1 hd
      exact List.prefix_rfl
    · rename_i first last next heq
      cases heq
      simp only [Bool.and_eq_true, beq_iff_eq] at hopens
      obtain ⟨⟨rfl, rfl⟩, hnext⟩ := hopens
      obtain ⟨x, y, gx, gy, rfl, -, hx, hy⟩ := matches_seq.1 h
      obtain ⟨⟨d, rfl, hd⟩, -⟩ := matches_atom.1 hx
      rw [contains_single.1 hd]
      exact List.cons_prefix_cons.2 ⟨rfl, ih hy hnext⟩
    · cases hopens

theorem Matches.infix_of_holdsText (h : p.Matches b w a g) (hholds : p.holdsText needle = true) :
    needle <:+: w := by
  induction p generalizing b w a g with
  | seq first second ih₁ ih₂ =>
    simp only [holdsText, Bool.or_eq_true] at hholds
    rcases hholds with (hopens | hfirst) | hsecond
    · exact (h.prefix_of_opensWith hopens).isInfix
    · obtain ⟨x, y, gx, gy, rfl, -, hx, -⟩ := matches_seq.1 h
      exact (ih₁ hx hfirst).trans (List.prefix_append x y).isInfix
    · obtain ⟨x, y, gx, gy, rfl, -, -, hy⟩ := matches_seq.1 h
      exact (ih₂ hy hsecond).trans (List.suffix_append x y).isInfix
  | group index body ih =>
    obtain ⟨inner, -, hbody⟩ := matches_group.1 h
    exact ih hbody hholds
  | _ => exact (h.prefix_of_opensWith hholds).isInfix

end Pattern

/-- **A text without what every match `holdsText` is left as it is.** -/
theorem Matcher.replaceAll_eq_of_needle {m : Matcher} {needle text : List Char}
    (h : m.pattern.holdsText needle = true)
    (htext : ¬ needle <:+: text) (r : Replacement) : m.replaceAll text r = text := by
  refine Matcher.replaceAll_eq_of_found fun o ho => ?_
  obtain ⟨a, c, rfl, hmatches⟩ := Pattern.exists_matches_of_mem_pieces ho
  have hfound : o.text <:+: a ++ (o.text ++ c) := ⟨a, c, List.append_assoc ..⟩
  exact absurd ((hmatches.infix_of_holdsText h).trans hfound) htext

end UiSkeleton
