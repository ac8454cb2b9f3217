/-
How the groups of a pattern are numbered. Every opening parenthesis of a numbered group takes the
next number, and a repetition keeps the groups of what it repeats unless it has no rounds at all. So
while a pattern is assembled, the groups met so far are among those up to the last number given, and
all of them if there is no such repetition; and a match closes none but groups of its pattern.
-/
import UiSkeleton.Pattern.Matcher
import UiSkeleton.Proofs.Pattern.Matches

namespace UiSkeleton.Pattern

/-- The greatest number of a group in some patterns. -/
def lastOf (ps : List Pattern) : Nat := (ps.map lastGroup).foldr max 0

@[simp] theorem lastOf_nil : lastOf [] = 0 := rfl

@[simp] theorem lastOf_cons (p : Pattern) (ps : List Pattern) :
    lastOf (p :: ps) = max p.lastGroup (lastOf ps) := rfl

@[simp] theorem lastOf_append (ps qs : List Pattern) : lastOf (ps ++ qs) = max (lastOf ps) (lastOf qs) := by
  induction ps with
  | nil => simp
  | cons p ps ih =>
    simp only [List.cons_append, lastOf_cons, ih]
    omega

@[simp] theorem lastOf_reverse (ps : List Pattern) : lastOf ps.reverse = lastOf ps := by
  induction ps with
  | nil => rfl
  | cons p ps ih =>
    simp only [List.reverse_cons, lastOf_append, lastOf_cons, lastOf_nil, ih]
    omega

/-! ## Building patterns -/

section building

variable (isLazy : Bool) (p : Pattern)

theorem lastGroup_concat : ∀ ps : List Pattern, (concat ps).lastGroup = lastOf ps
  | [] => rfl
  | [p] => (Nat.max_zero _).symm
  | p :: q :: ps => by
    have hrest := lastGroup_concat (q :: ps)
    rw [lastOf_cons, ← hrest]
    rfl

theorem lastGroup_choice : ∀ ps : List Pattern, (choice ps).lastGroup = lastOf ps
  | [] => rfl
  | [p] => (Nat.max_zero _).symm
  | p :: q :: ps => by
    have hrest := lastGroup_choice (q :: ps)
    rw [lastOf_cons, ← hrest]
    rfl

theorem lastGroup_optional : (optional isLazy p).lastGroup = p.lastGroup := by
  cases isLazy <;> simp [optional, lastGroup]

theorem lastGroup_many : (many isLazy p).lastGroup = p.lastGroup := by
  rw [many]
  split
  · rw [lastGroup_optional, lastGroup]
  · rw [lastGroup]

theorem lastGroup_upTo : ∀ n, (upTo isLazy p (n + 1)).lastGroup = p.lastGroup
  | 0 => by simp [upTo, lastGroup_optional, lastGroup]
  | n + 1 => by rw [upTo, lastGroup_optional, lastGroup, lastGroup_upTo n, Nat.max_self]

theorem lastOf_replicate_le (n : Nat) : lastOf (List.replicate n p) ≤ p.lastGroup := by
  induction n with
  | zero => exact Nat.zero_le _
  | succ n ih =>
    simp only [List.replicate_succ, lastOf_cons]
    omega

theorem lastGroup_repeated_le (least : Nat) (most : Option Nat) :
    (repeated isLazy least most p).lastGroup ≤ p.lastGroup := by
  have hcopies := lastOf_replicate_le p
  unfold repeated
  split
  · exact Nat.le_of_eq (lastGroup_many isLazy p)
  · rename_i n
    have hn := hcopies n
    simp only [lastGroup_concat, lastOf_append, lastOf_cons, lastOf_nil, lastGroup]
    omega
  · exact Nat.le_of_eq (lastGroup_optional isLazy p)
  · rename_i m _
    have hleast := hcopies least
    rw [lastGroup_concat, lastOf_append]
    split
    · rw [lastOf_nil]
      omega
    · rename_i hmore
      obtain ⟨n, hn⟩ : ∃ n, m - least = n + 1 := ⟨m - least - 1, by omega⟩
      simp only [hn, lastOf_cons, lastOf_nil, lastGroup_upTo]
      omega

/-- A repetition keeps the groups of its body, if it can go around at all. -/
theorem lastGroup_repeated (least : Nat) {most : Option Nat} (h : most ≠ some 0) :
    (repeated isLazy least most p).lastGroup = p.lastGroup := by
  refine Nat.le_antisymm (lastGroup_repeated_le isLazy p least most) ?_
  unfold repeated
  split
  · exact Nat.le_of_eq (lastGroup_many isLazy p).symm
  · simp only [lastGroup_concat, lastOf_append, lastOf_cons, lastGroup]
    omega
  · exact Nat.le_of_eq (lastGroup_optional isLazy p).symm
  · rename_i m _
    have hm : m ≠ 0 := by
      rintro rfl
      exact h rfl
    rw [lastGroup_concat, lastOf_append]
    split
    · -- all the rounds are copies, and there is one at least
      obtain ⟨n, rfl⟩ : ∃ n, least = n + 1 := ⟨least - 1, by omega⟩
      simp only [List.replicate_succ, lastOf_cons]
      omega
    · rename_i hmore
      obtain ⟨n, hn⟩ : ∃ n, m - least = n + 1 := ⟨m - least - 1, by omega⟩
      simp only [hn, lastOf_cons, lastGroup_upTo]
      omega

theorem lastGroup_markedFrom (inLoop : Bool) (next : Nat) :
    (p.markedFrom inLoop next).1.lastGroup = p.lastGroup := by
  induction p generalizing inLoop next with
  | empty | atom | edge => rfl
  | seq first second ih₁ ih₂ => simp [markedFrom, lastGroup, ih₁, ih₂]
  | alt _ left right ih₁ ih₂ => simp [markedFrom, lastGroup, ih₁, ih₂]
  | star _ _ body ih | plus _ _ body ih => simp [markedFrom, lastGroup, ih]
  | group index body ih => simp [markedFrom, lastGroup, ih]

end building

/-! ## Reading tokens -/

/-- Whether a token opens a group with a number. -/
def Token.opensNumbered : Token → Bool
  | .openGroup numbered _ => numbered
  | _ => false

/-- Whether a token leaves out what stands before it. -/
def Token.leavesOut : Token → Bool
  | .repetition _ _ most => most == some 0
  | _ => false

/-- The greatest number of a group that is open or stands inside. -/
def OpenGroup.lastGroup (g : OpenGroup) : Nat := max (g.index.getD 0) (lastOf (g.current ++ g.branches))

theorem OpenGroup.lastGroup_toPattern (g : OpenGroup) : g.toPattern.lastGroup = g.lastGroup := by
  have hbody : g.body.lastGroup = lastOf (g.current ++ g.branches) := by
    simp [body, lastGroup_choice, lastGroup_concat, Nat.max_comm]
  unfold toPattern lastGroup
  split
  · rename_i hindex
    rw [hbody, hindex, Option.getD_none, Nat.zero_max]
  · rename_i index hindex
    rw [Pattern.lastGroup, hbody, hindex, Option.getD_some]

theorem OpenGroup.lastGroup_push (g : OpenGroup) (p : Pattern) :
    (g.push p).lastGroup = max p.lastGroup g.lastGroup := by
  simp only [push, lastGroup, List.cons_append, lastOf_cons]
  omega

namespace Reading

/-- The greatest number of a group that was met. -/
def lastGroup (s : Reading) : Nat := max s.inner.lastGroup ((s.outer.map OpenGroup.lastGroup).foldr max 0)

/-- A numbered group takes the next number, whether it has a name or not. -/
theorem step_openGroup {s t : Reading} {name : Option String} (h : s.step (.openGroup true name) = .ok t) :
    t.inner = ⟨some (s.groupCount + 1), [], []⟩ ∧ t.outer = s.inner :: s.outer ∧
    t.groupCount = s.groupCount + 1 := by
  simp only [step] at h
  split at h
  · cases h
    exact ⟨rfl, rfl, rfl⟩
  · split at h
    · cases h
    · cases h
      exact ⟨rfl, rfl, rfl⟩

/-- What a token does to the groups that were met: it counts one if it `opensNumbered`, which is
then met, and keeps all others unless it `leavesOut` some. -/
structure Counts (s t : Reading) (token : Token) : Prop where
  groupCount : t.groupCount = s.groupCount + (if token.opensNumbered then 1 else 0)
  lastGroup_le : t.lastGroup ≤ max t.groupCount s.lastGroup
  lastGroup_eq : token.leavesOut = false →
    t.lastGroup = if token.opensNumbered then max t.groupCount s.lastGroup else s.lastGroup

theorem Counts.of_unnumbered {s t : Reading} {token : Token} (hopens : token.opensNumbered = false)
    (hcount : t.groupCount = s.groupCount) (hlast : t.lastGroup = s.lastGroup) : Counts s t token where
  groupCount := by rw [hopens, if_neg Bool.false_ne_true, hcount, Nat.add_zero]
  lastGroup_le := by rw [hlast]; exact Nat.le_max_right ..
  lastGroup_eq _ := by rw [hopens, if_neg Bool.false_ne_true, hlast]

theorem counts_of_step {s t : Reading} {token : Token} (h : s.step token = .ok t) : Counts s t token := by
  cases token with
  | atom charClass | edge condition =>
    cases h
    refine .of_unnumbered rfl rfl ?_
    simp only [lastGroup, OpenGroup.lastGroup_push, Pattern.lastGroup, Nat.zero_max]
  | bar =>
    cases h
    refine .of_unnumbered rfl rfl ?_
    simp [lastGroup, OpenGroup.lastGroup, lastGroup_concat]
  | repetition isLazy least most =>
    rw [step] at h
    split at h
    · cases h
    · rename_i p ps hcurrent
      cases h
      have hle := lastGroup_repeated_le isLazy p least most
      have heq := fun hmost : most ≠ some 0 => lastGroup_repeated isLazy p least hmost
      constructor <;>
        simp only [lastGroup, OpenGroup.lastGroup, hcurrent, List.cons_append, lastOf_cons,
          Token.opensNumbered, Token.leavesOut, beq_eq_false_iff_ne, Bool.false_eq_true, if_false]
      · rfl
      · omega
      · intro hmost
        rw [heq hmost]
  | openGroup numbered name =>
    cases numbered with
    | false =>
      cases h
      refine .of_unnumbered rfl rfl ?_
      simp [lastGroup, OpenGroup.lastGroup]
    | true =>
      obtain ⟨hinner, houter, hcount⟩ := step_openGroup h
      have hlast : t.lastGroup = max t.groupCount s.lastGroup := by
        rw [lastGroup, lastGroup, hinner, houter, hcount, List.map_cons, List.foldr_cons]
        simp [OpenGroup.lastGroup]
      exact ⟨hcount, Nat.le_of_eq hlast, fun _ => hlast⟩
  | closeGroup =>
    rw [step] at h
    split at h
    · cases h
    · rename_i around more houter
      cases h
      refine .of_unnumbered rfl rfl ?_
      simp only [lastGroup, houter, OpenGroup.lastGroup_push, OpenGroup.lastGroup_toPattern, List.map_cons,
        List.foldr_cons]
      omega

/-- While tokens are read, no group is met beyond the last number given; if no token `leavesOut`
any, the groups met are those up to it. -/
theorem foldlM_lastGroup {tokens : List Token} {s t : Reading} (h : tokens.foldlM step s = .ok t) :
    t.groupCount = s.groupCount + tokens.countP Token.opensNumbered ∧
    (s.lastGroup ≤ s.groupCount → t.lastGroup ≤ t.groupCount) ∧
    ((∀ token ∈ tokens, token.leavesOut = false) → s.lastGroup = s.groupCount →
      t.lastGroup = t.groupCount) := by
  induction tokens generalizing s with
  | nil =>
    cases h
    exact ⟨rfl, id, fun _ => id⟩
  | cons token tokens ih =>
    rw [List.foldlM_cons] at h
    cases hstep : s.step token with
    | error e => rw [hstep] at h; cases h
    | ok u =>
      rw [hstep] at h
      obtain ⟨hcount, hle, heq⟩ := counts_of_step hstep
      obtain ⟨htotal, hles, heqs⟩ := ih h
      refine ⟨?_, fun hs => hles (by omega), fun hkept hs => ?_⟩
      · rw [htotal, hcount, List.countP_cons]
        omega
      · refine heqs (fun later hlater => hkept later (List.mem_cons_of_mem _ hlater)) ?_
        rw [heq (hkept token List.mem_cons_self)]
        split at hcount <;> split <;> omega

end Reading

/-- `assemble` gives a pattern with at most as many groups as its tokens open, and as many if none
of them `leavesOut` any. -/
theorem lastGroup_of_assemble {tokens : List Token} {r : Read} (h : assemble tokens = .ok r) :
    r.pattern.lastGroup ≤ tokens.countP Token.opensNumbered ∧
    ((∀ token ∈ tokens, token.leavesOut = false) →
      r.pattern.lastGroup = tokens.countP Token.opensNumbered) := by
  rw [assemble] at h
  cases hs : tokens.foldlM Reading.step Reading.start with
  | error e => rw [hs] at h; cases h
  | ok s =>
    simp only [hs, bind, Except.bind] at h
    split at h
    · rename_i houter
      cases h
      obtain ⟨hcount, hle, heq⟩ := Reading.foldlM_lastGroup hs
      have hstart : Reading.start.groupCount = 0 := rfl
      have hlast : s.inner.toPattern.marked.lastGroup = s.lastGroup := by
        rw [marked, lastGroup_markedFrom, OpenGroup.lastGroup_toPattern, Reading.lastGroup, houter,
          List.map_nil, List.foldr_nil, Nat.max_zero]
      rw [hlast, ← Nat.zero_add (tokens.countP _), ← hstart, ← hcount]
      exact ⟨hle (Nat.le_refl _), fun hkept => heq hkept rfl⟩
    · cases h

/-! ## Matching -/

theorem Matches.le_lastGroup {p : Pattern} {b : Option Char} {w a x : List Char}
    {g : List (Nat × List Char)} {index : Nat}
    (h : p.Matches b w a g) (hx : (index, x) ∈ g) : index ≤ p.lastGroup := by
  induction h with
  | empty | atom | edge | stop => cases hx
  | seq _ _ ih₁ ih₂ =>
    rcases List.mem_append.1 hx with hx | hx
    · exact Nat.le_trans (ih₂ hx) (Nat.le_max_right ..)
    · exact Nat.le_trans (ih₁ hx) (Nat.le_max_left ..)
  | left _ ih => exact Nat.le_trans (ih hx) (Nat.le_max_left ..)
  | right _ ih => exact Nat.le_trans (ih hx) (Nat.le_max_right ..)
  | more _ _ ih₁ ih₂ | plus _ _ ih₁ ih₂ => exact (List.mem_append.1 hx).elim ih₂ ih₁
  | group _ ih =>
    rcases List.mem_cons.1 hx with heq | hx
    · rw [(Prod.mk.inj heq).1]
      exact Nat.le_max_left ..
    · exact Nat.le_trans (ih hx) (Nat.le_max_right ..)

end UiSkeleton.Pattern
