/-
Ways through a pattern, whichever of them the search prefers. The search finds nothing but ways
(`run_sound`), and a way reads a stretch of the text; so what holds of every way through a pattern
holds of each of its occurrences, without a look at the order in which the search tries them.
-/
import UiSkeleton.Pattern.Search

namespace UiSkeleton

/-- `t` is a cursor that has read `w` since `s`. -/
structure Cursor.Reads (s : Cursor) (w : List Char) (t : Cursor) : Prop where
  rest : s.rest = w ++ t.rest
  place : t.place = s.place + w.length

theorem Cursor.Reads.refl {s : Cursor} : s.Reads [] s := ⟨rfl, rfl⟩

theorem Cursor.Reads.trans {s t u : Cursor} {w x : List Char} (h₁ : s.Reads w t) (h₂ : t.Reads x u) :
    s.Reads (w ++ x) u :=
  ⟨by rw [h₁.rest, h₂.rest, List.append_assoc], by rw [h₂.place, h₁.place, List.length_append, Nat.add_assoc]⟩

/-- Entering a choice only changes the marks. -/
theorem Cursor.eq_of_enter {s t : Cursor} {mark : Option Nat} (h : s.enter mark = some t) :
    ∃ marks, t = { s with entered := marks } := by
  cases mark with
  | none => cases h; exact ⟨_, rfl⟩
  | some mark =>
    rw [enter] at h
    split at h
    · cases h
    · cases h; exact ⟨_, rfl⟩

namespace Pattern

/-- A way through a pattern from one cursor to another. -/
inductive Way : Pattern → Cursor → Cursor → Prop
  | empty {s} : Way .empty s s
  | atom {charClass s c r} : s.rest = c :: r → charClass.contains c = true →
      Way (.atom charClass) s (s.read c r)
  | edge {condition s} : condition.holds s = true → Way (.edge condition) s s
  | seq {p q s t u} : Way p s t → Way q t u → Way (.seq p q) s u
  | left {mark p q s s' t} : s.enter mark = some s' → Way p s' t → Way (.alt mark p q) s t
  | right {mark p q s s' t} : s.enter mark = some s' → Way q s' t → Way (.alt mark p q) s t
  | stop {mark isLazy p s t} : s.enter mark = some t → Way (.star mark isLazy p) s t
  | more {mark isLazy p s s' t u} : s.enter mark = some s' → Way p s' t → Way (.star mark isLazy p) t u →
      Way (.star mark isLazy p) s u
  | plus {mark isLazy p s t u} : Way p s t → Way (.star mark isLazy p) t u → Way (.plus mark isLazy p) s u
  | group {index p s t} : Way p s t → Way (.group index p) s (t.close index s.place)

theorem loop_sound {p : Pattern} {mark : Option Nat} {isLazy : Bool}
    (hbody : ∀ {s k u}, p.run s k = some u → ∃ t, Way p s t ∧ k t = some u) :
    ∀ {visits s k u}, loop p.run mark isLazy visits s k = some u →
      ∃ t, Way (.star mark isLazy p) s t ∧ k t = some u := by
  intro visits
  induction visits with
  | zero => intro s k u h; cases h
  | succ visits ih =>
    intro s k u h
    rw [loop] at h
    split at h
    · cases h
    · rename_i s' hs
      have stop : k s' = some u → ∃ t, Way (.star mark isLazy p) s t ∧ k t = some u := fun hk =>
        ⟨s', .stop hs, hk⟩
      have more : (p.run s' fun t => loop p.run mark isLazy visits t k) = some u →
          ∃ t, Way (.star mark isLazy p) s t ∧ k t = some u := fun hm => by
        obtain ⟨t, hway, hloop⟩ := hbody hm
        obtain ⟨t', hstar, hk⟩ := ih hloop
        exact ⟨t', .more hs hway hstar, hk⟩
      cases isLazy with
      | true =>
        rw [if_pos rfl, Option.orElse_eq_or, Option.or_eq_some_iff] at h
        exact h.elim stop fun h => more h.2
      | false =>
        rw [if_neg Bool.false_ne_true, Option.orElse_eq_or, Option.or_eq_some_iff] at h
        exact h.elim more fun h => stop h.2

/-- **The search finds nothing but ways.** -/
theorem run_sound {p : Pattern} {s u : Cursor} {k : Cursor → Option Cursor} (h : p.run s k = some u) :
    ∃ t, Way p s t ∧ k t = some u := by
  induction p generalizing s u k with
  | empty => exact ⟨s, .empty, h⟩
  | atom charClass =>
    rw [run] at h
    split at h
    · cases h
    · rename_i c r hrest
      split at h
      · rename_i hc; exact ⟨_, .atom hrest hc, h⟩
      · cases h
  | edge condition =>
    rw [run] at h
    split at h
    · rename_i hc; exact ⟨s, .edge hc, h⟩
    · cases h
  | seq first second ih₁ ih₂ =>
    obtain ⟨t, hfirst, h⟩ := ih₁ h
    obtain ⟨t', hsecond, h⟩ := ih₂ h
    exact ⟨t', .seq hfirst hsecond, h⟩
  | alt mark left right ih₁ ih₂ =>
    rw [run] at h
    split at h
    · cases h
    · rename_i s' hs
      rw [Option.orElse_eq_or, Option.or_eq_some_iff] at h
      rcases h with h | ⟨-, h⟩
      · obtain ⟨t, hway, h⟩ := ih₁ h; exact ⟨t, .left hs hway, h⟩
      · obtain ⟨t, hway, h⟩ := ih₂ h; exact ⟨t, .right hs hway, h⟩
  | star mark isLazy body ih => exact loop_sound ih h
  | plus mark isLazy body ih =>
    obtain ⟨t, hway, h⟩ := ih h
    obtain ⟨t', hstar, h⟩ := loop_sound ih h
    exact ⟨t', .plus hway hstar, h⟩
  | group index body ih =>
    obtain ⟨t, hway, h⟩ := ih h
    exact ⟨_, .group hway, h⟩

/-- A `Way` reads a stretch of the text, and more than nothing if the pattern is not `nullable`. -/
theorem Way.reads {p : Pattern} {s t : Cursor} (h : Way p s t) :
    ∃ w, s.Reads w t ∧ (p.nullable = false → w ≠ []) := by
  induction h with
  | empty | edge => exact ⟨[], .refl, by simp [nullable]⟩
  | @atom _ s c r hrest _ => exact ⟨[c], ⟨hrest, rfl⟩, by simp⟩
  | seq _ _ ih₁ ih₂ =>
    obtain ⟨w, hw, hw'⟩ := ih₁
    obtain ⟨x, hx, hx'⟩ := ih₂
    refine ⟨w ++ x, hw.trans hx, fun hn => ?_⟩
    rw [nullable, Bool.and_eq_false_iff] at hn
    rcases hn with hn | hn
    · simp [hw' hn]
    · simp [hx' hn]
  | left hs _ ih =>
    obtain ⟨_, rfl⟩ := Cursor.eq_of_enter hs
    obtain ⟨w, hw, hw'⟩ := ih
    exact ⟨w, ⟨hw.rest, hw.place⟩, fun hn => hw' (Bool.or_eq_false_iff.1 hn).1⟩
  | right hs _ ih =>
    obtain ⟨_, rfl⟩ := Cursor.eq_of_enter hs
    obtain ⟨w, hw, hw'⟩ := ih
    exact ⟨w, ⟨hw.rest, hw.place⟩, fun hn => hw' (Bool.or_eq_false_iff.1 hn).2⟩
  | stop hs =>
    obtain ⟨_, rfl⟩ := Cursor.eq_of_enter hs
    exact ⟨[], ⟨rfl, rfl⟩, by simp [nullable]⟩
  | more hs _ _ ih₁ ih₂ =>
    obtain ⟨_, rfl⟩ := Cursor.eq_of_enter hs
    obtain ⟨w, hw, -⟩ := ih₁
    obtain ⟨x, hx, -⟩ := ih₂
    have hwx := hw.trans hx
    exact ⟨w ++ x, ⟨hwx.rest, hwx.place⟩, by simp [nullable]⟩
  | plus _ _ ih₁ ih₂ =>
    obtain ⟨w, hw, hw'⟩ := ih₁
    obtain ⟨x, hx, -⟩ := ih₂
    exact ⟨w ++ x, hw.trans hx, fun hn => by simp [hw' hn]⟩
  | group _ ih =>
    obtain ⟨w, hw, hw'⟩ := ih
    exact ⟨w, ⟨hw.rest, hw.place⟩, hw'⟩

/-- An `Occurrence` is a `Way` from its start, with the texts that the way reads. -/
theorem way_of_matchAt {p : Pattern} {before : Option Char} {rest : List Char} {o : Occurrence}
    (h : p.matchAt before rest = some o) :
    ∃ t, p.run (.start before rest) some = some t ∧ Way p (.start before rest) t ∧
      (Cursor.start before rest).Reads o.text t ∧
      o.groups = t.groups.map fun entry =>
        (entry.1, (rest.drop entry.2.start).take (entry.2.stop - entry.2.start)) := by
  rw [matchAt, Option.map_eq_some_iff] at h
  obtain ⟨t, hrun, rfl⟩ := h
  obtain ⟨u, hway, hu⟩ := run_sound hrun
  cases hu
  obtain ⟨w, hw, -⟩ := hway.reads
  have htext : rest.take t.place = w := by
    have hrest : rest = w ++ t.rest := hw.rest
    rw [hrest, hw.place]
    simp [Cursor.start]
  exact ⟨t, hrun, hway, htext ▸ hw, rfl⟩

end Pattern
end UiSkeleton
