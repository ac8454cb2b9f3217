/-
Repetitions that go on as long as they can. Where a pattern ends with a repetition of a class, and
this one prefers to go on, an occurrence ends where the text does or before a character outside the
class (`exists_of_matchAt_greedy`): the one fact about the order of the search that the ways do not
tell.
-/
import UiSkeleton.Proofs.Pattern.Matches

namespace UiSkeleton.Pattern

/-- Whether the pattern ends with a repetition of the class that prefers to go on. -/
def endsGreedily (charClass : CharClass) : Pattern → Bool
  | .star none false (.atom other) | .plus none false (.atom other) => other == charClass
  | .seq _ second => second.endsGreedily charClass
  | _ => false

variable {p : Pattern} {charClass : CharClass}

/-- The loop stops where it can read no more. -/
theorem not_contains_of_loop : ∀ {visits : Nat} {s t : Cursor}, s.rest.length < visits →
    loop (Pattern.atom charClass).run none false visits s some = some t → ∀ c ∈ t.rest.head?,
      charClass.contains c = false
  | visits + 1, s, t, hvisits, h => by
    have hloop : loop (Pattern.atom charClass).run none false (visits + 1) s some =
        ((Pattern.atom charClass).run s fun u => loop (Pattern.atom charClass).run none false visits
          u some).orElse
          fun _ => some s := rfl
    rw [hloop, run] at h
    split at h
    · rename_i hrest
      cases h
      simp [hrest]
    · rename_i c r hrest
      rw [hrest, List.length_cons, Nat.add_lt_add_iff_right] at hvisits
      split at h
      · -- one more character can be read, and then the loop ends some way
        have hmore : (loop (Pattern.atom charClass).run none false visits (s.read c r) some).isSome = true :=
          isSome_loop rfl (isSome_run rfl) (.stop rfl) hvisits rfl
        obtain ⟨u, hu⟩ := Option.isSome_iff_exists.1 hmore
        rw [hu] at h
        cases h
        exact not_contains_of_loop hvisits hu
      · rename_i hc
        cases h
        simpa [hrest] using hc

theorem not_contains_of_run (hp : p.endsGreedily charClass = true) {s t : Cursor}
    (h : p.run s some = some t) : ∀ c ∈ t.rest.head?, charClass.contains c = false := by
  fun_induction endsGreedily charClass p generalizing s t with
  | case1 other =>
    rw [← beq_iff_eq.1 hp]
    exact not_contains_of_loop (Nat.lt_succ_self _) h
  | case2 other =>
    rw [run] at h
    obtain ⟨u, -, hloop⟩ := run_sound h
    rw [← beq_iff_eq.1 hp]
    exact not_contains_of_loop (Nat.lt_succ_self _) hloop
  | case3 first second ih =>
    rw [run] at h
    obtain ⟨u, -, hsecond⟩ := run_sound h
    exact ih hp hsecond
  | case4 => cases hp

/-- **A pattern that `endsGreedily` takes all that it can** at its end. -/
theorem exists_of_matchAt_greedy (hp : p.endsGreedily charClass = true) {before : Option Char}
    {rest : List Char}
    {o : Occurrence} (h : p.matchAt before rest = some o) : ∃ after, rest = o.text ++ after ∧
      p.Matches before o.text after o.groups ∧ ∀ c ∈ after.head?, charClass.contains c = false := by
  obtain ⟨t, hrun, -, hreads, -⟩ := way_of_matchAt h
  obtain ⟨after, hrest, hmatches⟩ := matches_of_matchAt h
  have hafter : after = t.rest := List.append_cancel_left (hrest.symm.trans hreads.rest)
  exact ⟨after, hrest, hmatches, hafter ▸ not_contains_of_run hp hrun⟩

end UiSkeleton.Pattern
