/-
Paths by the names that count. The steps of a path are its names without the idle ones. Joining a
relative path adds its steps, and a path above another one starts alike and has the first of its
steps, so everything that is said of a way can be said of its steps.
-/
import UiSkeleton.OutputLayout
import UiSkeleton.Proofs.Text.Lines

namespace UiSkeleton.Path

/-- The names of a path that count. -/
def steps (p : Path) : List (List Char) := p.names.filter fun name => !isIdle name

theorem names_eq_splitOn (p : Path) : p.names = p.chars.splitOn '/' := by
  rw [names, Text.cutWhere_eq_splitOnP, List.splitOn_eq_splitOnP]

theorem slash_not_mem_names {p : Path} {name : List Char} (h : name ∈ p.names) : '/' ∉ name := by
  rw [names_eq_splitOn] at h
  exact Text.not_mem_of_mem_splitOn h

theorem names_ofNames {names : List (List Char)} (hne : names ≠ []) (h : ∀ name ∈ names, '/' ∉ name) :
    (ofNames names).names = names := by
  rw [names_eq_splitOn]
  exact List.splitOn_intercalate '/' h hne

theorem steps_of_chars {p : Path} (h : p.chars = []) : p.steps = [] := by
  rw [steps, names, h]
  rfl

/-! ## Joining -/

theorem isAbsolute_join {p q : Path} (h : q.isAbsolute = false) : (p.join q).isAbsolute = p.isAbsolute := by
  rw [join, if_neg (by simp [h])]
  split
  · rename_i hp
    rcases p with ⟨cs⟩
    cases cs with
    | nil => exact h
    | cons c cs => rfl
  · rename_i hp
    rcases p with ⟨cs⟩
    cases cs with
    | nil => simp at hp
    | cons c cs => rfl

/-- Joining a relative path adds its `steps`. -/
theorem steps_join {p q : Path} (h : q.isAbsolute = false) : (p.join q).steps = p.steps ++ q.steps := by
  rw [join, if_neg (by simp [h])]
  simp only [steps, names_eq_splitOn]
  split
  · rename_i hp
    rcases Bool.or_eq_true_iff.1 hp with hempty | hslash
    · rw [List.isEmpty_iff.1 hempty]
      rfl
    · obtain ⟨cs, hcs⟩ := List.getLast?_eq_some_iff.1 (beq_iff_eq.1 hslash)
      rw [hcs, List.append_assoc, List.singleton_append, List.splitOn_append_cons_self,
        List.splitOn_append_cons_self, List.filter_append, List.filter_append, List.splitOn_nil]
      simp [isIdle]
  · rw [List.splitOn_append_cons_self, List.filter_append]

/-! ## Paths above -/

theorem isAbsolute_iff {p : Path} {first : List Char}
    {more : List (List Char)} (h : p.names = first :: more) :
    p.isAbsolute = true ↔ first = [] ∧ more ≠ [] := by
  rcases p with ⟨cs⟩
  rw [names_eq_splitOn] at h
  cases cs with
  | nil =>
    cases h
    simp [isAbsolute]
  | cons c cs =>
    have hne := List.splitOn_ne_nil '/' cs
    rw [List.splitOn_cons_eq_if_modifyHead] at h
    split at h
    · rename_i hc
      cases h
      simpa [isAbsolute, hne] using hc
    · rename_i hc
      obtain ⟨piece, pieces, hpieces⟩ := List.exists_cons_of_ne_nil hne
      rw [hpieces] at h
      cases h
      simpa [isAbsolute] using hc

theorem isPrefix_dropIdleEnd (names : List (List Char)) : dropIdleEnd names <+: names := by
  rw [dropIdleEnd, ← List.reverse_suffix, List.reverse_reverse]
  exact List.dropWhile_suffix _

/-- One path starts as the other one does and has the first of its steps. -/
def Above (q p : Path) : Prop := q.isAbsolute = p.isAbsolute ∧ q.steps <+: p.steps

theorem Above.refl (p : Path) : p.Above p := ⟨rfl, List.prefix_rfl⟩

theorem Above.trans {p q r : Path} (hpq : p.Above q) (hqr : q.Above r) : p.Above r :=
  ⟨hpq.1.trans hqr.1, hpq.2.trans hqr.2⟩

theorem names_ofNames_kept {p : Path} {first : List Char} {more kept : List (List Char)}
    (hnames : p.names = first :: more) (hkept : kept <+: more) :
    (ofNames (first :: kept)).names = first :: kept := by
  refine names_ofNames (by simp) fun name hname => ?_
  refine slash_not_mem_names (p := p) ?_
  rw [hnames]
  exact (List.cons_prefix_cons.2 ⟨rfl, hkept⟩).subset hname

theorem isPrefix_above (more : List (List Char)) : dropIdleEnd (dropIdleEnd more).dropLast <+: more :=
  (isPrefix_dropIdleEnd _).trans ((List.dropLast_prefix (dropIdleEnd more)).trans (isPrefix_dropIdleEnd _))

theorem above_of_parent? {p q : Path} (h : p.parent? = some q) : q.Above p := by
  unfold parent? at h
  split at h
  · cases h
  · rename_i first more hnames
    have habsolute := isAbsolute_iff hnames
    split at h
    · split at h
      · cases h
      · rename_i hfirst
        cases h
        have hp : p.isAbsolute = false := by
          rw [Bool.eq_false_iff, Ne, habsolute]
          rintro ⟨rfl, -⟩
          exact hfirst rfl
        exact ⟨hp.symm, List.nil_prefix⟩
    · rename_i hkept
      have hmore : more ≠ [] := by
        rintro rfl
        exact hkept rfl
      simp only at h
      split at h
      · rename_i hroot
        cases h
        have hp : p.isAbsolute = true := habsolute.2 ⟨by simpa using (Bool.and_eq_true_iff.1 hroot).1, hmore⟩
        exact ⟨hp.symm, List.nil_prefix⟩
      · rename_i hroot
        cases h
        have hq := names_ofNames_kept hnames (isPrefix_above more)
        constructor
        · rw [Bool.eq_iff_iff, isAbsolute_iff hq, habsolute]
          refine and_congr_right fun hfirst => ⟨fun _ => hmore, fun _ habove => hroot ?_⟩
          rw [hfirst, habove]
          rfl
        · rw [steps, steps, hq, hnames]
          exact ((List.cons_prefix_cons.2 ⟨rfl, isPrefix_above more⟩)).filter _

theorem above_of_mem_above {p q : Path} {count : Nat} (h : q ∈ p.above count) : q.Above p := by
  induction count generalizing p with
  | zero => simp [above] at h
  | succ count ih =>
    rw [above] at h
    split at h
    · simp at h
    · rename_i parent hparent
      rcases List.mem_cons.1 h with rfl | h
      · exact above_of_parent? hparent
      · exact (ih h).trans (above_of_parent? hparent)

theorem above_of_mem_ancestors {p q : Path} (h : q ∈ p :: p.ancestors) : q.Above p := by
  rcases List.mem_cons.1 h with rfl | h
  · exact Above.refl _
  · exact above_of_mem_above h

/-- A parent has no parent, or fewer `names`. -/
theorem shorter_of_parent? {p q : Path} (h : p.parent? = some q) :
    q.parent? = none ∨ q.names.length < p.names.length := by
  unfold parent? at h
  split at h
  · cases h
  · rename_i first more hnames
    split at h
    · split at h
      · cases h
      · cases h
        exact .inl (by decide)
    · rename_i hkept
      simp only at h
      split at h
      · cases h
        exact .inl (by decide)
      · cases h
        -- the last of the names that count is left out, so there is one name less at least
        have hpos : 0 < (dropIdleEnd more).length := List.length_pos_iff.2 hkept
        have hlength : (dropIdleEnd more).length ≤ more.length := (isPrefix_dropIdleEnd more).length_le
        have habove := (isPrefix_dropIdleEnd (dropIdleEnd more).dropLast).length_le
        rw [List.length_dropLast] at habove
        right
        rw [names_ofNames_kept hnames (isPrefix_above more), hnames, List.length_cons, List.length_cons]
        omega

theorem above_of_parent?_eq_none {p : Path} (h : p.parent? = none) (count : Nat) : p.above count = [] := by
  cases count with
  | zero => rfl
  | succ count => rw [above, h]

theorem names_ne_nil (p : Path) : p.names ≠ [] := by
  rw [names_eq_splitOn]
  exact List.splitOn_ne_nil _ _

/-- A path has no more paths above it than `names`, so `above` finds no more with more tries. -/
theorem above_eq_above {p : Path} {m n : Nat} (hm : p.names.length ≤ m) (hn : p.names.length ≤ n) :
    p.above m = p.above n := by
  induction m generalizing p n with
  | zero => exact absurd (List.length_eq_zero_iff.1 (Nat.le_zero.1 hm)) p.names_ne_nil
  | succ m ih =>
    cases n with
    | zero => exact absurd (List.length_eq_zero_iff.1 (Nat.le_zero.1 hn)) p.names_ne_nil
    | succ n =>
      rw [above, above]
      cases hparent : p.parent? with
      | none => rfl
      | some q =>
        refine congrArg (q :: ·) ?_
        rcases shorter_of_parent? hparent with hnone | hshorter
        · rw [above_of_parent?_eq_none hnone, above_of_parent?_eq_none hnone]
        · exact ih (Nat.le_of_lt_succ (Nat.lt_of_lt_of_le hshorter hm))
            (Nat.le_of_lt_succ (Nat.lt_of_lt_of_le hshorter hn))

/-- **The `ancestors` of a path** are its parent and the ancestors of that. -/
theorem ancestors_of_parent? {p q : Path} (h : p.parent? = some q) : p.ancestors = q :: q.ancestors := by
  obtain ⟨count, hcount⟩ :=
    Nat.exists_eq_succ_of_ne_zero (Nat.ne_of_gt (List.length_pos_iff.2 p.names_ne_nil))
  rw [ancestors, hcount, above, h]
  refine congrArg (q :: ·) ?_
  rcases shorter_of_parent? h with hnone | hshorter
  · rw [ancestors, above_of_parent?_eq_none hnone, above_of_parent?_eq_none hnone]
  · exact above_eq_above (Nat.le_of_lt_succ (hcount ▸ hshorter)) (Nat.le_refl _)

/-! ## Names of entries -/

/-- A name that leads to an entry of a directory. -/
structure IsEntry (name : List Char) : Prop where
  slash : '/' ∉ name
  idle : isIdle name = false
  up : name ≠ ['.', '.']

theorem IsEntry.names {name : List Char} (h : IsEntry name) : (Path.mk name).names = [name] := by
  rw [names_eq_splitOn]
  exact List.splitOn_eq_singleton h.slash

theorem IsEntry.steps {name : List Char} (h : IsEntry name) : (Path.mk name).steps = [name] := by
  simp [Path.steps, h.names, h.idle]

theorem IsEntry.isAbsolute {name : List Char} (h : IsEntry name) : (Path.mk name).isAbsolute = false := by
  rw [Bool.eq_false_iff, Ne, isAbsolute_iff h.names]
  simp

theorem isEntry_of_fileName? {p : Path} {name : List Char} (h : p.fileName? = some name) : IsEntry name := by
  rw [fileName?, Option.filter_eq_some_iff] at h
  obtain ⟨hlast, hup⟩ := h
  have hmem : name ∈ p.names := (isPrefix_dropIdleEnd _).subset (List.mem_of_getLast? hlast)
  refine ⟨slash_not_mem_names hmem, ?_, by simpa using hup⟩
  rw [dropIdleEnd, List.getLast?_reverse] at hlast
  have hidle := List.head?_dropWhile_not isIdle p.names.reverse
  rwa [hlast] at hidle

end UiSkeleton.Path
