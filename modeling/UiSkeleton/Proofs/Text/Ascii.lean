/-
ASCII. Letters, digits and digits of base sixteen lie within it, so what these classes are closed
under can be checked character by character, and case is simple there. The few blanks beyond ASCII
have no case and join no other character, so texts of ASCII and blanks are as simple (`isPlain`).
-/
import UiSkeleton.Text.Blank
import UiSkeleton.Text.Case

namespace UiSkeleton.Text

/-- What the first 128 characters have in common holds within ASCII. -/
theorem forall_ascii {p : Char → Bool} (h : (List.range 0x80).all (fun n => p (Char.ofNat n)) = true) :
    ∀ c : Char, c.toNat < 0x80 → p c = true := by
  intro c hc
  have hcode := List.all_eq_true.1 h c.toNat (List.mem_range.2 hc)
  rwa [Char.ofNat_toNat] at hcode

theorem isAlphanum_toNat {c : Char} (h : c.isAlphanum = true) : c.toNat < 0x80 := by
  have hplain : c.isAlphanum = (((decide (c.val ≥ 'A'.val ∧ c.val ≤ 'Z'.val)) ||
      decide (c.val ≥ 'a'.val) && decide (c.val ≤ 'z'.val)) || c.isDigit) := rfl
  have hvalue : c.toNat = c.val.toNat := rfl
  have hZ : 'Z'.val.toNat = 90 := rfl
  have hz : 'z'.val.toNat = 122 := rfl
  have hnine : '9'.val.toNat = 57 := rfl
  simp only [hplain, Char.isDigit, Bool.or_eq_true, Bool.and_eq_true, decide_eq_true_eq,
    UInt32.le_iff_toNat_le, ge_iff_le] at h
  omega

theorem isHexDigit_toNat {c : Char} (h : isHexDigit c = true) : c.toNat < 0x80 := by
  have hvalue : c.toNat = c.val.toNat := rfl
  have hf : 'f'.val.toNat = 102 := rfl
  have hF : 'F'.val.toNat = 70 := rfl
  have hnine : '9'.val.toNat = 57 := rfl
  simp only [isHexDigit, Char.isDigit, Bool.or_eq_true, Bool.and_eq_true, decide_eq_true_eq, Char.le_def,
    UInt32.le_iff_toNat_le, ge_iff_le] at h
  omega

theorem isAlphanum_case {c : Char} (h : c.isAlphanum = true) :
    c.toUpper.isAlphanum = true ∧ c.toLower.isAlphanum = true ∧
    c.toUpper.isLower = false ∧ c.toUpper.isAlpha = c.isAlpha := by
  have hcase : ∀ d : Char, d.toNat < 0x80 → (!d.isAlphanum || d.toUpper.isAlphanum && d.toLower.isAlphanum &&
      !d.toUpper.isLower && d.toUpper.isAlpha == d.isAlpha) = true := forall_ascii (by decide)
  simpa [h, and_assoc] using hcase c (isAlphanum_toNat h)

theorem isHexDigit_toLower {c : Char} (h : isHexDigit c = true) : isHexDigit c.toLower = true := by
  have hlower : ∀ d : Char, d.toNat < 0x80 → (!isHexDigit d || isHexDigit d.toLower) = true :=
    forall_ascii (by decide)
  simpa [h] using hlower c (isHexDigit_toNat h)

theorem isAlphanum_of_isHexDigit {c : Char} (h : isHexDigit c = true) : c.isAlphanum = true := by
  have hplain : ∀ d : Char, d.toNat < 0x80 → (!isHexDigit d || d.isAlphanum) = true :=
    forall_ascii (by decide)
  simpa [h] using hplain c (isHexDigit_toNat h)

theorem isBlank_of_isDigit {c : Char} (h : c.isDigit = true) : isBlank c = false := by
  have hascii : ∀ d : Char, d.toNat < 0x80 → (!d.isDigit || !isBlank d) = true := forall_ascii (by decide)
  simpa [h] using hascii c (isAlphanum_toNat (by simp [Char.isAlphanum, h]))

theorem not_mem_toDigits {c : Char} (h : c.isDigit = false) (n : Nat) : c ∉ Nat.toDigits 10 n := by
  intro hmem
  rw [Nat.isDigit_of_mem_toDigits (by decide) (by decide) hmem] at h
  cases h

/-! ## Plain characters -/

/-- The code points of the blanks beyond ASCII. -/
def wideBlanks : List Nat :=
  [0x85, 0xa0, 0x1680, 0x2000, 0x2001, 0x2002, 0x2003, 0x2004, 0x2005, 0x2006, 0x2007, 0x2008, 0x2009, 0x200a,
    0x2028, 0x2029, 0x202f, 0x205f, 0x3000]

theorem mem_wideBlanks {c : Char} (h : isBlank c = true) (hc : 0x80 ≤ c.toNat) : c.toNat ∈ wideBlanks := by
  simp only [isBlank, Bool.or_eq_true, Bool.and_eq_true, decide_eq_true_eq, beq_iff_eq] at h
  simp only [wideBlanks, List.mem_cons, List.not_mem_nil]
  omega

/-- The characters of ASCII and the blanks. -/
def isPlain (c : Char) : Bool := c.toNat < 0x80 || isBlank c

theorem toNat_of_isPlain {c : Char} (h : isPlain c = true) :
    c.toNat < 0x80 ∨ 0x80 ≤ c.toNat ∧ c.toNat ∈ wideBlanks := by
  by_cases hascii : c.toNat < 0x80
  · exact .inl hascii
  · simp only [isPlain, hascii, decide_false, Bool.false_or] at h
    have hwide : 0x80 ≤ c.toNat := Nat.not_lt.1 hascii
    exact .inr ⟨hwide, mem_wideBlanks h hwide⟩

/-- What ASCII and the `wideBlanks` have in common holds of all plain characters. -/
theorem forall_plain {p : Char → Bool}
    (h : (List.range 0x80 ++ wideBlanks).all (fun n => p (Char.ofNat n)) = true) :
    ∀ c : Char, isPlain c = true → p c = true := by
  intro c hc
  have hcode : c.toNat ∈ List.range 0x80 ++ wideBlanks := by
    rw [List.mem_append, List.mem_range]
    exact (toNat_of_isPlain hc).imp id And.right
  have hp := List.all_eq_true.1 h _ hcode
  rwa [Char.ofNat_toNat] at hp

theorem inRanges_eq_false {ranges : Array (Nat × Nat)} {n : Nat} (hn : n ∈ wideBlanks)
    (h : (wideBlanks.all fun n => ranges.toList.all fun range => !(range.1 ≤ n && n ≤ range.2)) = true) :
    inRanges ranges n = false := by
  have hranges := List.all_eq_true.1 (List.all_eq_true.1 h n hn)
  rw [inRanges, ← Array.any_toList, List.any_eq_false]
  intro range hrange
  have hout : n < range.1 ∨ range.2 < n := by simpa using hranges range hrange
  simp only [Bool.and_eq_true, decide_eq_true_eq]
  omega

theorem not_joins_of_isPlain {c : Char} (h : isPlain c = true) :
    joinsBefore c = false ∧ joinsAfter c = false := by
  rcases toNat_of_isPlain h with hascii | ⟨-, hwide⟩
  · simp [joinsBefore, joinsAfter, Nat.not_le.2 hascii]
  · rw [joinsBefore, joinsAfter, inRanges_eq_false hwide (by decide +kernel),
      inRanges_eq_false hwide (by decide +kernel)]
    simp

/-- A table gives a wide blank no form if it has neither a run nor an expansion for it. -/
theorem formIn_of_wideBlank {runs : Array (Nat × Nat × Nat × Int)}
    {expansions : Array (Nat × List Nat)} {c : Char} (hc : c.toNat ∈ wideBlanks)
    (h : (wideBlanks.all fun n => (expansions.toList.all fun expansion => expansion.1 != n) &&
      runs.toList.all fun run => !(run.1 ≤ n && n ≤ run.2.1)) = true) : formIn runs expansions c = [c] := by
  obtain ⟨hexpansions, hruns⟩ := Bool.and_eq_true_iff.1 (List.all_eq_true.1 h _ hc)
  have hexpansion : expansions.find? (·.1 == c.toNat) = none := by
    rw [Array.find?_eq_none]
    intro expansion hmem
    simpa using List.all_eq_true.1 hexpansions expansion hmem.val
  simp only [formIn, hexpansion]
  split
  · rename_i first last step distance hfound
    have hmem := Array.mem_of_find?_eq_some hfound
    have hcovers := Array.find?_some hfound
    have hout : c.toNat < first ∨ last < c.toNat := by simpa using List.all_eq_true.1 hruns _ hmem.val
    simp only [Bool.and_eq_true, decide_eq_true_eq] at hcovers
    omega
  · rfl

/-- The case of a plain character is that of ASCII. -/
theorem forms_of_isPlain {c : Char} (h : isPlain c = true) :
    upperForm c = [c.toUpper] ∧ lowerForm c = [c.toLower] ∧ c ≠ 'Σ' := by
  have hsigma : ∀ d : Char, isPlain d = true → (d != 'Σ') = true := forall_plain (by decide)
  refine and_assoc.1 ⟨?_, by simpa using hsigma c h⟩
  rcases toNat_of_isPlain h with hascii | ⟨hbeyond, hwide⟩
  · exact ⟨if_pos hascii, if_pos hascii⟩
  · have hcase : (wideBlanks.all fun n => (Char.ofNat n).toUpper == Char.ofNat n &&
        (Char.ofNat n).toLower == Char.ofNat n) =
        true := by decide
    obtain ⟨hupper, hlower⟩ : c.toUpper = c ∧ c.toLower = c := by
      simpa [Char.ofNat_toNat] using List.all_eq_true.1 hcase _ hwide
    rw [upperForm, lowerForm, if_neg (Nat.not_lt.2 hbeyond), if_neg (Nat.not_lt.2 hbeyond), hupper, hlower]
    exact ⟨formIn_of_wideBlank hwide (by decide +kernel), formIn_of_wideBlank hwide (by decide +kernel)⟩

/-- Plain characters stay plain in either case, and have each case once. -/
theorem isPlain_case {c : Char} (h : isPlain c = true) : isPlain c.toUpper = true ∧ isPlain c.toLower = true ∧
    c.toUpper.toUpper = c.toUpper ∧ c.toLower.toLower = c.toLower := by
  have hcase : ∀ d : Char, isPlain d = true → (isPlain d.toUpper && (isPlain d.toLower &&
      (d.toUpper.toUpper == d.toUpper && d.toLower.toLower == d.toLower))) = true :=
        forall_plain (by decide +kernel)
  simpa using hcase c h

theorem lowerAfter_plain {before cs : List Char} (h : ∀ c ∈ cs, isPlain c = true) :
    lowerAfter before cs = cs.map Char.toLower := by
  induction cs generalizing before with
  | nil => rfl
  | cons c r ih =>
    obtain ⟨-, hlower, hsigma⟩ := forms_of_isPlain (h c List.mem_cons_self)
    simp only [lowerAfter, if_neg hsigma, hlower]
    rw [ih fun d hd => h d (List.mem_cons_of_mem _ hd)]
    rfl

end UiSkeleton.Text
