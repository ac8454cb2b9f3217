/-
How many pixels an argument stands for: the integer part of the number that it reads as, if that
number is finite and possible. All possible numbers fit in the bits of a floating point number, so
that their decimal texts give them back.
-/
import Mathlib.Algebra.Order.Floor.Semifield
import UiSkeleton.Analysis
import UiSkeleton.Proofs.Number.Value
import UiSkeleton.Proofs.Text.Blank

namespace UiSkeleton.WindowSize

/-- The integer part of a value that is a possible number of pixels. -/
def whole? (value : ℚ) : Option Nat := if 0 ≤ value ∧ value ≤ maxPixels then some ⌊value⌋₊ else none

theorem whole?_div {num den : Nat} (hden : 0 < den) :
    whole? (num / den) = if maxPixels * den < num then none else some (num / den) := by
  have hmax : (maxPixels : ℚ) < num / den ↔ maxPixels * den < num := by
    rw [lt_div_iff₀ (by exact_mod_cast hden)]
    exact_mod_cast Iff.rfl
  have hnonneg : (0 : ℚ) ≤ num / den := by positivity
  unfold whole?
  by_cases h : maxPixels * den < num
  · rw [if_pos h, if_neg fun hle => not_le.2 (hmax.2 h) hle.2]
  · rw [if_neg h, if_pos ⟨hnonneg, not_lt.1 (hmax.not.2 h)⟩, Nat.floor_div_eq_div]

/-- **`pixels?` is the integer part of the number that an argument reads as.** -/
theorem pixels?_eq (argument : List Char) :
    pixels? argument = ((Binary64.read? (Text.trim argument)).bind Binary64.value?).bind whole? := by
  unfold pixels?
  cases Binary64.read? (Text.trim argument) with
  | none => rfl
  | some x =>
    cases x with
    | nan => rfl
    | infinite negative => rfl
    | finite negative mantissa exponent =>
      have hden := (Binary64.quotient_eq mantissa exponent).1
      by_cases hsign : negative = true ∧ mantissa ≠ 0
      · obtain ⟨rfl, hmantissa⟩ := hsign
        obtain ⟨value, hbelow, hvalue⟩ := Binary64.value_of_neg exponent hmantissa
        have hnone : whole? value = none := if_neg fun hle => not_le.2 hbelow hle.1
        simp [hvalue, hnone, hmantissa]
      · have hfalse : (negative && mantissa != 0) = false := by simpa using hsign
        simp [Binary64.value_of_nonneg hsign, whole?_div hden, hfalse]

/-- The argument reads as a finite number of this value, which is a possible number of pixels. -/
def Measures (argument : List Char) (value : ℚ) : Prop :=
  (Binary64.read? (Text.trim argument)).bind Binary64.value? = some value ∧ 0 ≤ value ∧ value ≤ maxPixels

theorem pixels?_eq_some_iff {argument : List Char} {n : Nat} :
    pixels? argument = some n ↔ ∃ value, Measures argument value ∧ ⌊value⌋₊ = n := by
  rw [pixels?_eq, Option.bind_eq_some_iff]
  simp [whole?, Measures, and_assoc]

/-- Two arguments give a size together, or neither does. -/
theorem ofArguments?_cases {width height : List Char} :
    (∃ x y, Measures width x ∧ Measures height y ∧ (ofArguments? width height).getD usual = ⟨⌊x⌋₊, ⌊y⌋₊⟩) ∨
      (¬ ∃ x y, Measures width x ∧ Measures height y) ∧ (ofArguments? width height).getD usual = usual := by
  by_cases h : ∃ x y, Measures width x ∧ Measures height y
  · obtain ⟨x, y, hx, hy⟩ := h
    refine .inl ⟨x, y, hx, hy, ?_⟩
    rw [ofArguments?, pixels?_eq_some_iff.2 ⟨x, hx, rfl⟩, pixels?_eq_some_iff.2 ⟨y, hy, rfl⟩]
    rfl
  · refine .inr ⟨h, ?_⟩
    unfold ofArguments?
    split
    · rename_i hw hh
      obtain ⟨x, hx, -⟩ := pixels?_eq_some_iff.1 hw
      obtain ⟨y, hy, -⟩ := pixels?_eq_some_iff.1 hh
      exact absurd ⟨x, y, hx, hy⟩ h
    · rfl

/-- The argument is the decimal text of the number between blanks, perhaps with a point or with a
point and a zero. -/
def Spells (n : Nat) (argument : List Char) : Prop :=
  ∃ front point back, argument = front ++ (Nat.toDigits 10 n ++ point ++ back) ∧
    point ∈ ["".toList, ".".toList, ".0".toList] ∧
    ∀ c ∈ front ++ back, Text.isBlank c = true

/-- **What `Spells` a number of pixels gives it back**, up to `maxPixels`. -/
theorem pixels?_of_spells {n : Nat} {argument : List Char} (h : Spells n argument) (hn : n ≤ maxPixels) :
    pixels? argument = some n := by
  obtain ⟨front, point, back, rfl, hpoint, hblank⟩ := h
  have htext : ∀ c ∈ Nat.toDigits 10 n ++ point, Text.isBlank c = false := by
    intro c hc
    rcases List.mem_append.1 hc with hc | hc
    · exact Text.isBlank_of_isDigit (Nat.isDigit_of_mem_toDigits (by decide) (by decide) hc)
    · have hpoints : ["".toList, ".".toList, ".0".toList].all
          (fun point => point.all fun c => !Text.isBlank c) = true := by decide
      simpa using List.all_eq_true.1 (List.all_eq_true.1 hpoints point hpoint) c hc
  have htrim : Text.trim (front ++ (Nat.toDigits 10 n ++ point ++ back)) = Nat.toDigits 10 n ++ point :=
    Text.trim_append_blanks (fun c hc => hblank c (List.mem_append_left _ hc)) htext
      (fun c hc => hblank c (List.mem_append_right _ hc))
  have hbits : n < 2 ^ 53 := Nat.lt_of_le_of_lt hn (by decide)
  have hread := Binary64.value_read?_toDigits hbits hpoint
  rw [← htrim] at hread
  exact pixels?_eq_some_iff.2 ⟨n, ⟨hread, by positivity, by exact_mod_cast hn⟩, Nat.floor_natCast n⟩

end UiSkeleton.WindowSize
