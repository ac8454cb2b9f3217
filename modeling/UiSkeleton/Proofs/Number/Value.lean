/-
The values of floating point numbers, and the whole numbers that are read without a loss. A quotient
stands for the value of a number; and a whole number below two to the power 53 is its own nearest
number, so the decimal text of one reads as it stands, also with a point or a point and a zero
behind it.
-/
import Mathlib.Data.Rat.Floor
import UiSkeleton.Number.Decimal
import UiSkeleton.Proofs.Text.Ascii

namespace UiSkeleton.Binary64

/-- The value of a finite number. -/
def value? : Binary64 → Option ℚ
  | .finite negative mantissa exponent => some ((if negative then -1 else 1) * (mantissa * 2 ^ exponent))
  | _ => none

theorem powerOfTwo_natCast (n : Nat) : powerOfTwo n = (2 ^ n, 1) := by
  simp [powerOfTwo]

theorem powerOfTwo_neg (n : Nat) : powerOfTwo (-n) = (1, 2 ^ n) := by
  unfold powerOfTwo
  split
  · obtain rfl : n = 0 := by omega
    rfl
  · simp

theorem quotient_eq (mantissa : Nat) (exponent : Int) : 0 < (quotient mantissa exponent).2 ∧
    ((quotient mantissa exponent).1 : ℚ) / (quotient mantissa exponent).2 = mantissa * 2 ^ exponent := by
  unfold quotient
  obtain ⟨n, rfl | rfl⟩ := Int.eq_nat_or_neg exponent
  · rw [powerOfTwo_natCast]
    simp
  · rw [powerOfTwo_neg]
    simp [div_eq_mul_inv]

theorem value_of_nonneg {negative : Bool} {mantissa : Nat} {exponent : Int}
    (h : ¬ (negative = true ∧ mantissa ≠ 0)) :
    (finite negative mantissa exponent).value? =
      some (((quotient mantissa exponent).1 : ℚ) / (quotient mantissa exponent).2) := by
  rw [(quotient_eq mantissa exponent).2, value?]
  cases negative <;> simp_all

theorem value_of_neg {mantissa : Nat} (exponent : Int) (h : mantissa ≠ 0) :
    ∃ value < 0, (finite true mantissa exponent).value? = some value := by
  have hmantissa : (0 : ℚ) < mantissa := by exact_mod_cast Nat.pos_of_ne_zero h
  have hpos : (0 : ℚ) < mantissa * 2 ^ exponent := mul_pos hmantissa (zpow_pos two_pos exponent)
  exact ⟨_, by rw [if_pos rfl]; linarith, rfl⟩

/-! ## Whole numbers -/

theorem divNearestEven_mul (n : Nat) {den : Nat} (h : 0 < den) : divNearestEven (n * den) den = n := by
  simp [divNearestEven, Nat.mul_div_cancel n h, h]

/-- A whole number of at most 53 bits keeps all its bits. -/
theorem lastBit_nonpos {n den : Nat} (hpos : 0 < n) (hn : n < 2 ^ 53) (hden : 0 < den) :
    lastBit (n * den) den ≤ 0 := by
  have hnum : n * den ≠ 0 := Nat.mul_ne_zero (Nat.ne_of_gt hpos) (Nat.ne_of_gt hden)
  have hlog : (n * den).log2 < 53 + (den.log2 + 1) := by
    rw [Nat.log2_lt hnum, Nat.pow_add]
    exact Nat.mul_lt_mul'' hn Nat.lt_log2_self
  have hguess : ((n * den).log2 : Int) - den.log2 ≤ 53 := by omega
  unfold lastBit
  generalize ((n * den).log2 : Int) - den.log2 = guess at hguess
  change max minExponent
    ((if den * (powerOfTwo guess).1 ≤ n * den * (powerOfTwo guess).2 then guess else guess - 1) - 52) ≤ 0
  refine max_le (by decide) ?_
  by_cases h : guess = 53
  · -- the guess is one too high, since the number is below its power of two
    have hlow : ¬ den * 2 ^ 53 ≤ n * den := by
      rw [Nat.mul_comm, Nat.not_le]
      exact Nat.mul_lt_mul_of_pos_right hn hden
    have hpower : powerOfTwo guess = (2 ^ 53, 1) := h ▸ powerOfTwo_natCast 53
    rw [hpower, Nat.mul_one, if_neg hlow]
    omega
  · split <;> omega

/-- **A whole number of at most 53 bits is its own `nearest`**, however it is written as a
quotient. -/
theorem value_nearest {n den : Nat} (hn : n < 2 ^ 53) (hden : 0 < den) :
    (nearest false (n * den) den).value? = some (n : ℚ) := by
  by_cases hpos : 0 < n
  · have hnum : n * den ≠ 0 := Nat.mul_ne_zero (Nat.ne_of_gt hpos) (Nat.ne_of_gt hden)
    have hexponent := lastBit_nonpos hpos hn hden
    obtain ⟨k, hk⟩ := Int.eq_ofNat_of_zero_le (show 0 ≤ -lastBit (n * den) den by omega)
    have hlast : lastBit (n * den) den = -(k : Int) := by omega
    have hmantissa : divNearestEven (n * den * 2 ^ k) (den * 1) = n * 2 ^ k := by
      rw [Nat.mul_one, Nat.mul_right_comm]
      exact divNearestEven_mul _ hden
    have hvalue : ∀ {m : Nat} {e : Int}, e ≤ 1 → (m : ℚ) * 2 ^ e = n →
        (if 971 < e then infinite false else finite false m e).value? = some (n : ℚ) := by
      intro m e he hm
      rw [if_neg (by omega), value?, hm]
      simp
    unfold nearest
    simp only [if_neg hnum, hlast, powerOfTwo_neg, hmantissa]
    split
    · rename_i hcarry
      have hcarry : (n : ℚ) * 2 ^ k = 2 ^ 53 := by exact_mod_cast hcarry
      refine hvalue (by omega) ?_
      rw [zpow_add₀ two_ne_zero, zpow_neg, zpow_natCast]
      field_simp
      push_cast
      linarith
    · refine hvalue (by omega) ?_
      rw [zpow_neg, zpow_natCast]
      field_simp
      push_cast
      ring
  · obtain rfl : n = 0 := by omega
    simp [nearest, value?]

/-! ## Decimal texts -/

theorem digitsValue_toDigits (n : Nat) : digitsValue (Nat.toDigits 10 n) = n := Nat.ofDigitChars_ten_toDigits

/-- The digits of a number, and those of ten times the number with the last one behind a point. -/
theorem value_ofScientific {n places : Nat} (hn : n < 2 ^ 53) (hplaces : places ≤ 1) :
    (ofScientific false (n * 10 ^ places) (-places)).value? = some (n : ℚ) := by
  have hpower : 0 < 10 ^ places := by positivity
  by_cases hzero : n = 0
  · simp [hzero, ofScientific, value?]
  · have hlength : (Nat.toDigits 10 (n * 10 ^ places)).length ≤ 20 := by
      rw [Nat.length_toDigits_le_iff (by decide) (by decide)]
      have hten : 10 ^ places ≤ 10 ^ 1 := Nat.pow_le_pow_right (by decide) hplaces
      calc n * 10 ^ places ≤ n * 10 ^ 1 := Nat.mul_le_mul_left n hten
        _ < 10 ^ 20 := by omega
    unfold ofScientific
    rw [if_neg (Nat.mul_ne_zero hzero (Nat.ne_of_gt hpower)), if_neg (by omega), if_neg (by omega)]
    split
    · obtain rfl : places = 0 := by omega
      simpa using value_nearest hn Nat.one_pos
    · simpa using value_nearest hn hpower

theorem read?_cons {d : Char} (hd : d.isDigit = true) (cs : List Char) :
    read? (d :: cs) = readUnsigned? false (d :: cs) := by
  have hascii : ∀ c : Char, c.toNat < 0x80 →
      (!c.isDigit || c != '-' && c != '+' && c.toLower != 'i' && c.toLower != 'n') = true :=
    Text.forall_ascii (by decide)
  have hchar := hascii d (Text.isAlphanum_toNat (by simp [Char.isAlphanum, hd]))
  simp only [hd, Bool.not_true, Bool.false_or, Bool.and_eq_true, bne_iff_ne] at hchar
  obtain ⟨⟨⟨hminus, hplus⟩, hi⟩, hn⟩ := hchar
  have hword : ∀ (word : List Char) {c : Char}, d.toLower ≠ c →
      String.ofList ((d :: cs).map Char.toLower) ≠ String.ofList (c :: word) := by
    intro word c hc heq
    have hlist := String.ofList_injective heq
    exact hc (List.cons.inj hlist).1
  unfold read?
  split
  rename_i hsign
  split at hsign
  · rename_i heq
    exact absurd (List.cons.inj heq).1 hminus
  · rename_i heq
    exact absurd (List.cons.inj heq).1 hplus
  · obtain ⟨rfl, rfl⟩ := Prod.mk.inj hsign
    have hinfinite := not_or.2 ⟨hword "nf".toList hi, hword "nfinity".toList hi⟩
    exact (if_neg hinfinite).trans (if_neg (hword "an".toList hn))

/-- **The decimal text of a whole number reads as the number**, also with a point or a point and a
zero behind it. -/
theorem value_read?_toDigits {n : Nat} (hn : n < 2 ^ 53) {point : List Char}
    (hpoint : point ∈ ["".toList, ".".toList, ".0".toList]) :
    (read? (Nat.toDigits 10 n ++ point)).bind value? = some (n : ℚ) := by
  have hdigits : ∀ c ∈ Nat.toDigits 10 n, c.isDigit = true := fun c hc =>
    Nat.isDigit_of_mem_toDigits (by decide) (by decide) hc
  have hread : read? (Nat.toDigits 10 n ++ point) = readUnsigned? false (Nat.toDigits 10 n ++ point) := by
    obtain ⟨d, cs, hcs⟩ := List.exists_cons_of_ne_nil (Nat.toDigits_ne_nil (n := n) (b := 10))
    rw [hcs] at hdigits ⊢
    exact read?_cons (hdigits d List.mem_cons_self) _
  have hwhole : (Nat.toDigits 10 n).isEmpty = false := by simp [Nat.toDigits_ne_nil]
  rw [hread, readUnsigned?, List.takeWhile_append_of_pos hdigits, List.dropWhile_append_of_pos hdigits]
  have hnone := value_ofScientific hn (Nat.zero_le 1)
  have hone := value_ofScientific hn (Nat.le_refl 1)
  have hzero : digitsValue (Nat.toDigits 10 n ++ ['0']) = n * 10 := by
    have hlast : digitsValue (Nat.toDigits 10 n ++ ['0']) = 10 * digitsValue (Nat.toDigits 10 n) := by
      simp [digitsValue]
    rw [hlast, digitsValue_toDigits, Nat.mul_comm]
  simp only [List.mem_cons, List.not_mem_nil, or_false] at hpoint
  rcases hpoint with rfl | rfl | rfl
  · simpa [readExponent?, digitsValue_toDigits, hwhole] using hnone
  · simpa [readExponent?, digitsValue_toDigits, hwhole] using hnone
  · simpa [readExponent?, hzero, hwhole] using hone

end UiSkeleton.Binary64
