/-
The channels of a color, as they are printed. A channel is the thousandth nearest to a byte over
255, and a byte is never half way between two of them. The thousandths lie closer together than the
bytes, so a printed channel still tells its byte, and three of them tell the six digits up to case.
The channels are computed exactly here; numbers of 64 bits that are divided and rounded print the
same (`channelOf64Bits`).
-/
import Mathlib.Algebra.Order.Round
import Mathlib.Data.Rat.Floor
import Mathlib.Tactic.Linarith
import Mathlib.Tactic.FieldSimp
import UiSkeleton.Color
import UiSkeleton.Number.Decimal
import UiSkeleton.Proofs.Text.Ascii
import UiSkeleton.Proofs.Text.Utf8

namespace UiSkeleton

/-! ## Printed thousandths -/

/-- The value of a decimal text: that of its digits, over ten for each digit behind the point. -/
def decimalValue (text : String) : ℚ :=
  (Binary64.digitsValue (text.toList.filter (· != '.')) : ℚ) /
    10 ^ ((text.toList.dropWhile (· != '.')).drop 1).length

theorem toList_threePlaces (n : Nat) :
    ∃ whole places : List Char, (threePlaces n).toList = whole ++ '.' :: places ∧
    (∀ c ∈ whole ++ places, c.isDigit = true) ∧ places.length = 3 ∧
    Binary64.digitsValue (whole ++ places) = n := by
  have hdigits : ∀ m, ∀ c ∈ Nat.toDigits 10 m, c.isDigit = true := fun m c hc =>
    Nat.isDigit_of_mem_toDigits (by decide) (by decide) hc
  have hlength : (Nat.toDigits 10 (n % 1000)).length ≤ 3 := by
    rw [Nat.length_toDigits_le_iff (by decide) (by decide)]
    exact Nat.mod_lt n (by decide)
  have hpower : 10 ^ (Nat.toDigits 10 (n % 1000)).length *
      10 ^ (3 - (Nat.toDigits 10 (n % 1000)).length) = 1000 := by
    rw [← Nat.pow_add, Nat.add_sub_cancel' hlength]
  refine ⟨Nat.toDigits 10 (n / 1000), List.replicate (3 - (Nat.toDigits 10 (n % 1000)).length) '0' ++
    Nat.toDigits 10 (n % 1000), by simp [threePlaces], ?_, ?_, ?_⟩
  · simp only [List.forall_mem_append]
    exact ⟨hdigits _, fun c hc => List.eq_of_mem_replicate hc ▸ rfl, hdigits _⟩
  · rw [List.length_append, List.length_replicate, Nat.sub_add_cancel hlength]
  · change Nat.ofDigitChars 10 _ 0 = n
    rw [Nat.ofDigitChars_append, Nat.ofDigitChars_append, Nat.ofDigitChars_ten_toDigits,
      Nat.ofDigitChars_replicate_zero,
      Nat.ofDigitChars_eq_ofDigitChars_zero, Nat.ofDigitChars_ten_toDigits, ← Nat.mul_assoc, hpower,
        Nat.div_add_mod]

theorem decimalValue_threePlaces (n : Nat) : decimalValue (threePlaces n) = n / 1000 := by
  obtain ⟨whole, places, htext, hdigits, hlength, hvalue⟩ := toList_threePlaces n
  have hpoint : ∀ c ∈ whole ++ places, (c != '.') = true := by
    intro c hc
    rw [bne_iff_ne]
    rintro rfl
    exact absurd (hdigits _ hc) (by decide)
  have hfilter : (whole ++ '.' :: places).filter (· != '.') = whole ++ places := by
    rw [List.filter_append, List.filter_cons_of_neg (by simp), ← List.filter_append,
      List.filter_eq_self.2 hpoint]
  have hdrop : ((whole ++ '.' :: places).dropWhile (· != '.')).drop 1 = places := by
    rw [List.dropWhile_append_of_pos fun c hc => hpoint c (List.mem_append_left _ hc)]
    rfl
  rw [decimalValue, htext, hfilter, hdrop, hvalue, hlength]
  norm_num

/-! ## Bytes -/

/-- A thousandth is off by less than half of one; half of one is never met, since 255 is odd. -/
theorem channelOfByte_bounds (byte : Nat) :
    2000 * byte < 510 * channelOfByte byte + 255 ∧ 510 * channelOfByte byte < 2000 * byte + 255 := by
  unfold channelOfByte divNearestUp
  omega

theorem abs_channelOfByte_lt (byte : Nat) : |(channelOfByte byte / 1000 : ℚ) - byte / 255| < 1 / 2000 := by
  obtain ⟨hlow, hhigh⟩ := channelOfByte_bounds byte
  have hlow : (2000 * byte : ℚ) < 510 * channelOfByte byte + 255 := by exact_mod_cast hlow
  have hhigh : (510 * channelOfByte byte : ℚ) < 2000 * byte + 255 := by exact_mod_cast hhigh
  rw [abs_lt]
  constructor <;> linarith

/-- The text has three places behind its point; its value is the thousandth that is nearest to the
byte over 255, nearer than any other one; and 255 times this value, rounded, is the byte again. -/
structure Shows (text : String) (byte : Nat) : Prop where
  places : ∃ whole places : List Char, text.toList = whole ++ '.' :: places ∧
    (∀ c ∈ whole ++ places, c.isDigit = true) ∧
    places.length = 3
  nearest : ∃ k : ℤ, decimalValue text = k / 1000 ∧ ∀ j : ℤ, j ≠ k →
    |(k / 1000 : ℚ) - byte / 255| < |(j / 1000 : ℚ) - byte / 255|
  round_eq : round (255 * decimalValue text) = (byte : ℤ)

theorem shows_channelOfByte (byte : Nat) : Shows (threePlaces (channelOfByte byte)) byte where
  places := by
    obtain ⟨whole, places, htext, hdigits, hlength, -⟩ := toList_threePlaces (channelOfByte byte)
    exact ⟨whole, places, htext, hdigits, hlength⟩
  nearest := by
    refine ⟨channelOfByte byte, by rw [decimalValue_threePlaces, Int.cast_natCast], fun j hj => ?_⟩
    -- two thousandths are one apart, and the nearer one is less than half of one away
    have hnear := abs_channelOfByte_lt byte
    have hapart : (1 : ℚ) ≤ |(j : ℚ) - channelOfByte byte| := by
      exact_mod_cast Int.one_le_abs (sub_ne_zero.2 hj)
    have hstep : (1 / 1000 : ℚ) ≤ |(j / 1000 : ℚ) - channelOfByte byte / 1000| := by
      rw [← sub_div, abs_div, abs_of_pos (show (0 : ℚ) < 1000 by norm_num)]
      linarith
    have hsum := abs_sub_le (j / 1000 : ℚ) (byte / 255) (channelOfByte byte / 1000)
    rw [abs_sub_comm (byte / 255 : ℚ)] at hsum
    rw [Int.cast_natCast]
    linarith
  round_eq := by
    have hnear := abs_lt.1 (abs_channelOfByte_lt byte)
    rw [decimalValue_threePlaces, round_eq, Int.floor_eq_iff, Int.cast_natCast]
    constructor <;> linarith

/-- A text shows one byte at most. -/
theorem Shows.byte_inj {text : String} {byte byte' : Nat} (h : Shows text byte)
    (h' : Shows text byte') : byte = byte' :=
  Int.ofNat_inj.1 (h.round_eq.symm.trans h'.round_eq)

/-! ## Digits -/

/-- The byte that two digits write. -/
def byteOfDigits (high low : Char) : Nat := 16 * Text.hexValue high + Text.hexValue low

theorem shows_channelOfDigits (high low : Char) :
    Shows (threePlaces (channelOfDigits high low)) (byteOfDigits high low) :=
  shows_channelOfByte _

theorem hexValue_of_isHexDigit {c : Char} (h : Text.isHexDigit c = true) :
    Text.hexValue c < 16 ∧ Text.hexValue c.toLower = Text.hexValue c ∧
    Nat.digitChar (Text.hexValue c) = c.toLower := by
  have hdigit : ∀ d : Char, d.toNat < 0x80 → (!Text.isHexDigit d || Text.hexValue d < 16 &&
      Text.hexValue d.toLower == Text.hexValue d && Nat.digitChar (Text.hexValue d) == d.toLower) = true :=
    Text.forall_ascii (by decide)
  simpa [h, and_assoc] using hdigit c (Text.isHexDigit_toNat h)

variable {a b c d : Char}

theorem byteOfDigits_eq_iff (ha : Text.isHexDigit a = true) (hb : Text.isHexDigit b = true)
    (hc : Text.isHexDigit c = true) (hd : Text.isHexDigit d = true) :
    byteOfDigits a b = byteOfDigits c d ↔ a.toLower = c.toLower ∧ b.toLower = d.toLower := by
  obtain ⟨hlta, hlowera, hdigita⟩ := hexValue_of_isHexDigit ha
  obtain ⟨hltb, hlowerb, hdigitb⟩ := hexValue_of_isHexDigit hb
  obtain ⟨hltc, hlowerc, hdigitc⟩ := hexValue_of_isHexDigit hc
  obtain ⟨hltd, hlowerd, hdigitd⟩ := hexValue_of_isHexDigit hd
  rw [← hdigita, ← hdigitb, ← hdigitc, ← hdigitd]
  constructor
  · intro h
    have hhigh : Text.hexValue a = Text.hexValue c := by
      unfold byteOfDigits at h
      omega
    have hlow : Text.hexValue b = Text.hexValue d := by
      unfold byteOfDigits at h
      omega
    rw [hhigh, hlow]
    exact ⟨rfl, rfl⟩
  · rintro ⟨hhigh, hlow⟩
    rw [hdigita, hdigitc] at hhigh
    rw [hdigitb, hdigitd] at hlow
    rw [byteOfDigits, byteOfDigits, ← hlowera, ← hlowerb, ← hlowerc, ← hlowerd, hhigh, hlow]

theorem threePlaces_eq_iff (ha : Text.isHexDigit a = true) (hb : Text.isHexDigit b = true)
    (hc : Text.isHexDigit c = true) (hd : Text.isHexDigit d = true) :
    threePlaces (channelOfDigits a b) = threePlaces (channelOfDigits c d) ↔
      a.toLower = c.toLower ∧ b.toLower = d.toLower := by
  rw [← byteOfDigits_eq_iff ha hb hc hd]
  constructor
  · intro h
    have hshows := shows_channelOfDigits a b
    rw [h] at hshows
    exact hshows.byte_inj (shows_channelOfDigits c d)
  · intro h
    exact congrArg (fun byte => threePlaces (channelOfByte byte)) h

/-! ## Six digits -/

/-- Six digits have channels, and nothing else has. -/
theorem hexChannels?_eq_some_iff {digits : String} {red green blue : Nat} :
    hexChannels? digits = some (red, green, blue) ↔
    ∃ r r' g g' b b', digits.toList = [r, r', g, g', b, b'] ∧
      (∀ c ∈ digits.toList, Text.isHexDigit c = true) ∧
      red = channelOfDigits r r' ∧ green = channelOfDigits g g' ∧ blue = channelOfDigits b b' := by
  constructor
  · intro h
    rw [hexChannels?] at h
    split at h
    · rename_i r r' g g' b b' hdigits
      split at h
      · rename_i hall
        simp only [Option.some.injEq, Prod.mk.injEq] at h
        exact ⟨r, r', g, g', b, b', hdigits, hdigits ▸ List.all_eq_true.1 hall, h.1.symm,
          h.2.1.symm, h.2.2.symm⟩
      · cases h
    · cases h
  · rintro ⟨r, r', g, g', b, b', hdigits, hall, rfl, rfl, rfl⟩
    rw [hdigits] at hall
    rw [hexChannels?, hdigits]
    exact if_pos (List.all_eq_true.2 hall)

theorem isSome_hexChannels?_iff {digits : String} : (hexChannels? digits).isSome = true ↔
    digits.toList.length = 6 ∧ ∀ c ∈ digits.toList, Text.isHexDigit c = true := by
  constructor
  · intro h
    obtain ⟨⟨red, green, blue⟩, hsome⟩ := Option.isSome_iff_exists.1 h
    obtain ⟨r, r', g, g', b, b', hdigits, hall, -⟩ := hexChannels?_eq_some_iff.1 hsome
    exact ⟨by rw [hdigits]; rfl, hall⟩
  · rintro ⟨hlength, hall⟩
    match hdigits : digits.toList, hlength with
    | [r, r', g, g', b, b'], _ =>
      rw [hexChannels?_eq_some_iff.2 ⟨r, r', g, g', b, b', hdigits, hall, rfl, rfl, rfl⟩]
      rfl

/-- The channels as they are printed. -/
def printedChannels (channels : Nat × Nat × Nat) : List String :=
  [threePlaces channels.1, threePlaces channels.2.1, threePlaces channels.2.2]

theorem printedChannels_eq_iff {s t : String} {cs ct : Nat × Nat × Nat} (hs : hexChannels? s = some cs)
    (ht : hexChannels? t = some ct) :
    printedChannels cs = printedChannels ct ↔ Text.lowerAscii s.toList = Text.lowerAscii t.toList := by
  obtain ⟨r, r', g, g', b, b', hs, halls, hred, hgreen, hblue⟩ := hexChannels?_eq_some_iff.1 hs
  obtain ⟨u, u', v, v', w, w', ht, hallt, hred', hgreen', hblue'⟩ := hexChannels?_eq_some_iff.1 ht
  rw [hs] at halls
  rw [ht] at hallt
  simp only [List.forall_mem_cons] at halls hallt
  obtain ⟨hr, hr', hg, hg', hb, hb', -⟩ := halls
  obtain ⟨hu, hu', hv, hv', hw, hw', -⟩ := hallt
  simp only [printedChannels, hred, hgreen, hblue, hred', hgreen', hblue', List.cons.injEq, and_true,
    threePlaces_eq_iff hr hr' hu hu', threePlaces_eq_iff hg hg' hv hv',
      threePlaces_eq_iff hb hb' hw hw', hs, ht,
    Text.lowerAscii, List.map_cons, List.map_nil, and_assoc]

/-! ## Numbers of 64 bits -/

namespace Binary64

/-- The thousandths that a number prints; none if it has a sign or is not finite. -/
def thousandths? : Binary64 → Option Nat
  | .finite false mantissa exponent =>
    some (divNearestEven ((quotient mantissa exponent).1 * 1000) (quotient mantissa exponent).2)
  | _ => none

theorem threePlacesText_eq {x : Binary64} {n : Nat} (h : x.thousandths? = some n) :
    x.threePlacesText = threePlaces n := by
  unfold thousandths? at h
  split at h
  · cases h
    rfl
  · cases h

/-- A byte, divided by 255 and rounded to three places. -/
def channelOf64Bits (byte : Nat) : Binary64 := ((ofInt byte).divNat 255).roundThousandths

/-- Neither the division nor the rounding of a `Binary64` is off by enough to be seen in a
channel. -/
theorem threePlacesText_channel {byte : Nat} (h : byte < 256) :
    (channelOf64Bits byte).threePlacesText = threePlaces (channelOfByte byte) := by
  have hall : (List.range 256).all
      (fun byte => (channelOf64Bits byte).thousandths? == some (channelOfByte byte)) = true := by
    decide +kernel
  exact threePlacesText_eq (by simpa using List.all_eq_true.1 hall byte (List.mem_range.2 h))

end Binary64

/-- **Six digits give three channels, and printed channels tell the digits up to case.**
`hexChannels?` takes six digits of base sixteen and nothing else, by characters or by bytes. Each of
the `printedChannels` `Shows` the byte of its two digits, as `channelOf64Bits` does. -/
theorem hexChannels_shown :
    (∀ digits : String,
      ((hexChannels? digits).isSome = true ↔ digits.toList.length = 6 ∧ ∀ c ∈ digits.toList,
        Text.isHexDigit c = true) ∧
      ((hexChannels? digits).isSome = true ↔
        (Text.toBytes digits).length = 6 ∧ ∀ c ∈ digits.toList, Text.isHexDigit c = true)) ∧
    (∀ digits channels, hexChannels? digits = some channels → ∃ r r' g g' b b',
      digits.toList = [r, r', g, g', b, b'] ∧
      List.Forall₂ Shows (printedChannels channels)
        [byteOfDigits r r', byteOfDigits g g', byteOfDigits b b']) ∧
    (∀ s t cs ct, hexChannels? s = some cs → hexChannels? t = some ct →
      (printedChannels cs = printedChannels ct ↔ Text.lowerAscii s.toList = Text.lowerAscii t.toList)) ∧
    ∀ byte < 256, (Binary64.channelOf64Bits byte).threePlacesText = threePlaces (channelOfByte byte) := by
  refine ⟨fun digits => ⟨isSome_hexChannels?_iff, ?_⟩, fun digits channels h => ?_,
    fun s t cs ct => printedChannels_eq_iff,
    fun byte => Binary64.threePlacesText_channel⟩
  · rw [isSome_hexChannels?_iff]
    refine and_congr_left fun hall => ?_
    rw [Text.length_toBytes fun c hc => Text.isHexDigit_toNat (hall c hc)]
  · obtain ⟨red, green, blue⟩ := channels
    obtain ⟨r, r', g, g', b, b', hdigits, -, rfl, rfl, rfl⟩ := hexChannels?_eq_some_iff.1 h
    exact ⟨r, r', g, g', b, b', hdigits,
      .cons (shows_channelOfDigits r r') (.cons (shows_channelOfDigits g g')
      (.cons (shows_channelOfDigits b b') .nil))⟩

/-- Digits of either case, and texts of other lengths or with a sign or a character of two bytes. -/
theorem hexChannels_shown_mixedCase :
    hexChannels? "80fF20" = some (502, 1000, 125) ∧
    printedChannels (502, 1000, 125) = ["0.502", "1.000", "0.125"] ∧
    (∃ r r' g g' b b', "80fF20".toList = [r, r', g, g', b, b'] ∧
      List.Forall₂ Shows (printedChannels (502, 1000, 125))
        [byteOfDigits r r', byteOfDigits g g', byteOfDigits b b']) ∧
    (printedChannels (502, 1000, 125) = printedChannels (502, 1000, 125) ↔
      Text.lowerAscii "80fF20".toList = Text.lowerAscii "80Ff20".toList) ∧
    ∀ digits ∈ ["fff", "11223344", "+10000", "é0000"], (hexChannels? digits).isSome = false := by
  refine ⟨rfl, by decide +kernel, hexChannels_shown.2.1 _ _ rfl,
    hexChannels_shown.2.2.1 _ _ _ _ rfl rfl, fun digits h => ?_⟩
  rw [← Bool.not_eq_true, (hexChannels_shown.1 digits).1, ← List.all_eq_true]
  simp only [List.mem_cons, List.not_mem_nil, or_false] at h
  rcases h with rfl | rfl | rfl | rfl <;> decide

end UiSkeleton
