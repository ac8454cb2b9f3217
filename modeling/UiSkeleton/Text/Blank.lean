/-
Blanks and lines, and what is cut at them. A blank is any character of the Unicode property
White_Space; trimming, words and the pattern class of blanks all use this one test. A line ends at
a line feed, and a carriage return before the line feed belongs to the ending; a text that ends in
a line feed has no further empty line after it.
-/

namespace UiSkeleton.Text

/-- The characters of the Unicode property White_Space. -/
def isBlank (c : Char) : Bool :=
  let n := c.toNat
  (0x09 ≤ n && n ≤ 0x0d) || n == 0x20 || n == 0x85 || n == 0xa0 || n == 0x1680 ||
    (0x2000 ≤ n && n ≤ 0x200a) || n == 0x2028 || n == 0x2029 || n == 0x202f || n == 0x205f ||
    n == 0x3000

/-- The text without its leading blanks. -/
def trimStart (cs : List Char) : List Char := cs.dropWhile isBlank

/-- The text without its trailing blanks. -/
def trimEnd (cs : List Char) : List Char := (cs.reverse.dropWhile isBlank).reverse

/-- The text without the blanks at its two ends. -/
def trim (cs : List Char) : List Char := trimEnd (trimStart cs)

/-- The pieces between the characters that satisfy `p`; always one more than there are of those. -/
def cutWhere (p : Char → Bool) : List Char → List (List Char)
  | [] => [[]]
  | c :: r =>
    if p c then [] :: cutWhere p r
    else match cutWhere p r with
      | [] => [[c]]
      | piece :: more => (c :: piece) :: more

/-- The non-empty pieces between blanks. -/
def words (cs : List Char) : List (List Char) :=
  (cutWhere isBlank cs).filter fun w => !w.isEmpty

/-- `trim` on strings. -/
def trimmed (s : String) : String := String.ofList (trim s.toList)

/-- The line without the carriage return at its end. -/
def dropReturn (line : List Char) : List Char :=
  if line.getLast? = some '\r' then line.dropLast else line

/-- The lines of a text without their endings. -/
def lines (cs : List Char) : List (List Char) :=
  let pieces := cutWhere (· == '\n') cs
  let last := pieces.getLastD []
  pieces.dropLast.map dropReturn ++ (if last.isEmpty then [] else [last])

/-- How many lines a text has. -/
def lineCount (s : String) : Nat := (lines s.toList).length

theorem cutWhere_ne_nil (p : Char → Bool) (cs : List Char) : cutWhere p cs ≠ [] := by
  cases cs with
  | nil => simp [cutWhere]
  | cons c r =>
    rw [cutWhere]
    split
    · simp
    · split <;> simp

theorem not_of_mem_cutWhere {p : Char → Bool} {cs piece : List Char} (h : piece ∈ cutWhere p cs) :
    ∀ c ∈ piece, p c = false := by
  induction cs generalizing piece with
  | nil => simp_all [cutWhere]
  | cons c r ih =>
    rw [cutWhere] at h
    split at h
    · rcases List.mem_cons.1 h with rfl | h
      · simp
      · exact ih h
    · split at h
      · simp_all
      · rename_i hp _ first more heq
        rcases List.mem_cons.1 h with rfl | h
        · intro d hd
          rcases List.mem_cons.1 hd with rfl | hd
          · simpa using hp
          · exact ih (by simp [heq]) d hd
        · exact ih (by simp [heq, h])

end UiSkeleton.Text
