/-
Texts as bytes in UTF-8. Decoding takes one character at a time, in its shortest form and no
surrogate, and stops with the place of the first byte that starts none.
-/

namespace UiSkeleton.Text

/-- The bytes of a text. -/
def toBytes (s : String) : List UInt8 := s.toUTF8.toList

/-- Whether a byte continues a character. -/
def isContinuation (b : UInt8) : Bool := 0x80 ≤ b && b < 0xc0

/-- The six bits of a continuing byte. -/
def lowBits (b : UInt8) : Nat := b.toNat % 64

/-- The characters of some bytes; otherwise how many bytes come before the first that is not part
of a character. `done` counts the bytes before. -/
def decodeUtf8 (done : Nat) : List UInt8 → Except Nat (List Char)
  | [] => .ok []
  | a :: r =>
    if a < 0x80 then (decodeUtf8 (done + 1) r).map (Char.ofNat a.toNat :: ·)
    else match r with
      | b :: r₂ =>
        if 0xc2 ≤ a && a < 0xe0 && isContinuation b then
          (decodeUtf8 (done + 2) r₂).map (Char.ofNat (a.toNat % 32 * 64 + lowBits b) :: ·)
        else match r₂ with
          | c :: r₃ =>
            let n := a.toNat % 16 * 4096 + lowBits b * 64 + lowBits c
            if 0xe0 ≤ a && a < 0xf0 && isContinuation b && isContinuation c && 0x800 ≤ n &&
                !(0xd800 ≤ n && n < 0xe000) then
              (decodeUtf8 (done + 3) r₃).map (Char.ofNat n :: ·)
            else match r₃ with
              | d :: r₄ =>
                let n := a.toNat % 8 * 262144 + lowBits b * 4096 + lowBits c * 64 + lowBits d
                if 0xf0 ≤ a && a < 0xf5 && isContinuation b && isContinuation c &&
                    isContinuation d && 0x10000 ≤ n && n < 0x110000 then
                  (decodeUtf8 (done + 4) r₄).map (Char.ofNat n :: ·)
                else .error done
              | [] => .error done
          | [] => .error done
      | [] => .error done

end UiSkeleton.Text
