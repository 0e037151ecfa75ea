import Pasteboard.Charset.Piece

/-!
# UTF-16, low octet first

A code point below `0x10000` is one unit of two octets, any other a pair of surrogate units.
-/

namespace Pasteboard.Utf16

/-- A unit as two octets, the low one first. -/
def unitBytes (n : Nat) : Bytes := [UInt8.ofNat (n % 256), UInt8.ofNat (n / 256)]

/-- The octets of a code point; none for a surrogate. -/
def encodePoint (c : CodePoint) : Option Bytes :=
  if c.isSurrogate then none
  else if c.val < 0x10000 then some (unitBytes c.val)
  else
    let n := c.val - 0x10000
    some (unitBytes (0xD800 + n / 1024) ++ unitBytes (0xDC00 + n % 1024))

/-- The unit of two octets. -/
def unit (low high : UInt8) : Nat := low.toNat + 256 * high.toNat

/-- The code point with number `n` in `size` octets. -/
def pointOf (n size : Nat) : Piece :=
  match CodePoint.ofNat? n with
  | some c => .point c size
  | none => .junk .illegalEncoding size

/-- The piece that starts with the octet `b`, before the octets `rest`. -/
def first (b : UInt8) (rest : Bytes) : Piece :=
  match rest with
  | [] => .junk .truncated 1
  | b₁ :: rest =>
    let n := unit b b₁
    if n < 0xD800 ∨ 0xDFFF < n then pointOf n 2
    else if 0xDC00 ≤ n then .junk .illegalEncoding 2
    else match rest with
      | b₂ :: b₃ :: _ =>
        let m := unit b₂ b₃
        if 0xDC00 ≤ m ∧ m ≤ 0xDFFF then
          pointOf (0x10000 + (n - 0xD800) * 1024 + (m - 0xDC00)) 4
        else .junk .illegalSurrogate 2
      | short => .junk .unexpectedEnd (2 + short.length)

end Pasteboard.Utf16
