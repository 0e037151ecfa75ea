import Pasteboard.Charset.Piece

/-!
# UTF-8

A code point takes one to four octets, the first of which tells how many; surrogates have none. Of
octets that are no UTF-8, a piece is the longest run that some code point starts with, or one octet.
-/

namespace Pasteboard.Utf8

/-- The octet with number `n`, which is below 256 wherever this is used. -/
def octet (n : Nat) : UInt8 := UInt8.ofNat n

/-- The octets of a code point; none for a surrogate. -/
def encodePoint (c : CodePoint) : Option Bytes :=
  let n := c.val
  if c.isSurrogate then none
  else if n < 0x80 then some [octet n]
  else if n < 0x800 then some [octet (0xC0 + n / 64), octet (0x80 + n % 64)]
  else if n < 0x10000 then
    some [octet (0xE0 + n / 4096), octet (0x80 + n / 64 % 64), octet (0x80 + n % 64)]
  else
    some [octet (0xF0 + n / 262144), octet (0x80 + n / 4096 % 64), octet (0x80 + n / 64 % 64),
      octet (0x80 + n % 64)]

/-- An octet that continues a code point. -/
def isContinuation (b : UInt8) : Bool := decide (0x80 ≤ b.toNat ∧ b.toNat ≤ 0xBF)

/-- The second octet may follow the first octet `lead` of a code point: it continues it, the code
point needs no fewer octets, is no surrogate and is below `0x110000`. -/
def mayFollow (lead b : UInt8) : Bool :=
  if lead = 0xE0 then decide (0xA0 ≤ b.toNat ∧ b.toNat ≤ 0xBF)
  else if lead = 0xED then decide (0x80 ≤ b.toNat ∧ b.toNat ≤ 0x9F)
  else if lead = 0xF0 then decide (0x90 ≤ b.toNat ∧ b.toNat ≤ 0xBF)
  else if lead = 0xF4 then decide (0x80 ≤ b.toNat ∧ b.toNat ≤ 0x8F)
  else isContinuation b

/-- The code point with number `n` in `size` octets. -/
def pointOf (n size : Nat) : Piece :=
  match CodePoint.ofNat? n with
  | some c => .point c size
  | none => .junk .invalidStart 1

/-- The payload of a continuation octet. -/
def payload (b : UInt8) : Nat := b.toNat - 0x80

/-- The piece that starts with the octet `b`, before the octets `rest`. -/
def first (b : UInt8) (rest : Bytes) : Piece :=
  let n := b.toNat
  if n < 0x80 then pointOf n 1
  else if n < 0xC2 then .junk .invalidStart 1
  else if n < 0xE0 then
    match rest with
    | [] => .junk .unexpectedEnd 1
    | b₁ :: _ =>
      if isContinuation b₁ then pointOf ((n - 0xC0) * 64 + payload b₁) 2
      else .junk .invalidContinuation 1
  else if n < 0xF0 then
    match rest with
    | [] => .junk .unexpectedEnd 1
    | b₁ :: rest =>
      if !mayFollow b b₁ then .junk .invalidContinuation 1
      else match rest with
        | [] => .junk .unexpectedEnd 2
        | b₂ :: _ =>
          if isContinuation b₂ then pointOf ((n - 0xE0) * 4096 + payload b₁ * 64 + payload b₂) 3
          else .junk .invalidContinuation 2
  else if n < 0xF5 then
    match rest with
    | [] => .junk .unexpectedEnd 1
    | b₁ :: rest =>
      if !mayFollow b b₁ then .junk .invalidContinuation 1
      else match rest with
        | [] => .junk .unexpectedEnd 2
        | b₂ :: rest =>
          if !isContinuation b₂ then .junk .invalidContinuation 2
          else match rest with
            | [] => .junk .unexpectedEnd 3
            | b₃ :: _ =>
              if isContinuation b₃ then
                pointOf ((n - 0xF0) * 262144 + payload b₁ * 4096 + payload b₂ * 64 + payload b₃) 4
              else .junk .invalidContinuation 3
  else .junk .invalidStart 1

end Pasteboard.Utf8
