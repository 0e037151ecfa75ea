import Pasteboard.Charset.Utf16
import Pasteboard.Charset.Utf8
import Pasteboard.Text.Quoted

/-!
# Charsets

The four charsets a tool can speak. `Charset.encode` gives the octets of a text or says which run of
code points has none; `Charset.decode` gives the text of octets or says which of them are no text.
`Charset.decodeReplacing` always gives a text and writes U+FFFD for each piece that is none.
-/

namespace Pasteboard

/-- A way to write text as octets. -/
inductive Charset
  | utf8
  | ascii
  | latin1
  | utf16le
deriving DecidableEq

/-- A run of code points that a charset does not have. -/
structure EncodeFault where
  charset : Charset
  start : Nat
  run : Text
  cause : EncodeCause
deriving DecidableEq

/-- Octets that a charset does not use in this way. -/
structure DecodeFault where
  charset : Charset
  start : Nat
  run : Bytes
  cause : DecodeCause
deriving DecidableEq

namespace Charset

/-- The name of a charset. -/
def name : Charset → Text
  | utf8 => "utf-8"
  | ascii => "ascii"
  | latin1 => "latin-1"
  | utf16le => "utf-16-le"

/-- The octets of one code point, if it has any. -/
def encodePoint : Charset → CodePoint → Option Bytes
  | utf8, c => Utf8.encodePoint c
  | ascii, c => if c.val < 128 then some [UInt8.ofNat c.val] else none
  | latin1, c => if c.val < 256 then some [UInt8.ofNat c.val] else none
  | utf16le, c => Utf16.encodePoint c

/-- Why a code point without octets has none. -/
def encodeCause : Charset → EncodeCause
  | utf8 => .surrogate
  | ascii => .outOfRange 128
  | latin1 => .outOfRange 256
  | utf16le => .surrogate

/-- The run of refused code points that a fault names, at the start of `t`. UTF-16 names one. -/
def refusedRun (cs : Charset) (t : Text) : Text :=
  match cs with
  | utf16le => t.take 1
  | _ => t.takeWhile fun c => (cs.encodePoint c).isNone

/-- The octets of a text, or the first run of code points without octets. -/
def encode (cs : Charset) (t : Text) : Except EncodeFault Bytes :=
  match t.findIdx? fun c => (cs.encodePoint c).isNone with
  | none => .ok (t.flatMap fun c => (cs.encodePoint c).getD [])
  | some i => .error ⟨cs, i, cs.refusedRun (t.drop i), cs.encodeCause⟩

/-- The piece that starts with the octet `b`, before the octets `rest`. -/
def first : Charset → UInt8 → Bytes → Piece
  | utf8, b, rest => Utf8.first b rest
  | ascii, b, _ =>
    if b.toNat < 128 then .point (CodePoint.ofByte b) 1 else .junk (.outOfRange 128) 1
  | latin1, b, _ => .point (CodePoint.ofByte b) 1
  | utf16le, b, rest => Utf16.first b rest

/-- Reads on behind the text `done`, in reverse, at octet `pos`; the next `skip` octets belong to
the last code point. -/
def decodeFrom (cs : Charset) (done : Text) (pos : Nat) : Nat → Bytes → Except DecodeFault Text
  | _, [] => .ok done.reverse
  | skip + 1, _ :: rest => decodeFrom cs done (pos + 1) skip rest
  | 0, b :: rest =>
    match cs.first b rest with
    | .point c size => decodeFrom cs (c :: done) (pos + 1) (size - 1) rest
    | .junk cause size => .error ⟨cs, pos, (b :: rest).take size, cause⟩

/-- The text of octets, or the first octets that are no text. -/
def decode (cs : Charset) (bs : Bytes) : Except DecodeFault Text := cs.decodeFrom [] 0 0 bs

/-- Reads on behind the text `done`, in reverse; the next `skip` octets belong to the last piece. -/
def decodeReplacingFrom (cs : Charset) (done : Text) : Nat → Bytes → Text
  | _, [] => done.reverse
  | skip + 1, _ :: rest => decodeReplacingFrom cs done skip rest
  | 0, b :: rest =>
    match cs.first b rest with
    | .point c size => decodeReplacingFrom cs (c :: done) (size - 1) rest
    | .junk _ size => decodeReplacingFrom cs (CodePoint.replacement :: done) (size - 1) rest

/-- The text of octets, with U+FFFD for each piece that is no text. -/
def decodeReplacing (cs : Charset) (bs : Bytes) : Text := cs.decodeReplacingFrom [] 0 bs

end Charset

/-- An apostrophe, the mark around names in messages. -/
private def apostrophe : Text := [CodePoint.ofChar (Char.ofNat 39)]

/-- A text between apostrophes. -/
private def named (t : Text) : Text := apostrophe ++ t ++ apostrophe

/-- The positions of a run of `size` from `start` on, with the noun for one or for many. -/
private def placed (one many : Text) (start size : Nat) : Text :=
  if size = 1 then one ++ " in position " ++ Text.ofNat start
  else many ++ " in position " ++ Text.ofNat start ++ "-" ++ Text.ofNat (start + size - 1)

/-- What the fault says: the charset, the code point or how far the run goes, and the cause. -/
def EncodeFault.message (f : EncodeFault) : Text :=
  let one := match f.run with
    | c :: _ => "character " ++ named (Text.escapeNumber c)
    | [] => "character"
  named f.charset.name ++ " codec can't encode "
    ++ placed one "characters" f.start f.run.length ++ ": " ++ f.cause.message

/-- What the fault says: the charset, the octet or how far the run goes, and the cause. -/
def DecodeFault.message (f : DecodeFault) : Text :=
  let one := match f.run with
    | b :: _ => "byte 0x" ++ Text.hex 2 b.toNat
    | [] => "byte"
  named f.charset.name ++ " codec can't decode "
    ++ placed one "bytes" f.start f.run.length ++ ": " ++ f.cause.message

end Pasteboard
