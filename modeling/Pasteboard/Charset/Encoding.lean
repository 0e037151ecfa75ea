import Pasteboard.Charset.Codec
import Pasteboard.Failure

/-!
# Encodings

What a tool speaks is named by a text. An `Encoding` is such a name with the codec that is found
under it, if any is. A codec turns text into octets and octets into text as it sees fit: nothing is
asked of it, not even that the two fit together. It may refuse what it is given, and say why, or it
may break down with a failure of its own.

The charsets of this library give codecs that never break down (`Charset.codec`), and so do their
names, in any spelling (`Encoding.ofName`). A process can have any number of other codecs.
-/

namespace Pasteboard

/-- How a codec fails. -/
inductive CodecFault
  /-- There are no octets for the text, or no text for the octets. -/
  | refused (reason : Text)
  /-- The codec breaks down. -/
  | broken (failure : Failure)
deriving DecidableEq

/-- A way to turn text into octets and back. -/
structure Codec where
  encode : Text → Except CodecFault Bytes
  decode : Bytes → Except CodecFault Text

/-- The codec of a charset. -/
def Charset.codec (cs : Charset) : Codec where
  encode t := (cs.encode t).mapError fun fault => .refused fault.message
  decode b := (cs.decode b).mapError fun fault => .refused fault.message

/-- The codec that breaks down whatever it is given; its failures give the name that it was asked
for under. -/
def Codec.undefined (name : Text) : Codec where
  encode _ := .error (fault "encoding")
  decode _ := .error (fault "decoding")
where
  fault (doing : Text) : CodecFault :=
    .broken (.other "UnicodeError" (some (doing ++ " with " ++ name.quoted
      ++ " codec failed (UnicodeError: undefined encoding)")))

/-- A name for a codec, and the codec if there is one of this name. -/
structure Encoding where
  name : Text
  codec? : Option Codec

namespace Encoding

/-- A charset under its own name. -/
def ofCharset (cs : Charset) : Encoding := ⟨cs.name, some cs.codec⟩

/-- A code point that counts in the name of a codec. -/
def isNamePoint (c : CodePoint) : Bool :=
  c.isDigit || decide (c = CodePoint.ofChar '.')
    || decide (97 ≤ c.toLowerAscii.val ∧ c.toLowerAscii.val ≤ 122)

/-- The one spelling under which a codec is looked up: in lower case, with one line between parts
that are apart in any way. -/
def plainName (name : Text) : Text :=
  let mark := CodePoint.ofChar '_'
  let points : Text := name.map fun c => if isNamePoint c then c.toLowerAscii else mark
  Text.join [mark] ((points.splitAt mark).filter fun part => !part.isEmpty)

/-- The other names of a charset, each in its plain spelling. -/
def aliases : Charset → List String
  | .utf8 => ["utf8", "utf", "u8", "utf8_ucs2", "utf8_ucs4", "cp65001"]
  | .ascii => ["us_ascii", "us", "646", "ansi_x3.4_1968", "ansi_x3_4_1968", "ansi_x3.4_1986",
      "cp367", "csascii", "ibm367", "iso646_us", "iso_646.irv_1991", "iso_ir_6"]
  | .latin1 => ["latin1", "latin", "l1", "8859", "cp819", "csisolatin1", "ibm819", "iso8859",
      "iso8859_1", "iso_8859_1", "iso_8859_1_1987", "iso_ir_100"]
  | .utf16le => ["utf_16le", "unicodelittleunmarked"]

/-- The charset of a name in any spelling. A point in place of a line is let pass in the other names
of a charset, not in its own. -/
def charset? (name : Text) : Option Charset :=
  let plain := plainName name
  let unpointed := plain.map fun c => if c = CodePoint.ofChar '.' then CodePoint.ofChar '_' else c
  [.utf8, .ascii, .latin1, .utf16le].find? fun cs =>
    decide (plain = plainName cs.name)
      || (aliases cs).any fun n => decide (Text.ofString n = plain ∨ Text.ofString n = unpointed)

/-- The encoding of a name, in a process with no codecs but those of the charsets and the one that
always breaks down. -/
def ofName (name : Text) : Encoding :=
  ⟨name, match charset? name with
    | some cs => some cs.codec
    | none => if plainName name = "undefined" then some (.undefined name) else none⟩

end Encoding

end Pasteboard
