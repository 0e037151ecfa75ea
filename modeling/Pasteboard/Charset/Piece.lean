import Pasteboard.Text.CodePoint

/-!
# Pieces of encoded text

A decoder cuts octets into pieces: the octets of one code point, or the longest run of octets at
that place that no code point starts with. Which of the two comes first is all that a charset has to
say; reading to the end, refusing and replacing are the same for every charset.
-/

namespace Pasteboard

/-- Why octets are no text. -/
inductive DecodeCause
  | invalidStart
  | invalidContinuation
  | unexpectedEnd
  | outOfRange (limit : Nat)
  | truncated
  | illegalEncoding
  | illegalSurrogate
deriving DecidableEq

/-- The wording of a cause. -/
def DecodeCause.message : DecodeCause → Text
  | invalidStart => "invalid start byte"
  | invalidContinuation => "invalid continuation byte"
  | unexpectedEnd => "unexpected end of data"
  | outOfRange limit => "ordinal not in range(" ++ Text.ofNat limit ++ ")"
  | truncated => "truncated data"
  | illegalEncoding => "illegal encoding"
  | illegalSurrogate => "illegal UTF-16 surrogate"

/-- Why a code point has no octets. -/
inductive EncodeCause
  | surrogate
  | outOfRange (limit : Nat)
deriving DecidableEq

/-- The wording of a cause. -/
def EncodeCause.message : EncodeCause → Text
  | surrogate => "surrogates not allowed"
  | outOfRange limit => "ordinal not in range(" ++ Text.ofNat limit ++ ")"

/-- What the octets at some place are: one code point, or no text, in `size` octets. -/
inductive Piece
  | point (c : CodePoint) (size : Nat)
  | junk (cause : DecodeCause) (size : Nat)
deriving DecidableEq

end Pasteboard
