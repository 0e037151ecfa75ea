import Pasteboard.Shell.Octets

/-!
# Words in quotes

Complaints of native commands name words in quotes, in which what is not printable is escaped. File
names are quoted in such a way that a shell reads them back.
-/

namespace Pasteboard.Shell

/-- The escape of a character that is not printable. -/
def escapedChar (c : Char) : Octets :=
  match c.toNat with
  | 7 => ['\\', 'a']
  | 8 => ['\\', 'b']
  | 9 => ['\\', 't']
  | 10 => ['\\', 'n']
  | 11 => ['\\', 'v']
  | 12 => ['\\', 'f']
  | 13 => ['\\', 'r']
  | n =>
    let digits := Nat.toDigits 8 n
    '\\' :: List.replicate (3 - digits.length) '0' ++ digits

/-- A word in quotes, with escapes. -/
def quoted (o : Octets) : Octets :=
  Octets.apostrophe :: (o.flatMap fun c =>
    if c = '\\' || c = Octets.apostrophe then ['\\', c]
    else if Octets.isPrintable c then [c]
    else escapedChar c) ++ [Octets.apostrophe]

/-- The characters of a file name inside quotes of a shell; `escaping` tells whether those before
are inside quotes with escapes. -/
def shellQuotedFrom : (escaping : Bool) → Octets → Octets
  | _, [] => []
  | escaping, c :: rest =>
    let leave : Octets := if escaping then [Octets.apostrophe, Octets.apostrophe] else []
    if c = Octets.apostrophe then
      leave ++ [c, '\\', c, c] ++ shellQuotedFrom false rest
    else if Octets.isPrintable c then leave ++ c :: shellQuotedFrom false rest
    else
      (if escaping then [] else [Octets.apostrophe, '$', Octets.apostrophe])
        ++ escapedChar c ++ shellQuotedFrom true rest

/-- A file name in quotes of a shell. -/
def quotedName (o : Octets) : Octets :=
  let isCompatible := o.all fun c =>
    Octets.isPrintable c && c != '"' && c != '\\' && c != '$' && c != '!' && c != Octets.backquote
  if o.contains Octets.apostrophe && isCompatible then '"' :: o ++ ['"']
  else Octets.apostrophe :: shellQuotedFrom false o ++ [Octets.apostrophe]

/-- A word does not stand for itself in a shell. -/
def needsQuotes (o : Octets) : Bool :=
  let special (c : Char) : Bool :=
    !Octets.isPrintable c || " !\"$&()*;<=>[^|\\?".toList.contains c
      || c = Octets.apostrophe || c = Octets.backquote
  o.isEmpty || o.any special || o = ['\x7b'] || o = ['\x7d'] || o.head? = some '#'
    || o.head? = some '~'

/-- A word as a shell would be given it. -/
def shellWord (o : Octets) : Octets := if needsQuotes o then quotedName o else o

/-- A file name in front of a colon, in quotes of a shell if it needs them. -/
def namedFile (o : Octets) : Octets :=
  if needsQuotes o || o.contains ':' then quotedName o else o

end Pasteboard.Shell
