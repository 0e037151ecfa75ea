import Pasteboard.Shell.Quotation

/-!
# Formatted output

What `printf` and `echo` write. A format is done again as long as arguments are left; escapes give
characters by letter or by number, and `%` places an argument. The shell's own commands and the
native ones differ in the escapes they know, in what they accept and in what they say about it.
-/

namespace Pasteboard.Shell.Format

/-- Whose rules count. -/
inductive Dialect
  | shell
  | native
deriving DecidableEq

/-- Where an escape stands. -/
inductive Position
  | format
  | argument
  | echo
deriving DecidableEq

/-! ### Escapes -/

/-- The characters that have an escape of their own letter. -/
def letters : List (Char × Nat) :=
  [('a', 7), ('b', 8), ('e', 27), ('f', 12), ('n', 10), ('r', 13), ('t', 9), ('v', 11), ('\\', 92)]

/-- What an escape is. -/
inductive Escape
  | text (o rest : Octets)
  /-- The output ends here. -/
  | stop
  | mistake (message : Octets)

/-- The octets of a code point, or its escape where only ASCII is written. -/
def codePoint (width n : Nat) : Octets :=
  if n < 128 then [Char.ofNat n]
  else
    let digits := (Nat.toDigits 16 n).map Char.toUpper
    let wide := if width = 4 && n < 65536 then 4 else if n < 65536 then 4 else 8
    '\\' :: (if wide = 4 then 'u' else 'U') :: List.replicate (wide - digits.length) '0' ++ digits

/-- The escape behind a backslash. -/
def escape (d : Dialect) (p : Position) (o : Octets) : Escape :=
  let octal (o : Octets) : Escape :=
    let digits := (o.take 3).takeWhile Octets.isOctal
    .text [Char.ofNat (Octets.digitsValue 8 digits % 256)] (o.drop digits.length)
  let hexadecimal (most : Nat) (o : Octets) : Octets := (o.take most).takeWhile Octets.isHex
  match o with
  | [] => .text ['\\'] []
  | c :: rest =>
    let stops := c = 'c' && (p != .format || d = .native)
    if stops then .stop
    else if Octets.isOctal c then
      let hasZero := c = '0' && p != .format && (rest.head?.map Octets.isOctal).getD false
      octal (if hasZero then rest else o)
    else if c = '"' && d = .native && p != .echo then .text ['"'] rest
    else if c = 'x' && d = .native then
      let digits := hexadecimal 2 rest
      if digits.isEmpty then
        if p = .echo then .text ['\\', 'x'] rest
        else .mistake "missing hexadecimal number in escape"
      else .text [Char.ofNat (Octets.digitsValue 16 digits)] (rest.drop digits.length)
    else if (c = 'u' || c = 'U') && d = .native && p != .echo then
      let width := if c = 'u' then 4 else 8
      let digits := hexadecimal width rest
      if digits.length < width then .mistake "missing hexadecimal number in escape"
      else .text (codePoint width (Octets.digitsValue 16 digits)) (rest.drop width)
    else match letters.find? fun l => l.1 = c with
      | some (_, n) => .text [Char.ofNat n] rest
      | none => .text ['\\', c] rest

/-- A text whose escapes are done. -/
structure Unescaped where
  text : Octets
  ends : Bool := false
  mistake : Option Octets := none

/-- Does the escapes of a text; `done` is in reverse. -/
def unescape (d : Dialect) (p : Position) : Nat → Octets → Octets → Unescaped
  | 0, done, _ => { text := done.reverse }
  | _ + 1, done, [] => { text := done.reverse }
  | n + 1, done, '\\' :: rest =>
    match escape d p rest with
    | .text o rest => unescape d p n (o.reverse ++ done) rest
    | .stop => { text := done.reverse, ends := true }
    | .mistake message => { text := done.reverse, ends := true, mistake := some message }
  | n + 1, done, c :: rest => unescape d p n (c :: done) rest

/-! ### Numbers -/

/-- A number that is not negative, as a fraction. -/
structure Fraction where
  numerator : Nat
  denominator : Nat

/-- A quotient, rounded to the nearest integer, of two to the even one. -/
def rounded (numerator denominator : Nat) : Nat :=
  let q := numerator / denominator
  let r := numerator % denominator
  if denominator < 2 * r || (2 * r = denominator && q % 2 = 1) then q + 1 else q

/-- The next number with some binary digits. -/
def Fraction.nearest (precision : Nat) (f : Fraction) : Fraction :=
  if f.numerator = 0 then f
  else
    let size : Int := (Nat.log2 f.numerator : Int) - Nat.log2 f.denominator
    let shift : Int := (precision : Int) - size
    let scaled (shift : Int) : Nat × Nat :=
      if 0 ≤ shift then (f.numerator * Nat.pow 2 shift.toNat, f.denominator)
      else (f.numerator, f.denominator * Nat.pow 2 (-shift).toNat)
    let (a, b) := scaled shift
    let shift := if Nat.pow 2 precision ≤ a / b then shift - 1 else shift
    let (a, b) := scaled shift
    let mantissa := rounded a b
    if 0 ≤ shift then ⟨mantissa, Nat.pow 2 shift.toNat⟩
    else ⟨mantissa * Nat.pow 2 (-shift).toNat, 1⟩

/-- The digits of a fraction with some of them behind the point. -/
def Fraction.fixed (f : Fraction) (places : Nat) (point : Bool) : Octets :=
  let n := rounded (f.numerator * Nat.pow 10 places) f.denominator
  let digits := Octets.ofNat n
  let digits := List.replicate (places + 1 - digits.length) '0' ++ digits
  let whole := digits.take (digits.length - places)
  let behind := digits.drop (digits.length - places)
  if places = 0 then (if point then whole ++ ['.'] else whole) else whole ++ '.' :: behind

/-- The power of ten that a fraction starts with, when it is rounded to some digits. -/
def Fraction.magnitude (f : Fraction) (digits : Nat) : Int :=
  if f.numerator = 0 then 0
  else
    let guess : Int :=
      ((Octets.ofNat f.numerator).length : Int) - (Octets.ofNat f.denominator).length
    let powerOf (e : Int) : Nat × Nat :=
      if 0 ≤ e then (f.numerator, f.denominator * Nat.pow 10 e.toNat)
      else (f.numerator * Nat.pow 10 (-e).toNat, f.denominator)
    let isBelow (e : Int) : Bool :=
      let (a, b) := powerOf e
      a < b
    let e := if isBelow guess then guess - 1 else guess
    let (a, b) := powerOf e
    if Nat.pow 10 digits ≤ rounded (a * Nat.pow 10 (digits - 1)) b then e + 1 else e

/-- A fraction in the style with an exponent. -/
def Fraction.scientific (f : Fraction) (places : Nat) (point : Bool) (e : Int) (mark : Char) :
    Octets :=
  let scaled : Fraction :=
    if 0 ≤ e then ⟨f.numerator, f.denominator * Nat.pow 10 e.toNat⟩
    else ⟨f.numerator * Nat.pow 10 (-e).toNat, f.denominator⟩
  let digits := Octets.ofNat e.natAbs
  scaled.fixed places point
    ++ mark :: (if e < 0 then '-' else '+') :: List.replicate (2 - digits.length) '0' ++ digits

/-- Without zeros at the end of what is behind the point. -/
def withoutZeros (o : Octets) : Octets :=
  if o.contains '.' then
    let o := o.reverse.dropWhile (· = '0')
    (if o.head? = some '.' then o.tail else o).reverse
  else o

/-- A fraction in the style of a conversion. -/
def Fraction.styled (f : Fraction) (letter : Char) (precision : Option Nat) (point : Bool) :
    Octets :=
  let p := precision.getD 6
  match letter with
  | 'f' | 'F' => f.fixed p point
  | 'e' => f.scientific p point (f.magnitude (p + 1)) 'e'
  | 'E' => f.scientific p point (f.magnitude (p + 1)) 'E'
  | letter =>
    let p := if p = 0 then 1 else p
    let e := f.magnitude p
    let strip (o : Octets) : Octets := if point then o else withoutZeros o
    if e < (p : Int) && -4 ≤ e then strip (f.fixed ((p : Int) - 1 - e).toNat point)
    else
      let mark := if letter = 'g' then 'e' else 'E'
      let o := f.scientific (p - 1) point e mark
      let front := o.takeWhile (· != mark)
      strip front ++ o.drop front.length

/-- A decimal number at the start of a text, its sign, and what follows it. -/
def readFraction? (o : Octets) : Option (Bool × Fraction × Octets) :=
  let o := o.dropWhile Octets.isSpace
  let (negative, o) := match o with
    | '-' :: rest => (true, rest)
    | '+' :: rest => (false, rest)
    | o => (false, o)
  let whole := o.takeWhile Char.isDigit
  let rest := o.drop whole.length
  let (behind, rest) := match rest with
    | '.' :: more =>
      let behind := more.takeWhile Char.isDigit
      if whole.isEmpty && behind.isEmpty then ([], rest) else (behind, more.drop behind.length)
    | rest => ([], rest)
  if whole.isEmpty && behind.isEmpty then none
  else
    let (exponent, rest) : Int × Octets := match rest with
      | e :: more =>
        if e = 'e' || e = 'E' then
          let (below, digits) := match more with
            | '-' :: digits => (true, digits)
            | '+' :: digits => (false, digits)
            | digits => (false, digits)
          let number := digits.takeWhile Char.isDigit
          if number.isEmpty then (0, rest)
          else
            let n : Int := min (Octets.digitsValue 10 number) 5000
            (if below then -n else n, digits.drop number.length)
        else (0, rest)
      | [] => (0, rest)
    let n := Octets.digitsValue 10 (whole ++ behind)
    let e := exponent - behind.length
    some (negative,
      if 0 ≤ e then ⟨n * Nat.pow 10 e.toNat, 1⟩ else ⟨n, Nat.pow 10 (-e).toNat⟩, rest)

/-! ### Conversions -/

/-- What a run of `printf` has come to. -/
structure Progress where
  /-- What was written, to which descriptor, the last first. -/
  events : List (Nat × Octets) := []
  args : List Octets
  status : Nat := 0
  ends : Bool := false
  /-- The mistake that the run ends with. -/
  mistake : Option Octets := none

namespace Progress

/-- Writes to the standard output. -/
def put (p : Progress) (o : Octets) : Progress :=
  if o.isEmpty then p
  else match p.events with
    | (1, before) :: rest => { p with events := (1, o.reverse ++ before) :: rest }
    | events => { p with events := (1, o.reverse) :: events }

/-- Complains about an argument. -/
def complain (p : Progress) (message : Octets) : Progress :=
  { p with events := (2, message.reverse) :: p.events, status := 1 }

/-- A remark that is no failure. -/
def remark (p : Progress) (message : Octets) : Progress :=
  { p with events := (2, message.reverse) :: p.events }

/-- Ends with a mistake. -/
def fail (p : Progress) (message : Octets) : Progress :=
  { p with mistake := some message, ends := true, status := 1 }

/-- Takes an argument; those that are missing are empty. -/
def next (p : Progress) : Octets × Progress := (p.args.headD [], { p with args := p.args.tail })

end Progress

/-- The beginning of a conversion: its flags, and width and precision if they are given. -/
structure Spec where
  flags : Octets
  width : Nat := 0
  toLeft : Bool := false
  precision : Option Nat := none

namespace Spec

/-- A flag is given. -/
def has (s : Spec) (c : Char) : Bool := s.flags.contains c

/-- A text at the place of the conversion. -/
def place (s : Spec) (o : Octets) : Octets := Octets.fill (s.has '-' || s.toLeft) s.width o

/-- Digits behind a sign, filled up with zeros if that is asked for. -/
def placeNumber (s : Spec) (zeros : Bool) (sign digits : Octets) : Octets :=
  if zeros && s.has '0' && !(s.has '-' || s.toLeft) then
    sign ++ List.replicate (s.width - sign.length - digits.length) '0' ++ digits
  else s.place (sign ++ digits)

/-- The sign of a number. -/
def sign (s : Spec) (negative : Bool) : Octets :=
  if negative then ['-'] else if s.has '+' then ['+'] else if s.has ' ' then [' '] else []

/-- An integer in the style of a letter. -/
def integer (s : Spec) (letter : Char) (i : Int) : Octets :=
  let bits := (i % 18446744073709551616).toNat
  let isSigned := letter = 'd' || letter = 'i'
  let digits := match letter with
    | 'o' => Nat.toDigits 8 bits
    | 'x' => Nat.toDigits 16 bits
    | 'X' => (Nat.toDigits 16 bits).map Char.toUpper
    | 'u' => Nat.toDigits 10 bits
    | _ => Octets.ofNat i.natAbs
  let digits := if s.precision = some 0 && i = 0 then [] else digits
  let digits := List.replicate (s.precision.getD 0 - digits.length) '0' ++ digits
  let digits := if letter = 'o' && s.has '#' && digits.head? != some '0' then '0' :: digits
    else digits
  let sign := if isSigned then s.sign (decide (i < 0))
    else if s.has '#' && i != 0 && (letter = 'x' || letter = 'X') then ['0', letter]
    else []
  s.placeNumber s.precision.isNone sign digits

/-- A text that is cut to the precision. -/
def cut (s : Spec) (o : Octets) : Octets :=
  match s.precision with
  | some p => o.take p
  | none => o

end Spec

/-- Complains about an argument that is no number, or not only one. -/
def checkNumber (d : Dialect) (arg : Octets) (found : Bool) (rest : Octets) (fits : Bool)
    (p : Progress) : Progress :=
  let say (own other : String) : Progress :=
    match d with
    | .shell => p.complain (arg ++ ": ".toList ++ own.toList)
    | .native => p.complain (quoted arg ++ ": ".toList ++ other.toList)
  if !found then
    if arg.isEmpty then p else say "expected numeric value" "expected a numeric value"
  else if d = .native && !fits then say "" "Numerical result out of range"
  else if !rest.isEmpty then say "not completely converted" "value not completely converted"
  else if !fits then say "Numerical result out of range" ""
  else p

/-- The number of a quoted character. -/
def quotedCharacter? (d : Dialect) (arg : Octets) (p : Progress) : Option (Int × Progress) :=
  match arg with
  | q :: rest =>
    if q = '"' || q = Octets.apostrophe then
      let n : Int := ((rest.headD (Char.ofNat 0)).toNat : Int)
      if d = .native && rest.isEmpty then none
      else if d = .native && 1 < rest.length then
        some (n, p.remark ("warning: ".toList ++ rest.tail ++
          ": character(s) following character constant have been ignored".toList))
      else some (n, p)
    else none
  | [] => none

/-- The integer that the next argument is. -/
def nextInteger (d : Dialect) (signed : Bool) (p : Progress) : Int × Progress :=
  let (arg, p) := p.next
  match quotedCharacter? d arg p with
  | some r => r
  | none =>
    match Octets.readInteger? true arg with
    | some (i, rest) =>
      let most : Int := 18446744073709551615
      let value : Int := if signed then Octets.clamped i
        else if most < i then most else if i < -most then most else i
      (value, checkNumber d arg true rest (value = i) p)
    | none => (0, checkNumber d arg false arg true p)

/-- The fraction that the next argument is. -/
def nextFraction (d : Dialect) (p : Progress) : Bool × Fraction × Progress :=
  let (arg, p) := p.next
  match quotedCharacter? d arg p with
  | some (i, p) => (false, ⟨i.toNat, 1⟩, p)
  | none =>
    match readFraction? arg with
    | some (negative, f, rest) =>
      (negative, f.nearest (match d with
        | .shell => 53
        | .native => 64), checkNumber d arg true rest true p)
    | none => (false, ⟨0, 1⟩, checkNumber d arg false arg true p)

/-- The number that is none or has no end at the start of a text, its sign, and what follows it. -/
def specialNumber? (o : Octets) : Option (Bool × Octets × Octets) :=
  let (negative, o) := match o.dropWhile Octets.isSpace with
    | '-' :: rest => (true, rest)
    | '+' :: rest => (false, rest)
    | o => (false, o)
  let word := (o.takeWhile Char.isAlpha).map Char.toLower
  let starts (s : String) : Bool := s.toList.isPrefixOf word
  if starts "infinity" then some (negative, "inf", o.drop 8)
  else if starts "inf" then some (negative, "inf", o.drop 3)
  else if starts "nan" then some (negative, "nan", o.drop 3)
  else none

/-- Does a conversion with the next argument. -/
def convert (d : Dialect) (s : Spec) (letter : Char) (p : Progress) : Progress :=
  match letter with
  | 's' =>
    let (arg, p) := p.next
    p.put (s.place (s.cut arg))
  | 'q' =>
    let (arg, p) := p.next
    p.put (s.place (shellWord arg))
  | 'c' =>
    let (arg, p) := p.next
    p.put (s.place [arg.headD (Char.ofNat 0)])
  | 'b' =>
    let (arg, p) := p.next
    let u := unescape d .argument (arg.length + 1) [] arg
    let p := p.put (s.place (s.cut u.text))
    match u.mistake with
    | some message => p.fail message
    | none => if u.ends then { p with ends := true } else p
  | letter =>
    if "diouxX".toList.contains letter then
      let (i, p) := nextInteger d (letter = 'd' || letter = 'i') p
      p.put (s.integer letter i)
    else match specialNumber? (p.args.headD []) with
    | some (negative, word, rest) =>
      let (arg, p) := p.next
      let word := s.sign negative ++ if letter.isUpper then word.map Char.toUpper else word
      (checkNumber d arg true rest true p).put (s.place word)
    | none =>
      let (negative, f, p) := nextFraction d p
      p.put (s.placeNumber true (s.sign negative) (f.styled letter s.precision (s.has '#')))

/-- A width or precision: digits, or a star for the next argument. -/
def readSize (d : Dialect) (o : Octets) (p : Progress) : Option Int × Octets × Progress :=
  match o with
  | '*' :: rest =>
    let (i, p) := nextInteger d true p
    (some i, rest, p)
  | o =>
    let digits := o.takeWhile Char.isDigit
    (if digits.isEmpty then none else some (Octets.digitsValue 10 digits : Int),
      o.drop digits.length, p)

/-- The letters that may follow a specification. -/
def lettersFor (d : Dialect) (flags : Octets) (precise : Bool) : Octets :=
  match d with
  | .shell => "bcsdiouxXaAeEfFgG"
  | .native =>
    let without (o : String) (all : Octets) : Octets := all.filter fun c => !o.toList.contains c
    let all := "aAcdeEfFgGiosuxX".toList
    let all := if flags.contains Octets.apostrophe then without "aAceEosxX" all else all
    let all := if flags.contains '#' then without "cdisu" all else all
    let all := if flags.contains '0' then without "cs" all else all
    if precise then without "c" all else all

/-- Does the conversion behind a percent sign; gives the rest of the format. -/
def conversion (d : Dialect) (o : Octets) (p : Progress) : Octets × Progress :=
  let flags := o.takeWhile fun c => "-+ 0#".toList.contains c
    || (d = .native && (c = 'I' || c = Octets.apostrophe))
  let (width, rest, p) := readSize d (o.drop flags.length) p
  let (precise, precision, rest, p) : Bool × Option Nat × Octets × Progress := match rest with
    | '.' :: more =>
      let (i, more, p) := readSize d more p
      let precision := i.getD 0
      (true, if precision < 0 then none else some precision.toNat, more, p)
    | rest => (false, none, rest, p)
  let s : Spec := {
    flags
    width := (width.getD 0).natAbs
    toLeft := decide (width.getD 0 < 0)
    precision }
  let rest := match d with
    | .shell => rest
    | .native => rest.dropWhile fun c => "hlLztj".toList.contains c
  let written (rest : Octets) : Octets := '%' :: o.take (o.length - rest.length)
  let isPlain := flags.isEmpty && width.isNone && !precise
  match rest with
  | [] =>
    match d with
    | .shell => ([], p.fail "missing format character")
    | .native => ([], p.fail (written [] ++ ": invalid conversion specification".toList))
  | letter :: rest =>
    let known := (lettersFor d flags precise).contains letter
      || (d = .native && (letter = 'b' || letter = 'q') && isPlain)
    if known then (rest, convert d s letter p)
    else match d with
      | .shell => (rest, p.fail (written rest ++ ": invalid directive".toList))
      | .native => (rest, p.fail (written rest ++ ": invalid conversion specification".toList))

/-- One round through a format. -/
def round (d : Dialect) : Nat → Octets → Progress → Progress
  | 0, _, p => p
  | _ + 1, [], p => p
  | n + 1, c :: rest, p =>
    if p.ends then p
    else if c = '\\' then
      match escape d .format rest with
      | .text o rest => round d n rest (p.put o)
      | .stop => { p with ends := true }
      | .mistake message => p.fail message
    else if c != '%' then
      let run := (c :: rest).takeWhile fun c => c != '%' && c != '\\'
      round d n ((c :: rest).drop run.length) (p.put run)
    else match rest with
      | '%' :: rest => round d n rest (p.put ['%'])
      | rest =>
        let (rest, p) := conversion d rest p
        round d n rest p

/-- Rounds through a format until no argument is left. -/
def rounds (d : Dialect) (format : Octets) : Nat → Progress → Progress
  | 0, p => p
  | n + 1, p =>
    let before := p.args.length
    let p := round d (format.length + 1) format p
    if p.ends || p.args.isEmpty then p
    else if p.args.length = before then
      match d with
      | .shell => p
      | .native => p.remark ("warning: ignoring excess arguments, starting with ".toList
          ++ quoted (p.args.headD []))
    else rounds d format n p

/-- What `printf` does with a format and arguments. -/
def printf (d : Dialect) (format : Octets) (args : List Octets) : Progress :=
  let p := rounds d format (args.length + 1) { args }
  { p with events := (p.events.map fun (k, o) => (k, o.reverse)).reverse }

/-! ### Echo -/

/-- The arguments with blanks between them, and a line feed if that is asked for. -/
def echoWith (d : Dialect) (newline escapes : Bool) (args : List Octets) : Octets :=
  let o := Octets.join [' '] args
  let u : Unescaped := if escapes then unescape d .echo (o.length + 1) [] o else { text := o }
  if newline && !u.ends then u.text ++ ['\n'] else u.text

/-- What the `echo` of a shell writes: escapes always count, and `-n` leaves the line feed out. -/
def shellEcho (args : List Octets) : Octets :=
  match args with
  | ['-', 'n'] :: rest => echoWith .shell false true rest
  | args => echoWith .shell true true args

/-- What the native `echo` writes, whose options say whether escapes count. -/
def echo (newline escapes : Bool) : List Octets → Octets
  | ('-' :: options) :: rest =>
    if !options.isEmpty && options.all "neE".toList.contains then
      let escapes := match options.reverse.find? fun c => c != 'n' with
        | some c => c = 'e'
        | none => escapes
      echo (newline && !options.contains 'n') escapes rest
    else echoWith .native newline escapes (('-' :: options) :: rest)
  | args => echoWith .native newline escapes args

end Pasteboard.Shell.Format
