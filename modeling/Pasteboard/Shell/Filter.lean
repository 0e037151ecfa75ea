import Pasteboard.Shell.Format
import Pasteboard.Shell.Options
import Pasteboard.Shell.Pattern

/-!
# Filters

What native commands make of a text: its beginning or end, its counts, its characters exchanged, its
lines chosen, cut or in order. Each is a function of the text and of what the options ask for.
-/

namespace Pasteboard.Shell.Filter

/-- The lines of a text without their ends. -/
def bareLines (o : Octets) : List Octets :=
  (Octets.lines o).map fun l => if l.getLast? = some '\n' then l.dropLast else l

/-- Lines with their ends. -/
def unlines (ls : List Octets) : Octets := ls.flatMap (· ++ ['\n'])

/-! ### Beginnings and ends -/

/-- How much of a text counts: a number of octets or of lines. -/
structure Extent where
  inLines : Bool := true
  count : Nat := 10
  /-- The number has a sign that turns its meaning round. -/
  signed : Bool := false

/-- How much there is of what an extent counts. -/
def Extent.measure (e : Extent) (o : Octets) : Nat :=
  if e.inLines then o.count '\n' else o.length

/-- The number that a suffix stands for. -/
def multiplier? (suffix : Octets) : Option Nat :=
  match String.ofList suffix with
  | "" => some 1
  | "b" => some 512
  | "k" | "K" | "KiB" => some 1024
  | "kB" | "KB" => some 1000
  | "M" | "MiB" => some (1024 * 1024)
  | "MB" => some (1000 * 1000)
  | "G" | "GiB" => some (1024 * 1024 * 1024)
  | "GB" => some (1000 * 1000 * 1000)
  | _ => none

/-- A number with a suffix. -/
def count? (o : Octets) : Option Nat :=
  let digits := o.takeWhile Char.isDigit
  if digits.isEmpty then none
  else (multiplier? (o.drop digits.length)).map (Octets.digitsValue 10 digits * ·)

/-- The first lines of an endless flow are among its first rounds. -/
def firstLines (f : Flow) (n : Nat) : Octets :=
  let o := if f.isEndless then f.take (f.now.length + (n + 1) * f.cycle.length) else f.now
  ((Octets.lines o).take n).flatten

/-- The start of a flow. -/
def head (e : Extent) (f : Flow) : Octets :=
  if e.signed then
    if e.inLines then
      let ls := Octets.lines f.now
      (ls.take (ls.length - e.count)).flatten
    else f.now.take (f.now.length - e.count)
  else if e.inLines then firstLines f e.count
  else f.take e.count

/-- The end of a text. -/
def tail (e : Extent) (o : Octets) : Octets :=
  if e.inLines then
    let ls := Octets.lines o
    (if e.signed then ls.drop (e.count - 1) else ls.drop (ls.length - e.count)).flatten
  else if e.signed then o.drop (e.count - 1)
  else o.drop (o.length - e.count)

/-! ### Counts -/

/-- The number of words of a text. -/
def words (o : Octets) : Nat :=
  (o.foldl (fun (n, inside) c =>
    let blank := Octets.isSpace c
    (if !blank && !inside then n + 1 else n, !blank)) (0, false)).1

/-- The columns of the widest line; a tab goes on to the next multiple of eight. -/
def widest (o : Octets) : Nat :=
  let step (s : Nat × Nat) (c : Char) : Nat × Nat :=
    match c with
    | '\n' => (max s.1 s.2, 0)
    | '\t' => (s.1, (s.2 / 8 + 1) * 8)
    | c => (s.1, if Octets.isPrintable c then s.2 + 1 else s.2)
  let (most, here) := o.foldl step (0, 0)
  max most here

/-- The letters of the counts that options ask for, in their fixed order. -/
def countLetters (g : Given) : Octets :=
  let asked := "lwmcL".toList.filter g.has
  if asked.isEmpty then "lwc" else asked

/-- The counts of a text; a character is one octet, or more if they are in UTF-8. -/
def counts (letters : Octets) (inUtf8 : Bool) (o : Octets) : List Nat :=
  letters.map fun c =>
    match c with
    | 'l' => o.count '\n'
    | 'w' => words o
    | 'm' =>
      if inUtf8 then (o.filter fun c => !decide (0x80 ≤ c.toNat ∧ c.toNat < 0xC0)).length
      else o.length
    | 'L' => widest o
    | _ => o.length

/-- A line of counts, with the name of a file if it has one. -/
def countLine (width : Nat) (ns : List Nat) (name : Option Octets) : Octets :=
  Octets.join [' '] (ns.map fun n => Octets.fill false width (Octets.ofNat n))
    ++ (match name with
        | some name => ' ' :: name
        | none => [])
    ++ ['\n']

/-! ### Exchanging characters -/

/-- A member of a set of characters as it is written. -/
inductive Item
  | one (c : Char)
  | range (low high : Char)
  | named (name : String)
  /-- A character some number of times, or as often as it takes. -/
  | many (c : Char) (count : Nat)

/-- A character of a set, behind its escape. -/
def setChar (o : Octets) : Option ((Char × Bool) × Octets) :=
  match o with
  | [] => none
  | ['\\'] => some (('\\', false), [])
  | '\\' :: rest =>
    match Format.escape .shell .format rest with
    | .text ['\\', c] rest => some ((c, true), rest)
    | .text (c :: _) rest => some ((c, true), rest)
    | _ => some (('\\', true), rest)
  | c :: rest => some ((c, false), rest)

/-- A single character or a range at the start of a set, and what follows it. -/
def singleItem (o : Octets) : Except Octets (List Item × Octets) :=
  match setChar o with
  | none => .ok ([], [])
  | some ((low, _), '-' :: rest) =>
    match setChar rest with
    | none => .ok ([.one low, .one '-'], [])
    | some ((high, _), after) =>
      if high.toNat < low.toNat then
        .error ("range-endpoints of '".toList ++ low :: '-' :: high ::
          "' are in reverse collating sequence order".toList)
      else .ok ([.range low high], after)
  | some ((c, _), rest) => .ok ([.one c], rest)

/-- The first items of a set, and what follows them. -/
def firstItems (o : Octets) : Except Octets (List Item × Octets) :=
  match o with
  | '[' :: ':' :: rest =>
    let name := rest.takeWhile (· != ':')
    match rest.drop name.length with
    | ':' :: ']' :: rest =>
      match classMember? (String.ofList name) with
      | some _ => .ok ([.named (String.ofList name)], rest)
      | none => .error ("invalid character class ".toList ++ quoted name)
    | _ => singleItem o
  | '[' :: '=' :: c :: '=' :: ']' :: rest => .ok ([.one c], rest)
  | '[' :: more =>
    match setChar more with
    | some ((c, _), '*' :: rest) =>
      let digits := rest.takeWhile Char.isDigit
      match rest.drop digits.length with
      | ']' :: rest =>
        let base := if digits.head? = some '0' then 8 else 10
        .ok ([.many c (Octets.digitsValue base digits)], rest)
      | _ => singleItem o
    | _ => singleItem o
  | o => singleItem o

/-- The items of a set, or what is wrong with it. -/
def setItems : Nat → Octets → Except Octets (List Item)
  | 0, _ => .ok []
  | n + 1, o =>
    if o.isEmpty then .ok []
    else do
      let (items, rest) ← firstItems o
      pure (items ++ (← setItems n rest))

/-- All octets. -/
def allOctets : Octets := (List.range 256).map Char.ofNat

/-- The characters of a set; those that take as many as it takes are repeated to a length. -/
def setMembers (length : Nat) (items : List Item) : Octets :=
  let members (i : Item) : Octets :=
    match i with
    | .one c => [c]
    | .range low high =>
      (List.range (high.toNat + 1 - low.toNat)).map fun i => Char.ofNat (low.toNat + i)
    | .named name =>
      match classMember? name with
      | some p => allOctets.filter p
      | none => []
    | .many c n => List.replicate n c
  let fixed := items.foldl (fun n i => n + (members i).length) 0
  items.flatMap fun i =>
    match i with
    | .many c 0 => List.replicate (length - fixed) c
    | i => members i

/-- What `tr` does: the characters it takes away, replaces and squeezes. -/
structure Exchange where
  first : Octets
  second : Option Octets
  complement : Bool
  deletes : Bool
  squeezes : Bool

namespace Exchange

/-- The exchange that options and sets ask for. -/
def of (g : Given) (first : Octets) (second : Option Octets) : Except Octets Exchange := do
  let complement := g.has 'c' || g.has 'C'
  let items ← setItems (first.length + 1) first
  let members := setMembers 0 items
  let members := if complement then allOctets.filter fun c => !members.contains c else members
  let deletes := g.has 'd'
  let other ← match second with
    | none => pure none
    | some s => do
      let items ← setItems (s.length + 1) s
      pure (some (setMembers members.length items))
  let translates := !deletes && other.isSome
  match other with
  | some [] =>
    if translates && !g.has 't' && !members.isEmpty then
      throw "when not truncating set1, string2 must be non-empty".toList
  | _ => pure ()
  let members := match other with
    | some s => if translates && g.has 't' then members.take s.length else members
    | none => members
  pure { first := members, second := other, complement, deletes, squeezes := g.has 's' }

/-- Replaces each run of one character of a set by one of it. -/
def squeeze (members : Octets) (f : Flow) : Flow :=
  let one (o : Octets) : Octets :=
    (o.foldl (fun (done : Octets) c =>
      if done.head? = some c && members.contains c then done else c :: done) []).reverse
  { now := one f.now, cycle := f.cycle }

/-- What the exchange makes of a flow. -/
def apply (x : Exchange) (f : Flow) : Flow :=
  if x.deletes then
    let f := f.flatMap fun c => if x.first.contains c then [] else [c]
    match x.second with
    | some second => if x.squeezes then squeeze second f else f
    | none => f
  else match x.second with
    | some second =>
      let place (c : Char) : Char :=
        if x.first.contains c then
          match second[(x.first.length - 1) - x.first.reverse.idxOf c]? with
          | some d => d
          | none => second.getLastD c
        else c
      let f := f.flatMap fun c => [place c]
      if x.squeezes then squeeze second f else f
    | none => if x.squeezes then squeeze x.first f else f

end Exchange

/-! ### Lines in order -/

/-- The lines without repetitions one after the other, each with the number of times it came. -/
def runs (same : Octets → Octets → Bool) (ls : List Octets) : List (Nat × Octets) :=
  (ls.foldl (fun (done : List (Nat × Octets)) l =>
    match done with
    | (n, before) :: rest =>
      if same before l then (n + 1, before) :: rest else (1, l) :: done
    | [] => [(1, l)]) []).reverse

/-- What `uniq` prints. -/
def unique (g : Given) (o : Octets) : Octets :=
  let number (letter : Char) : Nat := ((g.value? letter).bind Octets.toNat?).getD 0
  let withoutField (l : Octets) : Octets :=
    let l := l.dropWhile fun c => c = ' ' || c = '\t'
    l.dropWhile fun c => c != ' ' && c != '\t'
  let key (l : Octets) : Octets :=
    let l := (List.range (number 'f')).foldl (fun l _ => withoutField l) l
    let l := l.drop (number 's')
    let l := if g.has 'w' then l.take (number 'w') else l
    if g.has 'i' then l.map Char.toUpper else l
  let chosen := (runs (fun a b => key a = key b) (bareLines o)).filter fun r =>
    if g.has 'd' then decide (1 < r.1) else if g.has 'u' then r.1 = 1 else true
  chosen.flatMap fun (n, l) =>
    (if g.has 'c' then Octets.fill false 7 (Octets.ofNat n) ++ [' '] else []) ++ l ++ ['\n']

/-- A key of `sort`: the fields it is made of, and how they are compared. -/
structure Key where
  first : Nat := 1
  firstChar : Nat := 1
  last : Option Nat := none
  lastChar : Nat := 0
  modes : Octets := []

/-- A key as it is written. -/
def key? (o : Octets) : Option Key :=
  let place (o : Octets) : Option (Nat × Option Nat × Octets × Octets) := do
    let digits := o.takeWhile Char.isDigit
    let field ← Octets.toNat? digits
    let rest := o.drop digits.length
    let (char, rest) := match rest with
      | '.' :: more =>
        let digits := more.takeWhile Char.isDigit
        (some (Octets.digitsValue 10 digits), more.drop digits.length)
      | rest => (none, rest)
    let modes := rest.takeWhile Char.isAlpha
    some (field, char, modes, rest.drop modes.length)
  match place o with
  | some (first, firstChar, modes, []) =>
    if first = 0 then none else some { first, firstChar := firstChar.getD 1, modes }
  | some (first, firstChar, modes, ',' :: rest) =>
    match place rest with
    | some (last, lastChar, more, []) =>
      if first = 0 then none
      else some {
        first
        firstChar := firstChar.getD 1
        last := some last
        lastChar := lastChar.getD 0
        modes := modes ++ more }
    | _ => none
  | _ => none

/-- The fields of a line, each with the blanks in front of it, or between separators. -/
def fieldsOf (separator : Option Char) (l : Octets) : List Octets :=
  match separator with
  | some c => Octets.splitAt c l
  | none =>
    let isBlank (c : Char) : Bool := c = ' ' || c = '\t'
    let rec go (n : Nat) (l : Octets) : List Octets :=
      match n with
      | 0 => []
      | n + 1 =>
        if l.isEmpty then []
        else
          let blanks := l.takeWhile isBlank
          let word := (l.drop blanks.length).takeWhile fun c => !isBlank c
          (blanks ++ word) :: go n (l.drop (blanks.length + word.length))
    go (l.length + 1) l

/-- The text of a key in a line. -/
def Key.text (k : Key) (separator : Option Char) (l : Octets) : Octets :=
  let fields := fieldsOf separator l
  let joint : Octets := separator.toList
  let from1 := fields.drop (k.first - 1)
  let fields := match k.last with
    | some last => from1.take (last + 1 - k.first)
    | none => from1
  let fields := match k.last, fields.getLast? with
    | some _, some f => if k.lastChar = 0 then fields else fields.dropLast ++ [f.take k.lastChar]
    | _, _ => fields
  let o := Octets.join joint fields
  let o := if k.modes.contains 'b' then o.dropWhile Octets.isBlank else o
  o.drop (k.firstChar - 1)

/-- The number at the start of a text, as a sign, a fraction of tens, and its size. -/
def leadingNumber (o : Octets) : Int :=
  match Format.readFraction? (o.takeWhile fun c => c != 'e' && c != 'E') with
  | some (negative, f, _) =>
    let n : Int := (f.numerator * 1000000 / f.denominator : Nat)
    if negative then -n else n
  | none => 0

/-- A text comes no later than another one, in the modes of a comparison. -/
def comesFirst (modes : Octets) (a b : Octets) : Bool :=
  if modes.contains 'n' || modes.contains 'g' then
    decide (leadingNumber a ≤ leadingNumber b)
  else
    let view (o : Octets) : Octets :=
      let o := if modes.contains 'b' then o.dropWhile Octets.isBlank else o
      if modes.contains 'f' then o.map Char.toUpper else o
    Octets.isOrdered (view a) (view b)

/-- A line comes no later than another one: by the keys, and by the whole lines if those do not
tell. -/
def lineComesFirst (modes : Octets) (separator : Option Char) (isStable : Bool) :
    List Key → Octets → Octets → Bool
  | [], a, b => isStable || (if modes.contains 'r' then Octets.isOrdered b a
      else Octets.isOrdered a b)
  | k :: rest, a, b =>
    let own := if k.modes.isEmpty then modes else k.modes
    let x := k.text separator a
    let y := k.text separator b
    let (before, after) := (comesFirst own x y, comesFirst own y x)
    if before && after then lineComesFirst modes separator isStable rest a b
    else if own.contains 'r' then after else before

/-- Two lines have the same keys. -/
def sameKeys (modes : Octets) (separator : Option Char) (keys : List Key) (a b : Octets) : Bool :=
  keys.all fun k =>
    let own := if k.modes.isEmpty then modes else k.modes
    let x := k.text separator a
    let y := k.text separator b
    comesFirst own x y && comesFirst own y x

/-- The lines in the order that `sort` gives them. -/
def sorted (g : Given) (keys : List Key) (ls : List Octets) : List Octets :=
  let modes := (g.options.map Prod.fst).filter "bdfgnr".toList.contains
  let separator := (g.value? 't').bind List.head?
  let keys := if keys.isEmpty then [{}] else keys
  let isStable := g.has 's' || g.has 'u'
  let ls := ls.mergeSort (lineComesFirst modes separator isStable keys)
  if g.has 'u' then (runs (sameKeys modes separator keys) ls).map Prod.snd else ls

/-! ### Cutting lines -/

/-- Ranges of places, counted from one; the end may be open. -/
abbrev Ranges := List (Nat × Option Nat)

/-- Ranges as they are written, or what is wrong with them. -/
def ranges? (what : String) (o : Octets) : Except Octets Ranges :=
  (Octets.splitAt ',' o).mapM fun part =>
    let low := part.takeWhile (· != '-')
    let high := (part.drop low.length).drop 1
    let isRange := part.contains '-'
    let invalid : Octets :=
      if what = "field" then "invalid field value ".toList ++ quoted part
      else "invalid byte/character position ".toList ++ quoted part
    let numbered : Octets :=
      if what = "field" then "fields are numbered from 1"
      else "byte/character positions are numbered from 1"
    if !(low ++ high).all Char.isDigit then .error invalid
    else if isRange && low.isEmpty && high.isEmpty then
      .error "invalid range with no endpoint: -"
    else if !isRange && low.isEmpty then .error numbered
    else
      let a := if low.isEmpty then 1 else Octets.digitsValue 10 low
      let b := if !isRange then some a
        else if high.isEmpty then none else some (Octets.digitsValue 10 high)
      if a = 0 then .error numbered
      else match b with
        | some b => if b < a then .error "invalid decreasing range" else .ok (a, some b)
        | none => .ok (a, none)

/-- A place is in one of some ranges. -/
def inRanges (rs : Ranges) (n : Nat) : Bool :=
  rs.any fun r => decide (r.1 ≤ n) && (match r.2 with
    | some b => decide (n ≤ b)
    | none => true)

/-- What `cut` leaves of a line; nothing if the line is left out. -/
def cutLine (rs : Ranges) (byField onlyDelimited : Bool) (delimiter : Char) (joint : Octets)
    (l : Octets) : Option Octets :=
  let choose {α : Type} (parts : List α) : List α :=
    (parts.zipIdx.filter fun p => inRanges rs (p.2 + 1)).map Prod.fst
  if !byField then some (choose l)
  else if !l.contains delimiter then if onlyDelimited then none else some l
  else some (Octets.join joint (choose (Octets.splitAt delimiter l)))

/-! ### Sequences -/

/-- A decimal number: its value in units of some negative power of ten, and that power. -/
def decimal? (o : Octets) : Option (Int × Nat) :=
  let (negative, o) := match o with
    | '-' :: rest => (true, rest)
    | '+' :: rest => (false, rest)
    | o => (false, o)
  let whole := o.takeWhile Char.isDigit
  let behind : Option Octets := match o.drop whole.length with
    | [] => some []
    | '.' :: more => if more.all Char.isDigit then some more else none
    | _ => none
  match behind with
  | none => none
  | some more =>
    if whole.isEmpty && more.isEmpty then none
    else
      let n : Int := Octets.digitsValue 10 (whole ++ more)
      some (if negative then -n else n, more.length)

/-- A decimal number in digits. -/
def decimalText (i : Int) (places : Nat) : Octets :=
  let f : Format.Fraction := ⟨i.natAbs, Nat.pow 10 places⟩
  (if i < 0 then ['-'] else []) ++ f.fixed places false

/-- The numbers of a sequence. -/
def sequence (first step last : Int × Nat) : List Octets :=
  let places := max first.2 step.2
  let most := max places last.2
  let scale (d : Int × Nat) : Int := d.1 * (Nat.pow 10 (most - d.2) : Nat)
  let (a, s, b) := (scale first, scale step, scale last)
  let size : Nat := if s = 0 then 0 else ((b - a) / s + 1).toNat
  let unit : Int := (Nat.pow 10 (most - places) : Nat)
  (List.range size).map fun (i : Nat) => decimalText ((a + s * (i : Int)) / unit) places

/-- Numbers filled up with zeros to one width. -/
def equallyWide (ns : List Octets) : List Octets :=
  let width := ns.foldl (fun w n => max w n.length) 0
  ns.map fun n =>
    let zeros := List.replicate (width - n.length) '0'
    match n with
    | '-' :: digits => '-' :: zeros ++ digits
    | n => zeros ++ n

end Pasteboard.Shell.Filter
