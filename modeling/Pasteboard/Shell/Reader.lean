import Pasteboard.Shell.Source

/-!
# Reading commands

The grammar of the shell. A source is read one complete command at a time, so what stands before a
mistake is done. What a word holds inside quotes and braces depends on what surrounds it, and the
commands in it are read along with it.

The fuel bounds the nesting of readers and the number of steps; it is taken from the length of the
source.
-/

namespace Pasteboard.Shell

/-- What surrounds the parts of a word. -/
inductive Surrounding
  | bare
  /-- The braces of a parameter that is not quoted. -/
  | bareBraces
  | quotes
  /-- The braces of a quoted parameter. -/
  | quotedBraces
  /-- Quotes inside such braces, which change nothing. -/
  | innerQuotes
  | document
  /-- The braces of a parameter in a document. -/
  | documentBraces
  /-- An arithmetic expression, inside some brackets of its own. -/
  | calculation (depth : Nat)
deriving DecidableEq

namespace Surrounding

/-- Quotes count as quotes. -/
def isBare : Surrounding → Bool
  | bare => true
  | bareBraces => true
  | _ => false

/-- A closing brace ends the parts, or would if it were not in quotes. -/
def isInBraces : Surrounding → Bool
  | quotedBraces => true
  | innerQuotes => true
  | documentBraces => true
  | _ => false

/-- A character that ends a word. -/
def endsWord (c : Char) : Bool :=
  Octets.isBlank c || c = ';' || c = '&' || c = '|' || c = '<' || c = '>' || c = '(' || c = ')'

/-- A character that ends the parts. -/
def isEnd (s : Surrounding) (c : Char) : Bool :=
  match s with
  | bare => endsWord c
  | bareBraces => c = '\x7d'
  | quotedBraces => c = '\x7d'
  | documentBraces => c = '\x7d'
  | quotes => c = '"'
  | innerQuotes => c = '"'
  | document => false
  | calculation _ => false

/-- A character without a meaning of its own. -/
def isPlain (s : Surrounding) (c : Char) : Bool :=
  !(s.isEnd c) && c != '\\' && c != '$' && c != Octets.backquote &&
    match s with
    | bare => c != '"' && c != Octets.apostrophe
    | bareBraces => c != '"' && c != Octets.apostrophe
    | quotedBraces => c != '"'
    | documentBraces => c != '"'
    | calculation _ => c != '(' && c != ')'
    | _ => true

/-- What is wrong if a source ends inside; a word or a document may end with it. -/
def missingEnd : Surrounding → Option Octets
  | bare => none
  | document => none
  | bareBraces => some "Missing '\x7d'"
  | documentBraces => some "Missing '\x7d'"
  | quotes => some "Unterminated quoted string"
  | quotedBraces => some "Unterminated quoted string"
  | innerQuotes => some "Unterminated quoted string"
  | calculation _ => some "Missing '))'"

/-- What a backslash and the character behind it stand for. -/
def escaped (s : Surrounding) (c : Char) : Octets :=
  if s.isBare || c = '\\' || c = '$' || c = Octets.backquote || (c = '"' && s != document)
      || (c = '\x7d' && s.isInBraces) then [c]
  else ['\\', c]

/-- What surrounds the word of a parameter. -/
def inner : Surrounding → Surrounding
  | bare => bareBraces
  | bareBraces => bareBraces
  | document => documentBraces
  | documentBraces => documentBraces
  | _ => quotedBraces

end Surrounding

/-- A parameter that is named by a sign. -/
def isSpecialParameter (c : Char) : Bool := "!$*@#?-".toList.contains c

/-- Parts between quotation marks, as parts of a word. The marks make a word even if there is
nothing between them, but not around the arguments of the shell. -/
def quotation (w : Word) : Word :=
  match w with
  | [.parameter ['@'] .value _] => w
  | w => .literal [] true :: w

/-- What is read behind the name of a parameter: the whole use, or that a word follows. -/
inductive Suffix
  | complete (u : Use)
  /-- A word follows that does not count. -/
  | overfull
  | instead (fallback : Fallback) (emptyCounts : Bool)
  | cut (fromEnd longest : Bool)
  | faulty

/-- The kinds of lists of commands. -/
inductive ListKind
  /-- A line of a source. -/
  | line
  /-- Commands that have to be there. -/
  | required
  /-- Commands that may be missing. -/
  | optional
deriving DecidableEq

namespace Reading

/-- The suffix of a parameter, up to the word in it. -/
def suffix : Reading Suffix := do
  let marked (emptyCounts : Bool) : Reading Suffix := do
    let c ← peek
    advance
    match c with
    | some '\x7d' => pure (if emptyCounts then .overfull else .complete .value)
    | some '-' => pure (.instead .word emptyCounts)
    | some '+' => pure (.instead .replacement emptyCounts)
    | some '?' => pure (.instead .complaint emptyCounts)
    | some '=' => pure (.instead .assigned emptyCounts)
    | _ => pure .faulty
  match ← peek with
  | some ':' =>
    advance
    marked true
  | some '%' =>
    advance
    pure (.cut true (← accept '%'))
  | some '#' =>
    advance
    pure (.cut false (← accept '#'))
  | _ => marked false

/-- The name of a parameter and its suffix, behind the opening brace. -/
def bracedName : Reading (Octets × Suffix) := do
  let behind (name : Octets) : Reading (Octets × Suffix) := do pure (name, ← suffix)
  let lengthOf (name : Octets) : Reading (Octets × Suffix) := do
    if ← accept '\x7d' then pure (name, .complete .length) else pure (name, .faulty)
  match ← peek with
  | none => pure ([], .faulty)
  | some c =>
    if Octets.startsName c then behind (← takeRun Octets.inName)
    else if c.isDigit then behind (← takeRun Char.isDigit)
    else if c = '\x7d' then pure ([], .faulty)
    else
      advance
      if c = '#' then
        match ← peek with
        | none => behind [c]
        | some d =>
          if Octets.startsName d then lengthOf (← takeRun Octets.inName)
          else if d.isDigit then lengthOf (← takeRun Char.isDigit)
          else if d = '\x7d' then behind [c]
          else
            let before ← get
            advance
            if (← peek) = some '\x7d' then
              if isSpecialParameter d then lengthOf [d] else pure ([d], .faulty)
            else
              set before
              behind [c]
      else if isSpecialParameter c then behind [c]
      else pure ([c], .faulty)

mutual

/-- The parts of a word up to what ends them; `done` are those before, in reverse. -/
def parts (n : Nat) (s : Surrounding) (done : Word) : Reading Word :=
  match n with
  | 0 => fail "too long"
  | n + 1 => do
    let run ← takeRun s.isPlain
    let done := if run.isEmpty then done else .literal run (!s.isBare) :: done
    match ← peek with
    | none =>
      match s.missingEnd with
      | some message => fail message
      | none => pure done.reverse
    | some c =>
      if s.isEnd c then
        if s != .bare then advance
        pure done.reverse
      else
        advance
        if c = '\\' then
          match (← get).rest with
          | [] => parts n s (.literal [c] true :: done)
          | d :: _ =>
            advance
            parts n s (.literal (s.escaped d) true :: done)
        else if c = '$' then
          let more ← dollar n s
          parts n s (more :: done)
        else if c = Octets.backquote then
          let c ← backquoted n s
          parts n s (.output c (!s.isBare) :: done)
        else if c = '"' && s.isBare then
          let inside ← parts n .quotes []
          parts n s ((quotation inside.compact).reverse ++ done)
        else if c = '"' && s.isInBraces then
          let inside ← parts n .innerQuotes []
          parts n s (inside.reverse ++ done)
        else if c = Octets.apostrophe && s.isBare then
          let text ← takeRun (· != Octets.apostrophe)
          if (← get).rest.isEmpty then fail "Unterminated quoted string"
          advance
          parts n s (.literal text true :: done)
        else
          let done := .literal [c] (!s.isBare) :: done
          match s with
          | .calculation depth =>
            if c = '(' then parts n (.calculation (depth + 1)) done
            else if c = ')' && depth != 0 then parts n (.calculation (depth - 1)) done
            else if c = ')' then
              if ← accept ')' then pure done.tail.reverse else parts n s done
            else parts n s done
          | s => parts n s done

/-- What a dollar starts, which has been read. -/
def dollar (n : Nat) (s : Surrounding) : Reading Part :=
  match n with
  | 0 => fail "too long"
  | n + 1 => do
    let quoted := !s.isBare
    match ← peek with
    | none => pure (.literal ['$'] quoted)
    | some c =>
      if c = '(' then
        advance
        if ← accept '(' then
          let source ← parts n (.calculation 0) []
          pure (.arithmetic source.compact quoted)
        else
          let before := (← get).wanted
          modify fun s => { s with wanted := [] }
          let c ← list n .optional false .nothing
          match ← token n {} with
          | .closing => pure ()
          | _ => expected .closing
          modify fun s => { s with wanted := before }
          pure (.output c quoted)
      else if c = '\x7b' then
        advance
        let (name, suffix) ← bracedName
        match suffix with
        | .complete use => pure (.parameter name use quoted)
        | .overfull =>
          let _ ← parts n s.inner []
          pure (.parameter name .value quoted)
        | .instead fallback emptyCounts =>
          let w ← parts n s.inner []
          pure (.parameter name (.instead fallback emptyCounts w.compact) quoted)
        | .cut fromEnd longest =>
          let w ← parts n .bareBraces []
          pure (.parameter name (.cut fromEnd longest w.compact) quoted)
        | .faulty =>
          let w ← parts n s.inner []
          pure (.parameter name (.faulty w) quoted)
      else if Octets.startsName c then
        pure (.parameter (← takeRun Octets.inName) .value quoted)
      else if c.isDigit || isSpecialParameter c then
        advance
        pure (.parameter [c] .value quoted)
      else pure (.literal ['$'] quoted)

/-- The commands of a substitution in the older style, whose mark has been read. What follows a
complete list in it does not count. -/
def backquoted (n : Nat) (s : Surrounding) : Reading Command :=
  match n with
  | 0 => fail "too long"
  | n + 1 => do
    let outer ← get
    match takeBackquoted? (!s.isBare) outer.rest with
    | none =>
      modify fun s => { s with line := s.line + s.rest.count '\n' }
      fail "EOF in backquote substitution"
    | some (text, rest) =>
      set { outer with rest := text, line := 1, held := none, wanted := [], busy := [] }
      let c ← list n .optional false .nothing
      modify fun s => { outer with
        rest
        line := outer.line + (outer.rest.count '\n' - rest.count '\n')
        documents := s.documents
        nextDocument := s.nextDocument }
      pure c

/-- The documents that are wanted, at the end of a line. -/
def readDocuments (n : Nat) (wanted : List WantedDocument) : Reading Unit :=
  match n with
  | 0 => fail "too long"
  | n + 1 => do
    match wanted with
    | [] => modify fun s => { s with wanted := [] }
    | w :: more =>
      let outer ← get
      let (text, rest) := takeDocument w (outer.rest.length + 1) false [] outer.rest
      let content : Word ←
        if w.isLiteral then pure [.literal text true]
        else do
          set { outer with rest := text, wanted := [] }
          parts n .document []
      modify fun s => { outer with
        rest
        line := outer.line + (outer.rest.count '\n' - rest.count '\n')
        documents := (w.number, content.compact) :: s.documents
        nextDocument := s.nextDocument }
      readDocuments n more

/-- The next token. -/
def token (n : Nat) (check : Check) : Reading Token :=
  match n with
  | 0 => fail "too long"
  | n + 1 => do
    let s ← get
    let t : Token ← match s.held with
      | some t => do
        set { s with held := none }
        pure t
      | none => do
        skipBlanks (s.rest.length + 1)
        match ← sign? with
        | some t => pure t
        | none => do
          let w ← parts n .bare []
          pure (.word w.compact)
    match t with
    | .newline =>
      if check.newlines then
        readDocuments n (← get).wanted
        token n check
      else finish t
    | .word w =>
      match w.plain? with
      | none => finish t
      | some text =>
        if check.keywords && reservedWords.contains (String.ofList text) then
          finish (.reserved (String.ofList text))
        else if check.aliases then
          if ← replaceAlias text then token n check else finish t
        else finish t
    | t => finish t

/-- A list of commands; `c` is what comes before. A list in another command ends at a word or sign
that cannot start a command, but one that is required does not start with it. -/
def list (n : Nat) (kind : ListKind) (started : Bool) (c : Command) : Reading Command :=
  match n with
  | 0 => fail "too long"
  | n + 1 => do
    let t ← token n { Check.command with newlines := kind != .line }
    match t with
    | .newline =>
      readDocuments n (← get).wanted
      pure c
    | .endOfInput =>
      readDocuments n (← get).wanted
      holdBack
      pure c
    | t =>
      holdBack
      if t.endsList && (kind = .optional || (kind = .required && started)) then pure c
      else
        let d ← dependent n (← pipeline n {})
        let t ← token n {}
        let d := match t, d with
          | .ampersand, .redirected line d redirections => .background line d redirections
          | .ampersand, d => .background 0 d []
          | _, d => d
        let c := match c with
          | .nothing => d
          | c => .sequence c d
        match t with
        | .newline | .endOfInput =>
          holdBack
          list n kind true c
        | .ampersand | .semicolon => list n kind true c
        | _ =>
          if kind = .line then unexpected
          holdBack
          pure c

/-- The commands that depend on how those before them end. -/
def dependent (n : Nat) (c : Command) : Reading Command :=
  match n with
  | 0 => fail "too long"
  | n + 1 => do
    match ← token n {} with
    | .conjunction => dependent n (.both c (← pipeline n .later))
    | .disjunction => dependent n (.either c (← pipeline n .later))
    | _ =>
      holdBack
      pure c

/-- A pipeline, which may be negated. -/
def pipeline (n : Nat) (check : Check) : Reading Command :=
  match n with
  | 0 => fail "too long"
  | n + 1 => do
    let t ← token n check
    if t.isReserved "!" then
      let c ← command n .command
      pure (.negated (← piped n c []))
    else
      holdBack
      let c ← command n {}
      piped n c []

/-- What follows a command of a pipeline; those before it are in reverse. -/
def piped (n : Nat) (c : Command) (done : List Command) : Reading Command :=
  match n with
  | 0 => fail "too long"
  | n + 1 => do
    match ← token n {} with
    | .bar =>
      let d ← command n .later
      piped n d (c :: done)
    | _ =>
      holdBack
      pure (if done.isEmpty then c else .pipeline (c :: done).reverse)

/-- A command. -/
def command (n : Nat) (check : Check) : Reading Command :=
  match n with
  | 0 => fail "too long"
  | n + 1 => do
    let line := (← get).line
    match ← token n check with
    | .word _ | .redirection _ _ =>
      holdBack
      simple n (← get).line true [] [] []
    | .opening =>
      let c ← list n .required false .nothing
      closedBy n .closing
      let redirections ← redirected n Check.command []
      pure (.subshell line c redirections)
    | .reserved "if" => withRedirections n line (← conditional n)
    | .reserved "while" => withRedirections n line (← conditionLoop n false)
    | .reserved "until" => withRedirections n line (← conditionLoop n true)
    | .reserved "for" => withRedirections n line (← wordLoop n line)
    | .reserved "case" => withRedirections n line (← selection n line)
    | .reserved "\x7b" =>
      let c ← list n .required false .nothing
      closedBy n (.reserved "\x7d")
      withRedirections n line c
    | _ => unexpected

/-- The token that closes a command. -/
def closedBy (n : Nat) (t : Token) : Reading Unit :=
  match n with
  | 0 => fail "too long"
  | n + 1 => do
    let u ← token n {}
    match t, u with
    | .closing, .closing => pure ()
    | .reserved w, u => if u.isReserved w then pure () else expected t
    | t, _ => expected t

/-- A command with the redirections behind it. -/
def withRedirections (n : Nat) (line : Nat) (c : Command) : Reading Command :=
  match n with
  | 0 => fail "too long"
  | n + 1 => do
    let redirections ← redirected n Check.command []
    pure (if redirections.isEmpty then c else .redirected line c redirections)

/-- Redirections in a row. -/
def redirected (n : Nat) (check : Check) (done : List Redirection) : Reading (List Redirection) :=
  match n with
  | 0 => fail "too long"
  | n + 1 => do
    match ← token n check with
    | .redirection descriptor operator =>
      let r ← redirectionTo n descriptor operator
      redirected n {} (r :: done)
    | _ =>
      holdBack
      pure done.reverse

/-- The target of a redirection. -/
def redirectionTo (n : Nat) (descriptor : Nat) (operator : Operator) : Reading Redirection :=
  match n with
  | 0 => fail "too long"
  | n + 1 => do
    match ← token n {} with
    | .word w =>
      match operator with
      | .file opening => pure (.file descriptor opening w)
      | .duplicate => pure (.duplicate descriptor w)
      | .document stripsTabs =>
        let isLiteral := w.any fun part =>
          match part with
          | .literal _ quoted => quoted
          | _ => false
        modify fun s => { s with
          nextDocument := s.nextDocument + 1
          wanted := s.wanted ++ [⟨s.nextDocument, w.text, stripsTabs, isLiteral⟩] }
        pure (.document descriptor ((← get).nextDocument - 1))
    | _ => unexpected

/-- The conditions and branches behind `if`. -/
def conditional (n : Nat) : Reading Command :=
  match n with
  | 0 => fail "too long"
  | n + 1 => do
    let c ← branch n
    closedBy n (.reserved "fi")
    pure c

/-- A condition, its branch, and what follows them. -/
def branch (n : Nat) : Reading Command :=
  match n with
  | 0 => fail "too long"
  | n + 1 => do
    let condition ← list n .required false .nothing
    closedBy n (.reserved "then")
    let yes ← list n .required false .nothing
    let t ← token n {}
    if t.isReserved "elif" then pure (.choose condition yes (← branch n))
    else if t.isReserved "else" then
      pure (.choose condition yes (← list n .required false .nothing))
    else
      holdBack
      pure (.choose condition yes .nothing)

/-- The condition and the body behind `while` or `until`. -/
def conditionLoop (n : Nat) (untilTrue : Bool) : Reading Command :=
  match n with
  | 0 => fail "too long"
  | n + 1 => do
    let condition ← list n .required false .nothing
    closedBy n (.reserved "do")
    let body ← list n .required false .nothing
    closedBy n (.reserved "done")
    pure (.loop untilTrue condition body)

/-- The name, the words and the body behind `for`. -/
def wordLoop (n : Nat) (line : Nat) : Reading Command :=
  match n with
  | 0 => fail "too long"
  | n + 1 => do
    let name : Octets ← match ← token n {} with
      | .word w =>
        match w.plain? with
        | some name => if Octets.isName name then pure name else fail "Bad for loop variable"
        | none => fail "Bad for loop variable"
      | _ => fail "Bad for loop variable"
    let t ← token n .later
    let words : List Word ←
      if t.isReserved "in" then do
        let ws ← wordsUpToEnd n []
        match (← get).last with
        | .newline | .semicolon => pure ()
        | _ => unexpected
        pure ws
      else do
        match t with
        | .semicolon => pure ()
        | _ => holdBack
        pure [[.parameter ['@'] .value true]]
    let t ← token n .later
    if !t.isReserved "do" then expected (.reserved "do")
    let body ← list n .required false .nothing
    closedBy n (.reserved "done")
    pure (.each line name words body)

/-- Words in a row; the token behind them is read. -/
def wordsUpToEnd (n : Nat) (done : List Word) : Reading (List Word) :=
  match n with
  | 0 => fail "too long"
  | n + 1 => do
    match ← token n {} with
    | .word w => wordsUpToEnd n (w :: done)
    | _ => pure done.reverse

/-- The subject and the clauses behind `case`. -/
def selection (n : Nat) (line : Nat) : Reading Command :=
  match n with
  | 0 => fail "too long"
  | n + 1 => do
    let subject : Word ← match ← token n {} with
      | .word w => pure w
      | _ => expected (.word [])
    let t ← token n .later
    if !t.isReserved "in" then expected (.reserved "in")
    pure (.select line subject (← clauses n []))

/-- The clauses of a choice. -/
def clauses (n : Nat) (done : List (List Word × Command)) :
    Reading (List (List Word × Command)) :=
  match n with
  | 0 => fail "too long"
  | n + 1 => do
    let check : Check := { newlines := true, keywords := true }
    let t ← token n check
    if t.isReserved "esac" then pure done.reverse
    else
      match t with
      | .opening =>
        let _ ← token n {}
        pure ()
      | _ => pure ()
      let patterns ← alternatives n []
      let body ← list n .optional false .nothing
      let done := (patterns, body) :: done
      let t ← token n check
      if t.isReserved "esac" then pure done.reverse
      else
        match t with
        | .endOfClause => clauses n done
        | _ => expected .endOfClause

/-- The patterns of a clause, of which the first one has been read, and the bracket behind them. -/
def alternatives (n : Nat) (done : List Word) : Reading (List Word) :=
  match n with
  | 0 => fail "too long"
  | n + 1 => do
    let w : Word ← match (← get).last with
      | .word w => pure w
      | .reserved w => pure [.literal w.toList false]
      | _ => expected (.word [])
    match ← token n {} with
    | .bar =>
      let _ ← token n {}
      alternatives n (w :: done)
    | .closing => pure (w :: done).reverse
    | _ => expected .closing

/-- A simple command or the definition of a function. Assignments come before the words; what has
been read is in reverse. -/
def simple (n : Nat) (line : Nat) (mayAssign : Bool) (assignments : List (Octets × Word))
    (words : List Word) (redirections : List Redirection) : Reading Command :=
  match n with
  | 0 => fail "too long"
  | n + 1 => do
    let finished : Command :=
      .simple line assignments.reverse words.reverse redirections.reverse
    match ← token n { aliases := mayAssign } with
    | .word w =>
      match if mayAssign then w.assignment? else none with
      | some a => simple n line true (a :: assignments) words redirections
      | none => simple n line false assignments (w :: words) redirections
    | .redirection descriptor operator =>
      let r ← redirectionTo n descriptor operator
      simple n line mayAssign assignments words (r :: redirections)
    | .opening =>
      match assignments, words, redirections with
      | [], [w], [] => do
        match ← token n {} with
        | .closing => pure ()
        | _ => expected .closing
        let name := w.plain?.getD []
        if !Octets.isName name || specialBuiltins.contains (String.ofList name) then
          fail "Bad function name"
        let body ← command n .later
        pure (.function name body)
      | _, _, _ =>
        holdBack
        pure finished
    | _ =>
      holdBack
      pure finished

end

/-- The next complete command; nothing at the end of the source. -/
def complete : Reading (Option Command) := do
  modify fun s => { s with held := none, wanted := [] }
  let s ← get
  let c ← list (16 * s.rest.length + 64) .line false .nothing
  match c, (← get).held with
  | .nothing, some .endOfInput => pure none
  | c, _ => pure (some c)

end Reading

end Pasteboard.Shell
