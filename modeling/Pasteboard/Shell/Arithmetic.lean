import Pasteboard.Shell.Octets

/-!
# Arithmetic

The integer expressions of a shell, in 64 bits. An expression is done while it is read, so what
stands before a mistake has been done. Operands that do not count, behind `&&`, `||` and `?`, are
read and not done. What variables are is up to a memory.
-/

namespace Pasteboard.Shell.Arithmetic

/-- Variables with integers: a value or an assignment may fail with a complaint. -/
structure Memory (σ : Type) where
  value : σ → Octets → Except Octets Int
  assign : σ → Octets → Int → Except Octets σ

/-- A token of an expression. -/
inductive Sign
  | number (value : Int)
  | name (text : Octets)
  | sign (text : String)
  | unknown
deriving DecidableEq

/-- The signs, longer ones first. -/
def signs : List String :=
  ["<<=", ">>=", "&&", "||", "==", "!=", "<=", ">=", "<<", ">>", "+=", "-=", "*=", "/=", "%=",
   "&=", "^=", "|=", "+", "-", "*", "/", "%", "<", ">", "&", "^", "|", "!", "~", "?", ":", "=",
   "(", ")"]

/-- The tokens of an expression; nothing follows a character that starts none. -/
def tokens : Nat → Octets → List Sign
  | 0, _ => []
  | n + 1, o =>
    match o.dropWhile Octets.isBlank with
    | [] => []
    | c :: rest =>
      if c.isDigit then
        match Octets.readDigits? true (c :: rest) with
        | some (value, rest) => .number (Octets.clamped value) :: tokens n rest
        | none => [.unknown]
      else if Octets.startsName c then
        .name ((c :: rest).takeWhile Octets.inName) :: tokens n (rest.dropWhile Octets.inName)
      else match signs.find? fun s => s.toList.isPrefixOf (c :: rest) with
        | some s => .sign s :: tokens n ((c :: rest).drop s.length)
        | none => [.unknown]

/-- How much an operator between two operands binds; less binds more. -/
def level? : Sign → Option Nat
  | .sign s =>
    match s with
    | "*" | "/" | "%" => some 0
    | "+" | "-" => some 1
    | "<<" | ">>" => some 2
    | "<" | "<=" | ">" | ">=" => some 3
    | "==" | "!=" => some 4
    | "&" => some 5
    | "^" => some 6
    | "|" => some 7
    | _ => none
  | _ => none

/-- The operator in an assignment that changes a variable. -/
def assignment? : Sign → Option String
  | .sign s =>
    if ["<<=", ">>=", "+=", "-=", "*=", "/=", "%=", "&=", "^=", "|="].contains s then
      some (String.ofList s.toList.dropLast)
    else if s = "=" then some ""
    else none
  | _ => none

/-- Sixty-four bits of an integer as a natural number. -/
def bits (i : Int) : Nat := (i % 18446744073709551616).toNat

/-- A truth value as a number. -/
def ofBool (b : Bool) : Int := if b then 1 else 0

/-- The value of an operator between two operands; nothing for a division by zero. -/
def operate? (op : String) (a b : Int) : Option Int :=
  let ofBits (n : Nat) : Option Int := some (Octets.wrapped (n : Int))
  match op with
  | "|" => ofBits (bits a ||| bits b)
  | "^" => ofBits (bits a ^^^ bits b)
  | "&" => ofBits (bits a &&& bits b)
  | "==" => some (ofBool (decide (a = b)))
  | "!=" => some (ofBool (decide (a ≠ b)))
  | "<=" => some (ofBool (decide (a ≤ b)))
  | ">=" => some (ofBool (decide (a ≥ b)))
  | "<" => some (ofBool (decide (a < b)))
  | ">" => some (ofBool (decide (a > b)))
  | "<<" => some (Octets.wrapped (a * (Nat.pow 2 (bits b % 64) : Nat)))
  | ">>" => some (Int.fdiv a (Nat.pow 2 (bits b % 64) : Nat))
  | "+" => some (Octets.wrapped (a + b))
  | "-" => some (Octets.wrapped (a - b))
  | "*" => some (Octets.wrapped (a * b))
  | "/" => if b = 0 then none else some (Octets.wrapped (Int.tdiv a b))
  | "%" => if b = 0 then none else some (Int.tmod a b)
  | _ => some b

/-- What a calculation works on. -/
structure Progress (σ : Type) where
  rest : List Sign
  state : σ

/-- A step of a calculation; a failure is a complaint. -/
abbrev Calculation (σ : Type) := StateT (Progress σ) (Except Octets)

section

variable {σ : Type} (memory : Memory σ) (source : Octets)

/-- The expression has a mistake. -/
def fail {α : Type} (message : Octets) : Calculation σ α :=
  throw ("arithmetic expression: ".toList ++ message ++ ": \"".toList ++ source ++ ['"'])

/-- The next token. -/
def peek : Calculation σ (Option Sign) := do pure (← get).rest.head?

/-- Goes on behind the next token. -/
def advance : Calculation σ Unit := modify fun p => { p with rest := p.rest.tail }

/-- The value of an operator, or a failure. -/
def operated (op : String) (a b : Int) : Calculation σ Int :=
  match operate? op a b with
  | some i => pure i
  | none => fail source "division by zero"

/-- The value of a variable. -/
def valueOf (name : Octets) : Calculation σ Int := do
  match memory.value (← get).state name with
  | .ok i => pure i
  | .error message => throw message

mutual

/-- An assignment, or a choice. -/
def assignment (n : Nat) (counts : Bool) : Calculation σ Int :=
  match n with
  | 0 => fail source "too long"
  | n + 1 => do
    match (← get).rest with
    | .name name :: op :: rest =>
      match assignment? op with
      | none => choice n counts
      | some op =>
        modify fun p => { p with rest }
        let b ← assignment n counts
        if !counts then pure b
        else
          let i ← if op.isEmpty then pure b
            else do operated source op (← valueOf memory name) b
          match memory.assign (← get).state name i with
          | .ok state =>
            modify fun p => { p with state }
            pure i
          | .error message => throw message
    | _ => choice n counts

/-- A condition and the values it chooses between. -/
def choice (n : Nat) (counts : Bool) : Calculation σ Int :=
  match n with
  | 0 => fail source "too long"
  | n + 1 => do
    let a ← disjunction n counts
    if (← peek) = some (.sign "?") then
      advance
      let b ← assignment n (counts && a != 0)
      if (← peek) != some (.sign ":") then fail source "expecting ':'"
      advance
      let c ← choice n (counts && a = 0)
      pure (if a != 0 then b else c)
    else pure a

/-- Truth values joined by or. -/
def disjunction (n : Nat) (counts : Bool) : Calculation σ Int :=
  match n with
  | 0 => fail source "too long"
  | n + 1 => do
    let a ← conjunction n counts
    if (← peek) = some (.sign "||") then
      advance
      let b ← disjunction n (counts && a = 0)
      pure (ofBool (a != 0 || b != 0))
    else pure a

/-- Truth values joined by and. -/
def conjunction (n : Nat) (counts : Bool) : Calculation σ Int :=
  match n with
  | 0 => fail source "too long"
  | n + 1 => do
    let a ← operand n counts
    let a ← operations n counts a 8
    if (← peek) = some (.sign "&&") then
      advance
      let b ← conjunction n (counts && a != 0)
      pure (ofBool (a != 0 && b != 0))
    else pure a

/-- The operations behind a first operand that bind more than some level. -/
def operations (n : Nat) (counts : Bool) (a : Int) (level : Nat) : Calculation σ Int :=
  match n with
  | 0 => fail source "too long"
  | n + 1 => do
    match ← peek with
    | some (.sign op) =>
      match level? (.sign op) with
      | none => pure a
      | some own =>
        if level ≤ own then pure a
        else
          advance
          let b ← operand n counts
          let b ← operations n counts b own
          let a ← if counts then operated source op a b else pure b
          operations n counts a level
    | _ => pure a

/-- A number, a variable or an expression in brackets, with signs in front. -/
def operand (n : Nat) (counts : Bool) : Calculation σ Int :=
  match n with
  | 0 => fail source "too long"
  | n + 1 => do
    let t ← peek
    advance
    match t with
    | some (.number i) => pure i
    | some (.name name) => if counts then valueOf memory name else pure 0
    | some (.sign "(") =>
      let a ← assignment n counts
      if (← peek) != some (.sign ")") then fail source "expecting ')'"
      advance
      pure a
    | some (.sign "+") => operand n counts
    | some (.sign "-") => do pure (Octets.wrapped (-(← operand n counts)))
    | some (.sign "!") => do pure (ofBool ((← operand n counts) = 0))
    | some (.sign "~") => do pure (-1 - (← operand n counts))
    | _ => fail source "expecting primary"

end

/-- The value of an expression, and the variables after it. -/
def value (state : σ) : Except Octets (Int × σ) := do
  let whole : Calculation σ Int := do
    let i ← assignment memory source (8 * source.length + 32) true
    if (← peek).isSome then fail source "expecting EOF"
    pure i
  let (i, p) ← whole.run ⟨tokens (source.length + 1) source, state⟩
  pure (i, p.state)

end

end Pasteboard.Shell.Arithmetic
