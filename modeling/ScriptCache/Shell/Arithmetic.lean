/-! Integer expressions.

Numbers have 64 bits and wrap around. An expression is read as a whole before anything of
it is evaluated; the right sides of `&&`, `||` and `?:` are evaluated only where they
count. Assignments are gathered, the latest first, for the caller to carry out. -/
namespace ScriptCache.Shell.Arithmetic

/-- What an operator with two sides does. -/
inductive Operator where
  | times
  | quotient
  | remainder
  | plus
  | minus
  | shiftLeft
  | shiftRight
  | less
  | atMost
  | greater
  | atLeast
  | equal
  | unequal
  | bitAnd
  | bitXor
  | bitOr
  deriving DecidableEq

inductive Sign where
  | plus
  | minus
  | not
  | complement
  deriving DecidableEq

inductive Expr where
  | number (n : Int)
  | variable (name : String)
  | signed (sign : Sign) (e : Expr)
  | binary (op : Operator) (a b : Expr)
  | both (a b : Expr)
  | either (a b : Expr)
  | choice (condition yes no : Expr)
  /-- Gives a variable a value, made of its old one if there is an operator. -/
  | assign (name : String) (op : Option Operator) (value : Expr)

inductive Token where
  | number (n : Int)
  | name (text : String)
  | mark (text : String)
  deriving DecidableEq

/-- Why an expression has no value. -/
inductive Fault where
  /-- It is not written as one. -/
  | malformed (problem : String)
  /-- A variable is no number. -/
  | notNumber (text : String)
  deriving DecidableEq

/-- How many numbers there are. -/
@[noinline] def wordSize : Nat := UInt64.size

/-- A number in 64 bits. -/
def wrap (n : Int) : Int := n.bmod wordSize

/-- The greatest number. -/
@[noinline] def greatest : Int := Int64.maxValue.toInt

def digit? (base : Nat) (c : Char) : Option Nat :=
  let value :=
    if c.isDigit then c.toNat - 48
    else if 'a' ≤ c && c ≤ 'f' then c.toNat - 87
    else if 'A' ≤ c && c ≤ 'F' then c.toNat - 55
    else base
  if value < base then some value else none

/-- The number that digits at the start of a text spell, and what comes after. -/
def digits (base : Nat) (cs : List Char) : Nat × List Char :=
  go 0 cs
where
  go (n : Nat) : List Char → Nat × List Char
    | [] => (n, [])
    | c :: rest =>
      match digit? base c with
      | some d => go (base * n + d) rest
      | none => (n, c :: rest)

/-- A number as it may be written: decimal, octal or hexadecimal. -/
def numeral (cs : List Char) : Nat × List Char :=
  match cs with
  | '0' :: x :: d :: rest =>
    if (x == 'x' || x == 'X') && (digit? 16 d).isSome then digits 16 (d :: rest)
    else digits 8 cs
  | '0' :: _ => digits 8 cs
  | _ => digits 10 cs

/-- A number cut to what 64 bits hold. -/
def clamp (n : Int) : Int := max (min n greatest) (-greatest - 1)

def isBlank (c : Char) : Bool := c == ' ' || ('\t' ≤ c && c ≤ '\r')

/-- The number that a whole text spells, blanks around it aside. -/
def number? (text : String) : Option Int :=
  let cs := text.toList.dropWhile isBlank
  let (negative, cs) := match cs with
    | '-' :: rest => (true, rest)
    | '+' :: rest => (false, rest)
    | cs => (false, cs)
  let (n, rest) := numeral cs
  let value := clamp (if negative then -n else n)
  if rest.length < cs.length || text.toList.all isBlank then
    if rest.all isBlank then some value else none
  else none

def marks : List String :=
  ["<<=", ">>=", "&&", "||", "==", "!=", "<=", ">=", "<<", ">>", "+=", "-=", "*=", "/=", "%=",
    "&=", "|=", "^=", "+", "-", "*", "/", "%", "<", ">", "!", "~", "&", "^", "|", "?", ":", "=",
    "(", ")"]

/-- The marks, each with its characters. -/
def spelledMarks : List (List Char × String) := marks.map fun m => (m.toList, m)

/-- The tokens of an expression. -/
def tokens : Nat → List Char → List Token
  | 0, _ => []
  | _, [] => []
  | fuel + 1, c :: rest =>
    if isBlank c then tokens fuel rest
    else if c.isDigit then
      let (n, rest) := numeral (c :: rest)
      .number (clamp n) :: tokens fuel rest
    else if c.isAlpha || c == '_' then
      let name := c :: rest.takeWhile fun c => c.isAlphanum || c == '_'
      .name (String.ofList name) :: tokens fuel (rest.drop (name.length - 1))
    else
      match spelledMarks.find? fun m => m.1.isPrefixOf (c :: rest) with
      | some (cs, m) => .mark m :: tokens fuel (rest.drop (cs.length - 1))
      | none => .mark (String.singleton c) :: tokens fuel rest

/-! ### Reading -/

abbrev Read := StateT (List Token) (Except Fault)

def refuse {α : Type} (problem : String) : Read α := throw (.malformed problem)

/-- Takes the next token if it is a certain mark. -/
def meets (text : String) : Read Bool := do
  match ← get with
  | .mark m :: rest =>
    if m == text then
      set rest
      return true
    else return false
  | _ => return false

/-- The operators with two sides, those that bind tightest first. -/
def levels : List (List (String × Operator)) :=
  [[("*", .times), ("/", .quotient), ("%", .remainder)], [("+", .plus), ("-", .minus)],
    [("<<", .shiftLeft), (">>", .shiftRight)],
    [("<", .less), ("<=", .atMost), (">", .greater), (">=", .atLeast)],
    [("==", .equal), ("!=", .unequal)], [("&", .bitAnd)], [("^", .bitXor)], [("|", .bitOr)]]

def assignments : List (String × Option Operator) :=
  [("=", none), ("*=", some .times), ("/=", some .quotient), ("%=", some .remainder),
    ("+=", some .plus), ("-=", some .minus), ("<<=", some .shiftLeft), (">>=", some .shiftRight),
    ("&=", some .bitAnd), ("^=", some .bitXor), ("|=", some .bitOr)]

def sign? (text : String) : Option Sign :=
  match text with
  | "+" => some .plus
  | "-" => some .minus
  | "!" => some .not
  | "~" => some .complement
  | _ => none

/-- A number, a variable or an expression in parentheses, with signs before it. -/
def primary (inner : Read Expr) : Nat → Read Expr
  | 0 => refuse "expecting primary"
  | fuel + 1 => do
    match ← get with
    | .number n :: rest =>
      set rest
      return .number n
    | .name text :: rest =>
      set rest
      return .variable text
    | .mark m :: rest =>
      match sign? m with
      | some sign =>
        set rest
        return .signed sign (← primary inner fuel)
      | none =>
        if m == "(" then
          set rest
          let e ← inner
          if ← meets ")" then return e else refuse "expecting ')'"
        else refuse "expecting primary"
    | [] => refuse "expecting primary"

/-- The operator of a level that comes next. -/
def operator? (level : List (String × Operator)) : Read (Option Operator) := do
  match ← get with
  | .mark m :: rest =>
    match level.lookup m with
    | some op =>
      set rest
      return some op
    | none => return none
  | _ => return none

/-- A row of operands with operators of one level between them. -/
def rowFrom (operand : Read Expr) (level : List (String × Operator)) : Nat → Expr → Read Expr
  | 0, a => return a
  | fuel + 1, a => do
    match ← operator? level with
    | some op => rowFrom operand level fuel (.binary op a (← operand))
    | none => return a

def row (operand : Read Expr) (level : List (String × Operator)) : Read Expr := do
  let a ← operand
  rowFrom operand level (← get).length a

/-- A row of operands between which one mark stands, grouped to the right. -/
def chained (operand : Read Expr) (mark : String) (join : Expr → Expr → Expr) : Nat → Read Expr
  | 0 => operand
  | fuel + 1 => do
    let a ← operand
    if ← meets mark then return join a (← chained operand mark join fuel) else return a

/-- An expression without an assignment at its start. -/
def conditional (inner : Read Expr) : Nat → Read Expr
  | 0 => refuse "expecting primary"
  | fuel + 1 => do
    let length := (← get).length
    let operand := levels.foldl row (primary inner (length + 1))
    let conjunction := chained operand "&&" .both length
    let condition ← chained conjunction "||" .either length
    if ← meets "?" then
      let yes ← inner
      if ← meets ":" then return .choice condition yes (← conditional inner fuel)
      else refuse "expecting ':'"
    else return condition

/-- An expression, nested no deeper than a number. -/
def expression : Nat → Read Expr
  | 0 => refuse "expecting primary"
  | depth + 1 => do
    match ← get with
    | .name name :: .mark m :: rest =>
      match assignments.lookup m with
      | some op =>
        set rest
        return .assign name op (← expression depth)
      | none => conditional (expression depth) (rest.length + 3)
    | ts => conditional (expression depth) (ts.length + 1)

/-- The expression that a text is. -/
def read (text : String) : Except Fault Expr := do
  let ts := tokens text.length text.toList
  match (expression (ts.length + 1)).run ts with
  | .error fault => .error fault
  | .ok (e, []) => .ok e
  | .ok _ => .error (.malformed "expecting EOF")

/-! ### Evaluating -/

/-- The bits of a number. -/
def bits (n : Int) : BitVec 64 := BitVec.ofInt 64 n

def truth (b : Bool) : Int := if b then 1 else 0

/-- What an operator makes of two numbers. -/
def apply (op : Operator) (a b : Int) : Except Fault Int :=
  match op with
  | .times => .ok (wrap (a * b))
  | .quotient => if b = 0 then .error (.malformed "division by zero") else .ok (wrap (a.tdiv b))
  | .remainder => if b = 0 then .error (.malformed "division by zero") else .ok (wrap (a.tmod b))
  | .plus => .ok (wrap (a + b))
  | .minus => .ok (wrap (a - b))
  | .shiftLeft => .ok (bits a <<< (bits b &&& 63#64).toNat).toInt
  | .shiftRight => .ok ((bits a).sshiftRight (bits b &&& 63#64).toNat).toInt
  | .less => .ok (truth (a < b))
  | .atMost => .ok (truth (a ≤ b))
  | .greater => .ok (truth (b < a))
  | .atLeast => .ok (truth (b ≤ a))
  | .equal => .ok (truth (a == b))
  | .unequal => .ok (truth (a != b))
  | .bitAnd => .ok (bits a &&& bits b).toInt
  | .bitXor => .ok (bits a ^^^ bits b).toInt
  | .bitOr => .ok (bits a ||| bits b).toInt

abbrev Eval := StateT (List (String × Int)) (Except Fault)

/-- The value of a variable: what it was assigned, or what `value?` says. -/
def lookUp (value? : String → Except Fault Int) (name : String) : Eval Int := do
  match (← get).lookup name with
  | some n => return n
  | none => value? name

def eval (value? : String → Except Fault Int) : Expr → Eval Int
  | .number n => return n
  | .variable name => lookUp value? name
  | .signed sign e => do
    let n ← eval value? e
    return match sign with
      | .plus => n
      | .minus => wrap (-n)
      | .not => truth (n == 0)
      | .complement => -n - 1
  | .binary op a b => do
    let a ← eval value? a
    let b ← eval value? b
    apply op a b
  | .both a b => do
    if (← eval value? a) == 0 then return 0 else return truth ((← eval value? b) != 0)
  | .either a b => do
    if (← eval value? a) != 0 then return 1 else return truth ((← eval value? b) != 0)
  | .choice condition yes no => do
    if (← eval value? condition) != 0 then eval value? yes else eval value? no
  | .assign name op value => do
    let n ← eval value? value
    let n ← match op with
      | none => pure n
      | some op => do
        let old ← lookUp value? name
        apply op old n
    modify ((name, n) :: ·)
    return n

/-- What a text comes to, with the assignments that it makes, the latest first. -/
def evaluate (value? : String → Except Fault Int) (text : String) :
    Except Fault (Int × List (String × Int)) := do
  let e ← read text
  (eval value? e).run []

end ScriptCache.Shell.Arithmetic
