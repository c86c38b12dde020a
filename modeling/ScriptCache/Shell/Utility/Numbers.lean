import ScriptCache.Shell.Format
import ScriptCache.Shell.Regex
import ScriptCache.Shell.Utility.Call

/-! Utilities that calculate. -/
namespace ScriptCache.Shell.Utility

/-! ### Expressions of arguments -/

/-- Why an expression of arguments has no value. -/
inductive ExprFault where
  | malformed (problem : String)
  | notInteger
  | divided
  | badPattern (problem : String)

def ExprFault.text : ExprFault → String
  | malformed problem => "syntax error: " ++ problem
  | notInteger => "non-integer argument"
  | divided => "division by zero"
  | badPattern problem => problem

/-- Reads arguments: those that are left, and the one before them. -/
abbrev ExprRead := StateT (List String × String) (Except ExprFault)

/-- Whether a text is an integer. -/
def integer? (text : String) : Option Int :=
  let (negative, digits) := match text.toList with
    | '-' :: rest => (true, rest)
    | cs => (false, cs)
  (decimal? (String.ofList digits)).map fun n => if negative then -(n : Int) else n

/-- Whether a value counts as none. -/
def isNull (text : String) : Bool :=
  let digits := match text.toList with
    | '-' :: c :: rest => c :: rest
    | cs => cs
  text.isEmpty || digits.all (· == '0')

def integerOf (text : String) : ExprRead Int :=
  match integer? text with
  | some n => return n
  | none => throw .notInteger

/-- Takes the next argument, which has to be there. -/
def nextWord : ExprRead String := do
  let (rest, last) ← get
  match rest with
  | [] => throw (.malformed ("missing argument after " ++ quoted last))
  | word :: rest =>
    set (rest, word)
    return word

/-- Takes the next argument if it is one of some. -/
def nextOf? (words : List String) : ExprRead (Option String) := do
  let (rest, _) ← get
  match rest with
  | word :: more =>
    if words.contains word then
      set (more, word)
      return some word
    else return none
  | [] => return none

/-- What a text matches of a pattern: the first group if there is one, or the size. -/
def matched (text pattern : String) : ExprRead String := do
  let d : Regex.Dialect := { extended := false, linewise := false }
  match Regex.read d pattern with
  | .error problem => throw (.badPattern problem)
  | .ok (e, groups) =>
    let bytes := (Latin.toBytes text).toArray
    match Regex.matchAt? d e bytes 0 with
    | some found =>
      return if groups == 0 then toString found.stop else Latin.ofBytes (found.group bytes 1)
    | none => return if groups == 0 then "0" else ""

/-- Compares two values as numbers, if both are, or as texts. -/
def compareValues (a b : String) : Ordering :=
  match integer? a, integer? b with
  | some x, some y => compare x y
  | _, _ => Bytes.compare (Latin.toBytes a) (Latin.toBytes b)

/-- A row of operands with operators of one kind between them. -/
def exprRow (operand : ExprRead String) (words : List String) (apply : String → String → String → ExprRead String) :
    Nat → String → ExprRead String
  | 0, a => return a
  | fuel + 1, a => do
    match ← nextOf? words with
    | none => return a
    | some op =>
      let b ← operand
      exprRow operand words apply fuel (← apply op a b)

/-- An expression with parentheses no deeper than a number. -/
def exprRule : Nat → ExprRead String
  | 0 => throw (.malformed "unexpected end")
  | depth + 1 => do
    let fuel := (← get).1.length + 1
    let rec operand : Nat → ExprRead String
      | 0 => throw (.malformed "unexpected end")
      | fuel + 1 => do
        let word ← nextWord
        match word with
        | "(" =>
          let v ← exprRule depth
          match (← get).1 with
          | [] => throw (.malformed ("expecting ')' after " ++ quoted (← get).2))
          | ")" :: rest =>
            set (rest, ")")
            return v
          | other :: _ => throw (.malformed ("expecting ')' instead of " ++ quoted other))
        | ")" => throw (.malformed "unexpected ')'")
        | "+" => nextWord
        | "length" => return toString (← operand fuel).length
        | "match" =>
          let text ← operand fuel
          matched text (← operand fuel)
        | "index" =>
          let text ← operand fuel
          let set_ ← operand fuel
          return toString ((text.toList.findIdx? set_.toList.contains).elim 0 (· + 1))
        | "substr" =>
          let text ← operand fuel
          let place ← operand fuel
          let size ← operand fuel
          return match integer? place, integer? size with
            | some p, some n =>
              if p < 1 || n < 1 then "" else String.ofList ((text.toList.drop (p.toNat - 1)).take n.toNat)
            | _, _ => ""
        | word => return word
    let chain (lower : ExprRead String) (words : List String) (apply : String → String → String → ExprRead String) :
        ExprRead String := do exprRow lower words apply fuel (← lower)
    let arithmetic (op a b : String) : ExprRead String := do
      let x ← integerOf a
      let y ← integerOf b
      match op with
      | "+" => return toString (x + y)
      | "-" => return toString (x - y)
      | "*" => return toString (x * y)
      | "/" => if y == 0 then throw .divided else return toString (x.tdiv y)
      | _ => if y == 0 then throw .divided else return toString (x.tmod y)
    let compared (op a b : String) : ExprRead String := do
      let order := compareValues a b
      let holds : Bool := match op with
        | "<" => order == .lt
        | "<=" => order != .gt
        | "=" | "==" => order == .eq
        | "!=" => order != .eq
        | ">=" => order != .lt
        | _ => order == .gt
      return if holds then "1" else "0"
    let matching := chain (operand fuel) [":"] fun _ a b => matched a b
    let product := chain matching ["*", "/", "%"] arithmetic
    let sum := chain product ["+", "-"] arithmetic
    let comparison := chain sum ["<", "<=", "=", "==", "!=", ">=", ">"] compared
    let conjunction := chain comparison ["&"] fun _ a b => return if isNull a || isNull b then "0" else a
    chain conjunction ["|"] fun _ a b => return if !isNull a then a else if isNull b then "0" else b

def expr (args : List String) : Act Nat := do
  let args := match args with
    | "--" :: rest => rest
    | args => args
  if args.isEmpty then misusedWith 2 "expr" "missing operand"
  else
    let give (fault : ExprFault) : Act Nat := do
      complain "expr" fault.text
      return 2
    match (exprRule (args.length + 1)).run (args, "") with
    | .error fault => give fault
    | .ok (_, other :: _, _) => give (.malformed ("unexpected argument " ++ quoted other))
    | .ok (value, [], _) =>
      let _ ← putText (value ++ "\n")
      return if isNull value then 1 else 0

/-! ### Factors -/

/-- The prime factors of a number that are not less than `d`. -/
def factorsFrom : Nat → Nat → Nat → List Nat
  | 0, _, n => if 1 < n then [n] else []
  | fuel + 1, d, n =>
    if n < 2 then []
    else if n < d * d then [n]
    else if n % d == 0 then d :: factorsFrom fuel d (n / d)
    else factorsFrom fuel (d + 1) n

/-- The most numbers that are tried as factors. -/
def factorLimit : Nat := 2000000

def factor (args : List String) : Act Nat := do
  let (failure, words) ← if args.isEmpty then do
      match ← Act.readAll 0 with
      | .ok bytes => pure (0, ((Latin.ofBytes bytes).split fun c => c == ' ' || c == '\n' || c == '\t').toList.map
          (·.toString) |>.filter (! ·.isEmpty))
      | .error e => do
        complain "factor" ("error reading input: " ++ e.text)
        pure (1, [])
    else pure (0, args)
  let status ← worst (words.map fun word => do
    match decimal? word with
    | none =>
      complain "factor" (quoted word ++ " is not a valid positive integer")
      return 1
    | some n =>
      putText (toString n ++ ":" ++ String.join ((factorsFrom factorLimit 2 n).map fun p => " " ++ toString p) ++ "\n"))
  return max failure status

/-! ### Spans of time -/

/-- How many nanoseconds a number with a unit is, as `sleep` takes it. -/
def span? (text : String) : Option Nat :=
  match Numeric.read? .extended text.toList with
  | none => none
  | some found =>
    let unit? := match found.rest with
      | [] | ['s'] => some 1
      | ['m'] => some 60
      | ['h'] => some 3600
      | ['d'] => some 86400
      | _ => none
    match found.value, unit? with
    | .finite false m e, some unit =>
      let (n, d) := Numeric.fraction m e
      some ((n * unit * 1000000000 + d - 1) / d)
    | .infinite false, some _ => some UInt64.size
    | _, _ => none

def sleep (args : List String) : Act Nat := do
  match args.find? fun text => (span? text).isNone with
  | some bad =>
    let problem := match bad.toList with
      | '-' :: c :: _ => if bad.startsWith "--" then "unrecognized option " ++ inQuotes bad
          else "invalid option -- " ++ inQuotes (String.singleton c)
      | _ => "invalid time interval " ++ quoted bad
    misused "sleep" problem
  | none =>
    if args.isEmpty then misused "sleep" "missing operand"
    else
      Act.sleep ((args.filterMap span?).foldl (· + ·) 0)
      return 0

end ScriptCache.Shell.Utility
