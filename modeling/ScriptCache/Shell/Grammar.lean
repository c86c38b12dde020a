import ScriptCache.Shell.Reader

/-! The grammar of shell scripts.

A script is read line by line, so that the lines before a faulty one have run. The rules
call each other through a `Grammar`, the rules one level deeper, and `Grammar.ofDepth`
ties the knot for scripts that nest no deeper than a number. -/
namespace ScriptCache.Shell

/-- Where the pieces of a word stand, which says what ends them. -/
inductive Context where
  | bare
  | quotes
  /-- Between the braces of a parameter, maybe in quotes. -/
  | braces (quoted : Bool)
  | sum
  | document
  deriving DecidableEq

/-- Whether what stands here counts as quoted. -/
def Context.quoted : Context → Bool
  | bare | braces false => false
  | quotes | braces true | sum | document => true

/-- How a list of commands is read. -/
inductive ListKind where
  /-- At least one command. -/
  | full
  | maybeEmpty
  /-- Up to the end of the line. -/
  | line
  deriving DecidableEq

/-- The rules as they apply one level deeper. -/
structure Grammar where
  list : ListKind → Parse Command
  command : Parse Command
  pieces : Context → Parse Word

/-! ### Words -/

/-- What ends a bare word. -/
def endsWord (c : Char) : Bool :=
  [' ', '\t', '\n', ';', '&', '|', '<', '>', '(', ')'].contains c

/-- The parameters that are no names. -/
def isSpecialParam (c : Char) : Bool :=
  c.isDigit || ['!', '#', '$', '?', '*', '@', '-'].contains c

def isNameStart (c : Char) : Bool := c.isAlpha || c == '_'

def isNameChar (c : Char) : Bool := c.isAlphanum || c == '_'

/-- Takes the characters up to the first that is refused. -/
def takeWhile (keep : Char → Bool) : Parse String := do
  let taken := (← get).rest.takeWhile keep
  Parse.skip taken.length
  return String.ofList taken

/-- Takes everything up to the closing quote. -/
def singleQuoted : Parse String := do
  let text ← takeWhile (· != '\x27')
  match ← Parse.next? with
  | some _ => return text
  | none => Parse.refuse "Unterminated quoted string"

/-- What stands between old style quotes of a command, with the backslashes taken off
that are needed there. -/
def backquoted (quoted : Bool) : Nat → List Char → Parse (List Char)
  | 0, _ => Parse.refuse "EOF in backquote substitution"
  | fuel + 1, seen => do
    match ← Parse.next? with
    | none => Parse.refuse "EOF in backquote substitution"
    | some '\x60' => return seen.reverse
    | some '\\' =>
      match ← Parse.next? with
      | none => Parse.refuse "EOF in backquote substitution"
      | some c =>
        if c == '\x60' || c == '\\' || c == '$' || (quoted && c == '"') then
          backquoted quoted fuel (c :: seen)
        else if c == '\n' then backquoted quoted fuel seen
        else backquoted quoted fuel (c :: '\\' :: seen)
    | some c => backquoted quoted fuel (c :: seen)

/-- Reads with a rule on its own: the tokens around it do not see it. -/
def apart (rule : Parse Command) (closing : Option Token) : Parse Command := do
  let around ← get
  set { around with again := none, passNewlines := false, wantKeywords := false, wantAliases := false }
  let command ← rule
  match closing, (← get).last with
  | some _, .closeParen | none, .ended => pure ()
  | some t, _ => Parse.unexpected (some t)
  | none, _ => Parse.unexpected none
  modify fun s => { s with
    again := around.again, last := around.last
    passNewlines := around.passNewlines, wantKeywords := around.wantKeywords
    wantAliases := around.wantAliases }
  return command

/-- The parameter between braces, and whether its length is asked for; nothing if it
has no meaning. -/
def bracedName : Parse (Option (String × Bool)) := do
  match ← Parse.ahead with
  | '#' :: c :: _ =>
    if isNameChar c then
      Parse.skip 1
      let name ← if c.isDigit then takeWhile Char.isDigit else takeWhile isNameChar
      return some (name, true)
    else
      match (← get).rest with
      | '#' :: '\x7d' :: _ =>
        Parse.skip 1
        return some ("#", false)
      | '#' :: c :: '\x7d' :: _ =>
        if isSpecialParam c then
          Parse.skip 2
          return some (String.singleton c, true)
        else
          Parse.skip 1
          return some ("#", false)
      | _ =>
        Parse.skip 1
        return some ("#", false)
  | c :: _ =>
    if isNameStart c then return some (← takeWhile isNameChar, false)
    else if c.isDigit then return some (← takeWhile Char.isDigit, false)
    else if isSpecialParam c then
      Parse.skip 1
      return some (String.singleton c, false)
    else return none
  | [] => return none

def fallback? (c : Char) : Option Fallback :=
  if c == '-' then some .default
  else if c == '=' then some .assign
  else if c == '?' then some .refuse
  else if c == '+' then some .alternative
  else none

/-- What is made of a parameter, up to the closing brace. -/
def use (g : Grammar) (quoted length : Bool) : Parse Use := do
  let otherwise : Parse Use := do
    let _ ← g.pieces (.braces quoted)
    return .broken
  let instead (kind : Fallback) (emptyToo : Bool) (mark : Nat) : Parse Use := do
    Parse.skip mark
    return .fallback kind emptyToo (← g.pieces (.braces quoted))
  let trimmed (atEnd longest : Bool) (mark : Nat) : Parse Use := do
    Parse.skip mark
    return .trim atEnd longest (← g.pieces (.braces false))
  match ← Parse.ahead with
  | '\x7d' :: _ =>
    Parse.skip 1
    return if length then .length else .value
  | c :: rest =>
    if length then otherwise
    else if c == '%' then trimmed true (rest.head? == some '%') (if rest.head? == some '%' then 2 else 1)
    else if c == '#' then trimmed false (rest.head? == some '#') (if rest.head? == some '#' then 2 else 1)
    else if c == ':' then
      match rest.head?.bind fallback? with
      | some kind => instead kind true 2
      | none => otherwise
    else
      match fallback? c with
      | some kind => instead kind false 1
      | none => otherwise
  | [] => otherwise

/-- What stands after a dollar sign. -/
def dollar (g : Grammar) (quoted : Bool) : Parse Piece := do
  match ← Parse.ahead with
  | '(' :: '(' :: _ =>
    Parse.skip 2
    return .sum (← g.pieces .sum) quoted
  | '(' :: _ =>
    Parse.skip 1
    return .output (← apart (g.list .maybeEmpty) (some .closeParen)) quoted
  | '\x7b' :: _ =>
    Parse.skip 1
    match ← bracedName with
    | some (name, length) => return .param name (← use g quoted length) quoted
    | none =>
      let _ ← g.pieces (.braces quoted)
      return .param "" .broken quoted
  | c :: _ =>
    if isNameStart c then return .param (← takeWhile isNameChar) .value quoted
    else if isSpecialParam c then
      Parse.skip 1
      return .param (String.singleton c) .value quoted
    else return .char '$' quoted
  | [] => return .char '$' quoted

/-- A command between old style quotes, which is read once it is unquoted. -/
def oldStyle (g : Grammar) (quoted : Bool) : Parse Piece := do
  let inner ← backquoted quoted forever []
  let outer ← get
  let command ← Parse.within inner (apart (g.list .maybeEmpty) none)
  modify fun s => { s with line := outer.line, ahead := outer.ahead }
  return .output command quoted

/-- Whether a backslash takes the meaning of a character away, where it does not do so
with every character. -/
def escapable (context : Context) (c : Char) : Bool :=
  c == '$' || c == '\x60' || c == '\\' || match context with
    | .document => false
    | .braces _ => c == '"' || c == '\x7d'
    | _ => c == '"'

/-- A character after a backslash. -/
def escaped (context : Context) : Parse Word := do
  match (← get).rest with
  | [] => return [.char '\\' context.quoted]
  | c :: _ =>
    if !context.quoted || escapable context c then
      Parse.skip 1
      return [.char c true]
    else return [.char '\\' true]

/-- Refuses a word that its text ends in, or ends it. -/
def atTextEnd (context : Context) (seen : Word) : Parse Word :=
  match context with
  | .bare | .document => return seen.reverse
  | .quotes | .braces true => Parse.refuse "Unterminated quoted string"
  | .braces false => Parse.refuse "Missing '\x7d'"
  | .sum => Parse.refuse "Missing '))'"

/-- Whether a character stands for itself wherever it is, and does not end anything. -/
def isPlainChar (c : Char) : Bool :=
  c.isAlphanum || c == '_' || c == '-' || c == '.' || c == '/' || c == ','

/-- Reads pieces up to what ends them; `depth` is the number of parentheses that are open
in an expression. -/
def piecesFrom (g : Grammar) (context : Context) : Nat → Nat → Word → Parse Word
  | 0, _, seen => return seen.reverse
  | fuel + 1, depth, seen => do
    let more (depth : Nat) (piece : Piece) := piecesFrom g context fuel depth (piece :: seen)
    let take (depth : Nat) (c : Char) := do
      Parse.skip 1
      more depth (.char c context.quoted)
    match ← Parse.ahead with
    | [] => atTextEnd context seen
    | c :: rest =>
      if isPlainChar c then
        let more := rest.takeWhile isPlainChar
        modify fun s => { s with rest := rest.drop more.length }
        let seen := more.foldl (fun seen c => .char c context.quoted :: seen) (.char c context.quoted :: seen)
        piecesFrom g context fuel depth seen
      else if c == '\\' then
        Parse.skip 1
        piecesFrom g context fuel depth ((← escaped context).reverse ++ seen)
      else if c == '$' then
        Parse.skip 1
        more depth (← dollar g context.quoted)
      else if c == '\x60' then
        Parse.skip 1
        more depth (← oldStyle g context.quoted)
      else if c == '\x27' && !context.quoted then
        Parse.skip 1
        let text ← singleQuoted
        if text.isEmpty then more depth .quotes
        else
          piecesFrom g context fuel depth ((text.toList.map fun c => .char c true).reverse ++ seen)
      else if c == '"' && context == .quotes then
        Parse.skip 1
        return seen.reverse
      else if c == '"' && (!context.quoted || context == .braces true) then
        Parse.skip 1
        let inner ← g.pieces .quotes
        if inner.isEmpty then more depth .quotes
        else piecesFrom g context fuel depth (inner.reverse ++ seen)
      else
        match context with
        | .bare => if endsWord c then return seen.reverse else take depth c
        | .braces _ =>
          if c == '\x7d' then
            Parse.skip 1
            return seen.reverse
          else take depth c
        | .sum =>
          if c == '(' then take (depth + 1) c
          else if c != ')' then take depth c
          else if 0 < depth then take (depth - 1) c
          else if rest.head? == some ')' then
            Parse.skip 2
            return seen.reverse
          else Parse.refuse "Missing '))'"
        | .quotes | .document => take depth c

def piecesRule (g : Grammar) (context : Context) : Parse Word := do
  piecesFrom g context forever 0 []

/-! ### Tokens -/

/-- Passes over blanks and a comment. -/
def skipBlanks : Nat → Parse Unit
  | 0 => return ()
  | fuel + 1 => do
    match ← Parse.ahead with
    | '#' :: _ =>
      let _ ← takeWhile (· != '\n')
    | c :: _ =>
      if c == ' ' || c == '\t' then
        Parse.skip 1
        skipBlanks fuel
    | [] => return ()

/-- The arrow that some characters start with, and its size. -/
def arrow? : List Char → Option (Nat × Arrow × Nat)
  | '>' :: '>' :: _ => some (1, .file .append, 2)
  | '>' :: '&' :: _ => some (1, .join, 2)
  | '>' :: '|' :: _ => some (1, .file .replace, 2)
  | '>' :: _ => some (1, .file .create, 1)
  | '<' :: '<' :: '-' :: _ => some (0, .document true, 3)
  | '<' :: '<' :: _ => some (0, .document false, 2)
  | '<' :: '&' :: _ => some (0, .join, 2)
  | '<' :: '>' :: _ => some (0, .file .update, 2)
  | '<' :: _ => some (0, .file .read, 1)
  | _ => none

/-- A redirection, maybe with a digit before it for its descriptor. -/
def redirection? (cs : List Char) : Option (Nat × Arrow × Nat) :=
  match cs with
  | [] => none
  | c :: rest =>
    if c.isDigit then (arrow? rest).map fun (_, arrow, size) => (c.toNat - 48, arrow, size + 1)
    else arrow? cs

/-- The operator that some characters start with, and its size. -/
def operator? : List Char → Option (Token × Nat)
  | '\n' :: _ => some (.newline, 1)
  | '&' :: '&' :: _ => some (.both, 2)
  | '&' :: _ => some (.ampersand, 1)
  | '|' :: '|' :: _ => some (.either, 2)
  | '|' :: _ => some (.pipe, 1)
  | ';' :: ';' :: _ => some (.caseEnd, 2)
  | ';' :: _ => some (.semicolon, 1)
  | '(' :: _ => some (.openParen, 1)
  | ')' :: _ => some (.closeParen, 1)
  | _ => none

/-- The next token, keywords still words. -/
def rawToken (g : Grammar) : Parse Token := do
  match (← get).again with
  | some t =>
    modify fun s => { s with again := none }
    return t
  | none =>
    skipBlanks forever
    let cs ← Parse.ahead
    modify fun s => if s.aliases.isEmpty then s else { s with tokenStart := s.rest.length }
    if cs.isEmpty then return .ended
    else
      match redirection? cs, operator? cs with
      | some (descriptor, arrow, size), _ =>
        Parse.skip size
        return .arrow descriptor arrow
      | none, some (t, size) =>
        Parse.skip size
        return t
      | none, none => return .word (← g.pieces .bare)

/-- The next token that is no newline. -/
def afterNewlines (g : Grammar) : Nat → Parse Token
  | 0 => rawToken g
  | fuel + 1 => do
    match ← rawToken g with
    | .newline => afterNewlines g fuel
    | t => return t

/-- The text of an alias that is to be read in place of the last token. It is none if the
token stands in its own text. -/
def aliasText? (s : Reader) (t : Token) : Option (String × String) :=
  match t with
  | .word w => do
    let name ← plain? w
    let text ← s.aliases.lookup name
    if s.expanding.any fun e => e.name == name && e.left < s.tokenStart then none
    else some (name, text)
  | _ => none

/-- The next token as what it is looked for, aliases replaced. -/
def tokenFrom (g : Grammar) (newlines keywords : Bool) : Nat → (aliases : Bool) → Parse Token
  | 0, _ => rawToken g
  | fuel + 1, aliases => do
    let old := (← get).again.isSome
    let t ← if newlines then afterNewlines g forever else rawToken g
    let s ← get
    let ended := s.expanding.filter fun e => s.tokenStart ≤ e.left
    let aliases := aliases || ended.any (·.endsInBlank)
    let s := { s with expanding := s.expanding.filter fun e => e.left < s.tokenStart }
    set s
    let keyword := match t with
      | .word w => if keywords then (plain? w).bind Keyword.of? else none
      | _ => none
    match keyword with
    | some k => return .keyword k
    | none =>
      match if aliases && !old then aliasText? s t else none with
      | none => return t
      | some (name, text) =>
        let e : Expanding := ⟨name, s.rest.length, text.endsWith " " || text.endsWith "\t"⟩
        set { s with rest := text.toList ++ s.rest, expanding := e :: s.expanding }
        tokenFrom g newlines keywords fuel aliases

/-- The next token, as what it was looked for. -/
def token (g : Grammar) : Parse Token := do
  let s ← get
  Parse.looking false false false
  let t ← tokenFrom g s.passNewlines s.wantKeywords forever s.wantAliases
  modify fun s => { s with last := t }
  return t

def expect (g : Grammar) (wanted : Token) (met : Token → Bool) : Parse Unit := do
  if !met (← token g) then Parse.unexpected (some wanted)

def expectKeyword (g : Grammar) (k : Keyword) : Parse Unit :=
  expect g (.keyword k) (·.isKeyword k)

/-! ### Redirections -/

/-- The lines of a document up to the one that ends it, what comes after, how many lines there
are, and whether one has ended it. -/
def documentLines (stripped : Bool) (mark : List Char) :
    Nat → List Char → List (List Char) → List Char × List Char × Nat × Bool
  | 0, rest, seen => (seen.reverse.flatten, rest, seen.length, false)
  | fuel + 1, rest, seen =>
    if rest.isEmpty then (seen.reverse.flatten, [], seen.length, false)
    else
      let whole := rest.takeWhile (· != '\n')
      let after := rest.drop (whole.length + 1)
      let line := if stripped then whole.dropWhile (· == '\t') else whole
      if line == mark then (seen.reverse.flatten, after, seen.length + 1, true)
      else
        let ended := whole.length < rest.length
        documentLines stripped mark fuel after ((if ended then line ++ ['\n'] else line) :: seen)

/-- What the quotes of a word leave of it. -/
def unquoted (w : Word) : List Char :=
  w.filterMap fun piece => match piece with
    | .char c _ => some c
    | _ => none

def Piece.isBare : Piece → Bool
  | .char _ quoted => !quoted
  | .quotes => false
  | .param .. | .output .. | .sum .. => true

/-- Takes the document that follows the line under way. It is expanded unless some of
its mark is quoted. -/
def document (g : Grammar) (stripped : Bool) (mark : Word) : Parse Word := do
  let s ← get
  let line := s.rest.takeWhile (· != '\n')
  let (content, after, lines, isEnded) :=
    documentLines stripped (unquoted mark) forever (s.rest.drop (line.length + 1)) []
  if !isEnded then Parse.atEnd
  let resumed := { s with rest := line ++ ['\n'] ++ after, ahead := s.ahead + lines }
  if mark.all Piece.isBare then
    set { s with line := s.line + 1 + s.ahead, again := none }
    let pieces ← Parse.within content (g.pieces .document)
    set resumed
    return pieces
  else
    set resumed
    return content.map fun c => .char c true

/-- What another descriptor can be written as. -/
def isTarget (w : Word) : Bool :=
  match plain? w with
  | some text => text == "-" || (text.length == 1 && text.all Char.isDigit)
  | none => w.any fun piece => match piece with
    | .char .. | .quotes => false
    | _ => true

/-- The word that an arrow needs. -/
def redirection (g : Grammar) (descriptor : Nat) (arrow : Arrow) : Parse Redirection := do
  match ← token g with
  | .word w =>
    match arrow with
    | .file mode => return .file descriptor mode w
    | .join => if isTarget w then return .join descriptor w else Parse.refuse "Bad fd number"
    | .document stripped => return .document descriptor (← document g stripped w)
  | _ => Parse.unexpected none

/-- The redirections after a compound command. -/
def redirections (g : Grammar) : Nat → List Redirection → Parse (List Redirection)
  | 0, seen => return seen.reverse
  | fuel + 1, seen => do
    Parse.commandAhead false
    match ← token g with
    | .arrow descriptor arrow => redirections g fuel ((← redirection g descriptor arrow) :: seen)
    | _ =>
      Parse.putBack
      return seen.reverse

/-! ### Commands -/

/-- An assignment, if a word is one. -/
def assignment? (w : Word) : Option (String × Word) :=
  let name := (w.map Piece.plain?).takeWhile fun c => c.any isNameChar
  let text := String.ofList (name.filterMap id)
  match w.drop name.length with
  | .char '=' false :: value => if isName text then some (text, value) else none
  | _ => none

/-- The commands that the grammar keeps functions from replacing. -/
def specialCommands : List String :=
  [".", ":", "break", "continue", "eval", "exec", "exit", "export", "local", "readonly", "return",
    "set", "shift", "times", "trap", "unset"]

/-- The parts of a simple command, or the start of a function. -/
def simpleFrom (g : Grammar) (line : Nat) :
    Nat → List (String × Word) → List Word → List Redirection → Parse Command
  | 0, assignments, words, arrows =>
    return .simple line assignments.reverse words.reverse arrows.reverse
  | fuel + 1, assignments, words, arrows => do
    let finish : Parse Command := do
      Parse.putBack
      return .simple line assignments.reverse words.reverse arrows.reverse
    if words.isEmpty then Parse.looking false false true
    match ← token g with
    | .word w =>
      match words, assignment? w with
      | [], some a => simpleFrom g line fuel (a :: assignments) [] arrows
      | _, _ => simpleFrom g line fuel assignments (w :: words) arrows
    | .arrow descriptor arrow =>
      simpleFrom g line fuel assignments words ((← redirection g descriptor arrow) :: arrows)
    | .openParen =>
      match assignments, words, arrows with
      | [], [w], [] =>
        expect g .closeParen fun t => match t with
          | .closeParen => true
          | _ => false
        let name := (plain? w).getD ""
        if !isName name || specialCommands.contains name then Parse.refuse "Bad function name"
        else
          Parse.commandAhead true
          return .definition (← get).line name (← g.command)
      | _, _, _ => finish
    | _ => finish

/-- The words that a name runs through. -/
def eachWords (g : Grammar) : Nat → List Word → Parse (List Word)
  | 0, seen => return seen.reverse
  | fuel + 1, seen => do
    match ← token g with
    | .word w => eachWords g fuel (w :: seen)
    | .newline | .semicolon => return seen.reverse
    | _ => Parse.unexpected none

def eachRule (g : Grammar) (line : Nat) : Parse Command := do
  let name ← match ← token g with
    | .word w =>
      match plain? w with
      | some name => if isName name then pure name else Parse.refuse "Bad for loop variable"
      | none => Parse.refuse "Bad for loop variable"
    | _ => Parse.refuse "Bad for loop variable"
  Parse.commandAhead true
  let words ← match ← token g with
    | .keyword .in_ => eachWords g forever []
    | .semicolon => pure [[.param "@" .value true]]
    | _ => do
      Parse.putBack
      pure [[.param "@" .value true]]
  Parse.commandAhead true
  expectKeyword g .do_
  let body ← g.list .full
  expectKeyword g .done_
  return .each line name words body

/-- The patterns of a case, of which the first was read. -/
def patterns (g : Grammar) : Nat → List Word → Parse (List Word)
  | 0, seen => return seen.reverse
  | fuel + 1, seen => do
    let seen := match (← get).last with
      | .word w => w :: seen
      | .keyword k => (k.text.toList.map fun c => .char c false) :: seen
      | _ => [] :: seen
    match ← token g with
    | .pipe =>
      let _ ← token g
      patterns g fuel seen
    | .closeParen => return seen.reverse
    | _ => Parse.unexpected (some .closeParen)

def casesFrom (g : Grammar) :
    Nat → List (List Word × Command) → Parse (List (List Word × Command))
  | 0, seen => return seen.reverse
  | fuel + 1, seen => do
    Parse.looking true true false
    match ← token g with
    | .keyword .esac => return seen.reverse
    | t =>
      match t with
      | .openParen =>
        let _ ← token g
      | _ => pure ()
      let choices ← patterns g forever []
      let body ← g.list .maybeEmpty
      let seen := (choices, body) :: seen
      Parse.looking true true false
      match ← token g with
      | .keyword .esac => return seen.reverse
      | .caseEnd => casesFrom g fuel seen
      | _ => Parse.unexpected (some .caseEnd)

def selectRule (g : Grammar) (line : Nat) : Parse Command := do
  match ← token g with
  | .word w =>
    Parse.commandAhead true
    expectKeyword g .in_
    return .select line w (← casesFrom g forever [])
  | _ => Parse.unexpected (some (.word []))

/-- The branches of a choice after its first condition. -/
def branches (g : Grammar) : Nat → Parse (Command × Command)
  | 0 => return (.nothing, .nothing)
  | fuel + 1 => do
    expectKeyword g .then_
    let yes ← g.list .full
    match ← token g with
    | .keyword .elif =>
      let condition ← g.list .full
      let (yes', no') ← branches g fuel
      return (yes, .choice condition yes' no')
    | .keyword .else_ => return (yes, ← g.list .full)
    | _ =>
      Parse.putBack
      return (yes, .nothing)

def loopRule (g : Grammar) (until_ : Bool) : Parse Command := do
  let condition ← g.list .full
  expectKeyword g .do_
  let body ← g.list .full
  expectKeyword g .done_
  return .loop until_ condition body

/-- A compound command with the redirections after it. -/
def withRedirections (g : Grammar) (line : Nat) (body : Command) : Parse Command := do
  let arrows ← redirections g forever []
  return match body with
    | .subshell line body _ => .subshell line body arrows
    | body => if arrows.isEmpty then body else .redirected line body arrows

def commandRule (g : Grammar) : Parse Command := do
  let line := (← get).line
  match ← token g with
  | .keyword .if_ =>
    let condition ← g.list .full
    let (yes, no) ← branches g forever
    expectKeyword g .fi
    withRedirections g line (.choice condition yes no)
  | .keyword .while_ => withRedirections g line (← loopRule g false)
  | .keyword .until_ => withRedirections g line (← loopRule g true)
  | .keyword .for_ => withRedirections g line (← eachRule g line)
  | .keyword .case_ => withRedirections g line (← selectRule g line)
  | .keyword .openBrace =>
    let body ← g.list .full
    expectKeyword g .closeBrace
    withRedirections g line body
  | .openParen =>
    let body ← g.list .full
    expect g .closeParen fun t => match t with
      | .closeParen => true
      | _ => false
    withRedirections g line (.subshell line body [])
  | .word _ | .arrow .. =>
    Parse.putBack
    simpleFrom g line forever [] [] []
  | _ => Parse.unexpected none

def stagesFrom (g : Grammar) : Nat → List Command → Parse (List Command)
  | 0, seen => return seen.reverse
  | fuel + 1, seen => do
    match ← token g with
    | .pipe =>
      Parse.commandAhead true
      stagesFrom g fuel ((← commandRule g) :: seen)
    | _ =>
      Parse.putBack
      return seen.reverse

def pipelineRule (g : Grammar) : Parse Command := do
  let negated := (← token g).isKeyword .not
  if negated then Parse.commandAhead false else Parse.putBack
  let first ← commandRule g
  let stages ← stagesFrom g forever [first]
  let whole := match stages with
    | [one] => one
    | stages => .pipeline stages
  return if negated then .negation whole else whole

def chainFrom (g : Grammar) : Nat → Command → Parse Command
  | 0, first => return first
  | fuel + 1, first => do
    match ← token g with
    | .both =>
      Parse.commandAhead true
      chainFrom g fuel (.conjunction first (← pipelineRule g))
    | .either =>
      Parse.commandAhead true
      chainFrom g fuel (.disjunction first (← pipelineRule g))
    | _ =>
      Parse.putBack
      return first

def chainRule (g : Grammar) : Parse Command := do
  let first ← pipelineRule g
  chainFrom g forever first

/-- A list of commands after those that were read. -/
def listFrom (g : Grammar) (kind : ListKind) : Nat → Bool → Command → Parse Command
  | 0, _, seen => return seen
  | fuel + 1, mayEnd, seen => do
    Parse.commandAhead (kind != .line)
    match ← token g with
    | .newline => return seen
    | .ended =>
      Parse.putBack
      return seen
    | t =>
      Parse.putBack
      if mayEnd && kind != .line && t.endsList then return seen
      else
        let one ← chainRule g
        match ← token g with
        | .ampersand => listFrom g kind fuel true (seen.andThen (.background one))
        | .semicolon => listFrom g kind fuel true (seen.andThen one)
        | .newline =>
          Parse.putBack
          listFrom g kind fuel true (seen.andThen one)
        | .ended =>
          Parse.putBack
          return seen.andThen one
        | _ =>
          if kind == .line then Parse.unexpected none
          else
            Parse.putBack
            return seen.andThen one

def listRule (g : Grammar) (kind : ListKind) : Parse Command := do
  listFrom g kind forever (kind == .maybeEmpty) .nothing

/-- The rules for scripts that nest no deeper than a number. -/
def Grammar.ofDepth : Nat → Grammar
  | 0 =>
    { list := fun _ => Parse.unexpected none
      command := Parse.unexpected none
      pieces := fun _ => Parse.unexpected none }
  | depth + 1 =>
    { list := fun kind s => listRule (ofDepth depth) kind s
      command := fun s => commandRule (ofDepth depth) s
      pieces := fun context s => piecesRule (ofDepth depth) context s }

/-- The commands of the next line, and what comes after them; nothing at the end. -/
def Reader.line? (s : Reader) : Except Fault (Option (Command × Reader)) :=
  match ((Grammar.ofDepth forever).list .line).run { s with again := none } with
  | .error fault => .error fault
  | .ok (.nothing, after) =>
    match after.last with
    | .ended => .ok none
    | _ => .ok (some (.nothing, { after with again := none }))
  | .ok (command, after) => .ok (some (command, { after with again := none }))

end ScriptCache.Shell
