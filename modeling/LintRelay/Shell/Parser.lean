import LintRelay.Shell.Script

/-!
# Reading shell scripts

A script is read one complete command at a time, since what stands behind a command is only read
once that command has run. Reading recurses on a bound that the length of the text provides.
-/

namespace LintRelay.Shell

/-- Why a command cannot be read. -/
inductive ScriptError where
  | unterminatedQuote
  | missingBrace
  | missingParentheses
  | missingBackquote
  | badLoopVariable
  | badFunctionName
  | badDescriptor
  /-- Something stands where it may not, and perhaps something else was expected. -/
  | unexpected (token : String) (expected : Option String)
  deriving Repr, DecidableEq

def ScriptError.message : ScriptError → String
  | .unterminatedQuote => "Syntax error: Unterminated quoted string"
  | .missingBrace => "Syntax error: Missing '\x7d'"
  | .missingParentheses => "Syntax error: Missing '))'"
  | .missingBackquote => "Syntax error: EOF in backquote substitution"
  | .badLoopVariable => "Syntax error: Bad for loop variable"
  | .badFunctionName => "Syntax error: Bad function name"
  | .badDescriptor => "Syntax error: Bad fd number"
  | .unexpected token expected =>
    "Syntax error: " ++ token ++ " unexpected" ++
      match expected with
      | some e => " (expecting \"" ++ e ++ "\")"
      | none => ""

/-- An error at a place of a script, of which so many line ends are left. -/
structure ScriptFault where
  error : ScriptError
  left : Nat
  deriving Repr, DecidableEq

/-- What is known while a command is read. -/
structure ScriptContext where
  /-- The number of line ends in the whole script. -/
  lines : Nat
  /-- The texts that are read in place of words where a command begins. -/
  aliases : List (String × Octets)

/-- The parts of the shell that are special: they cannot be functions, and where they fail the shell
ends. -/
def specialBuiltins : List String :=
  [".", ":", "break", "continue", "eval", "exec", "exit", "export", "local", "readonly", "return",
    "set", "shift", "times", "trap", "unset"]

/-- Reads something from the front of a text. -/
abbrev Reading (α : Type) := StateT Octets (Except ScriptFault) α

/-- Whether a character ends an unquoted word. -/
def endsWord (c : Char) : Bool := " \t\n;&|<>()".toList.contains c

/-- What kind of text pieces are read from, which decides what is special in it. -/
inductive Surrounding where
  | bare
  | doubleQuoted
  | braces (quoted : Bool)
  /-- Inside an arithmetic expression, under so many open parentheses. -/
  | arithmetic (depth : Nat)
  | inline
  deriving Repr, DecidableEq

/-- Whether pieces of the text are quoted. -/
def Surrounding.quotes : Surrounding → Bool
  | .bare => false
  | .braces q => q
  | _ => true

/-- What is open where the end of a command substitution is looked for. -/
inductive Opened where
  | quote (c : Char)
  | parenthesis
  /-- A choice, whose patterns end with parentheses that close nothing. -/
  | choice
  | comment
  deriving Repr, DecidableEq

/-- Words behind which a command may begin. -/
def leadingWords : List String :=
  ["then", "do", "else", "elif", "if", "while", "until", "!", "\x7b", "in"]

/-- What is open once a word has ended, and whether a command may begin behind it. -/
def afterWord (opened : List Opened) (begins : Bool) (word : Octets) : List Opened × Bool :=
  let text := String.ofList word.reverse
  if word.isEmpty then (opened, begins)
  else if begins && text == "case" then (.choice :: opened, false)
  else if begins && text == "esac" && opened.head? == some .choice then (opened.drop 1, false)
  else (opened, leadingWords.contains text)

/-- The text up to the parenthesis that closes a command substitution, and what follows it. `word` is
the word that has begun, reversed, `begins` says whether a command may begin with it, `isProtected`
that a backslash precedes, and `acc` holds what was passed. -/
def untilClose (opened : List Opened) (begins : Bool) (word : Octets) (isProtected : Bool)
    (acc : Octets) : Octets → Option (Octets × Octets)
  | [] => none
  | c :: cs =>
    let on (opened : List Opened) (begins : Bool) (word : Octets) :=
      untilClose opened begins word false (c :: acc) cs
    if isProtected then on opened begins (c :: '\\' :: word)
    else
      match opened with
      | .comment :: outer => on (if c == '\n' then outer else opened) (begins || c == '\n') []
      | .quote q :: outer =>
        if c == q then on outer begins (c :: word)
        else if q == '\'' then on opened begins word
        else if c == '\\' then untilClose opened begins word true (c :: acc) cs
        else if q == '"' && c == '\x60' then on (.quote c :: opened) begins word
        else if q == '"' && c == '(' && acc.head? == some '$' then
          on (.parenthesis :: opened) true []
        else on opened begins word
      | _ =>
        if c == '\\' then untilClose opened begins word true (c :: acc) cs
        else if c == '\'' || c == '"' || c == '\x60' then on (.quote c :: opened) begins (c :: word)
        else if c == '#' && word.isEmpty then on (.comment :: opened) begins []
        else if !endsWord c then on opened begins (c :: word)
        else
          let (opened, begins) := afterWord opened begins word
          if c == '(' then on (.parenthesis :: opened) true []
          else if c == ')' then
            match opened with
            | [] => some (acc.reverse, cs)
            | .parenthesis :: outer =>
              -- A substitution inside quotes goes on with the quotes.
              on outer false [')']
            | opened => on opened true []
          else on opened (begins || c == '\n' || c == ';' || c == '&' || c == '|') []

/-- The text up to a closing backquote, without the backslashes that protect, and what follows. Inside
quotes a backslash protects a quote too. -/
def untilBackquote (quoted : Bool) : Octets → Octets → Option (Octets × Octets)
  | _, [] => none
  | acc, '\\' :: c :: cs =>
    if c == '\\' || c == '$' || c == '\x60' || (quoted && c == '"') then
      untilBackquote quoted (c :: acc) cs
    else untilBackquote quoted (c :: '\\' :: acc) cs
  | acc, c :: cs =>
    if c == '\x60' then some (acc.reverse, cs) else untilBackquote quoted (c :: acc) cs

/-- Parameters that are named by one character other than a letter. -/
def specialParameters : Octets := "@*#?-$!0123456789".toList

/-- The name of a parameter at the front of a text. Where `long` is set, it may have several
digits. -/
def parameterName (long : Bool) : Octets → Option (Octets × Octets)
  | [] => none
  | c :: cs =>
    if c.isDigit then
      if long then some ((c :: cs).span Char.isDigit) else some ([c], cs)
    else if isNameChar c then some ((c :: cs).span isNameChar)
    else if specialParameters.contains c then some ([c], cs)
    else none

/-- The adjustment that an operator behind a parameter asks for. -/
def adjustmentOf : Octets → Option (Adjustment × Octets)
  | ':' :: '-' :: cs => some (.default true, cs)
  | ':' :: '=' :: cs => some (.assign true, cs)
  | ':' :: '?' :: cs => some (.demand true, cs)
  | ':' :: '+' :: cs => some (.alternative true, cs)
  | '-' :: cs => some (.default false, cs)
  | '=' :: cs => some (.assign false, cs)
  | '?' :: cs => some (.demand false, cs)
  | '+' :: cs => some (.alternative false, cs)
  | '#' :: '#' :: cs => some (.dropFront true, cs)
  | '#' :: cs => some (.dropFront false, cs)
  | '%' :: '%' :: cs => some (.dropEnd true, cs)
  | '%' :: cs => some (.dropEnd false, cs)
  | _ => none

/-- Puts a character in front of pieces, into the first one where that is text of its kind. -/
def consChar (c : Char) (quoted : Bool) : List Piece → List Piece
  | .text cs q :: ps =>
    if q == quoted then .text (c :: cs) q :: ps else .text [c] quoted :: .text cs q :: ps
  | ps => .text [c] quoted :: ps

/-- Whether a backslash protects `c` in a quoted text. -/
def isProtected (s : Surrounding) (c : Char) : Bool :=
  c == '$' || c == '\x60' || c == '\\' || (c == '"' && s != .inline) ||
    (c == '\x7d' && s == .braces true)

mutual

/-- The pieces of a text up to the end of its surrounding, and what follows. -/
def pieces : Nat → Surrounding → Octets → Except ScriptError (List Piece × Octets)
  | 0, _, _ => .error .unterminatedQuote
  | fuel + 1, s, cs => do
    let more (front : List Piece) (rest : Octets) := do
      let (ps, rest) ← pieces fuel s rest
      return (front ++ ps, rest)
    let plain (c : Char) (rest : Octets) := do
      let (ps, rest) ← pieces fuel s rest
      return (consChar c s.quotes ps, rest)
    match cs with
    | [] =>
      match s with
      | .bare | .inline => return ([], [])
      | .doubleQuoted => throw .unterminatedQuote
      | .braces _ => throw .missingBrace
      | .arithmetic _ => throw .missingParentheses
    | '\\' :: '\n' :: rest => pieces fuel s rest
    | '\\' :: c :: rest =>
      if s.quotes && !isProtected s c then plain '\\' (c :: rest)
      else more [.text [c] true] rest
    | '$' :: rest => dollar fuel s rest
    | '\x60' :: rest =>
      match untilBackquote (s != .inline && s.quotes) [] rest with
      | some (source, rest) => more [.output source s.quotes] rest
      | none => throw .missingBackquote
    | '\'' :: rest =>
      if s.quotes then plain '\'' rest
      else
        match rest.span (· != '\'') with
        | (inside, _ :: rest) => more [.text inside true] rest
        | _ => throw .unterminatedQuote
    | '"' :: rest =>
      match s with
      | .doubleQuoted => return ([], rest)
      | .inline => plain '"' rest
      | .arithmetic _ => pieces fuel s rest
      | _ =>
        let (inside, rest) ← pieces fuel .doubleQuoted rest
        more (if inside.isEmpty then [.text [] true] else inside) rest
    | c :: rest =>
      match s with
      | .bare => if endsWord c then return ([], cs) else plain c rest
      | .braces _ => if c == '\x7d' then return ([], rest) else plain c rest
      | .arithmetic depth =>
        if c == '(' then do
          let (ps, rest) ← pieces fuel (.arithmetic (depth + 1)) rest
          return (consChar c true ps, rest)
        else if c == ')' then
          match depth, rest with
          | 0, ')' :: rest => return ([], rest)
          | 0, _ => plain c rest
          | depth + 1, _ => do
            let (ps, rest) ← pieces fuel (.arithmetic depth) rest
            return (consChar c true ps, rest)
        else plain c rest
      | _ => plain c rest

/-- The pieces of a text that follow a dollar sign. -/
def dollar : Nat → Surrounding → Octets → Except ScriptError (List Piece × Octets)
  | 0, _, _ => .error .unterminatedQuote
  | fuel + 1, s, cs => do
    let more (front : Piece) (rest : Octets) := do
      let (ps, rest) ← pieces fuel s rest
      return (front :: ps, rest)
    match cs with
    | '(' :: '(' :: rest =>
      let (inside, rest) ← pieces fuel (.arithmetic 0) rest
      more (.arithmetic inside s.quotes) rest
    | '(' :: rest =>
      match untilClose [] true [] false [] rest with
      | some (source, rest) => more (.output source s.quotes) rest
      | none => throw (.unexpected "end of file" (some ")"))
    | '\x7b' :: rest =>
      let malformed : Except ScriptError (List Piece × Octets) := do
        let (_, rest) ← pieces fuel (.braces s.quotes) rest
        more .malformed rest
      match rest with
      | [] => throw .missingBrace
      | '#' :: '\x7d' :: rest => more (.parameter "#" .value [] s.quotes) rest
      | '#' :: behind =>
        match parameterName true behind with
        | some (name, '\x7d' :: rest) =>
          more (.parameter (String.ofList name) .length [] s.quotes) rest
        | _ => adjusted fuel s rest malformed
      | _ => adjusted fuel s rest malformed
    | _ =>
      match parameterName false cs with
      | some (name, rest) => more (.parameter (String.ofList name) .value [] s.quotes) rest
      | none => do
        let (ps, rest) ← pieces fuel s cs
        return (consChar '$' s.quotes ps, rest)

/-- The pieces of a text that follow a dollar sign and a brace, or what is made of a parameter that
is spelled wrong. -/
def adjusted : Nat → Surrounding → Octets → Except ScriptError (List Piece × Octets) →
    Except ScriptError (List Piece × Octets)
  | 0, _, _, _ => .error .missingBrace
  | fuel + 1, s, cs, malformed => do
    let more (front : Piece) (rest : Octets) := do
      let (ps, rest) ← pieces fuel s rest
      return (front :: ps, rest)
    match parameterName true cs with
    | some (name, '\x7d' :: rest) => more (.parameter (String.ofList name) .value [] s.quotes) rest
    | some (name, rest) =>
      match adjustmentOf rest with
      | some (a, rest) =>
        -- A pattern is read as if it stood outside of quotes.
        let quoted := match a with
          | .dropFront _ | .dropEnd _ => false
          | _ => s.quotes
        let (word, rest) ← pieces fuel (.braces quoted) rest
        more (.parameter (String.ofList name) a word s.quotes) rest
      | none => malformed
    | none => malformed

end

/-- A word whose tilde at the front stands for a directory, where it does. -/
def withHome : Word → Word
  | .text ('~' :: cs) false :: ps =>
    if cs.head? == some '/' then .home :: .text cs false :: ps
    else if cs.isEmpty && ps.isEmpty then [.home] else .text ('~' :: cs) false :: ps
  | ps => ps

/-- The value of an assignment, in which a tilde behind a colon stands for a directory too. -/
def withHomes : Word → Word
  | .text cs false :: ps =>
    let parts := splitAtChar ':' cs
    let pieces := parts.zipIdx.flatMap fun (part, i) =>
      let isLast := i + 1 == parts.length
      let own : Word :=
        match part with
        | '~' :: rest =>
          if rest.head? == some '/' then [.home, .text rest false]
          else if rest.isEmpty && !(isLast && !ps.isEmpty) then [.home]
          else [.text part false]
        | part => if part.isEmpty then [] else [.text part false]
      own ++ if isLast then [] else [.text [':'] false]
    pieces ++ ps
  | ps => ps

/-- Drops blanks, joined lines and a comment. -/
def dropBlanks : Octets → Octets
  | '\\' :: '\n' :: cs => dropBlanks cs
  | '#' :: cs => cs.dropWhile (· != '\n')
  | c :: cs => if c == ' ' || c == '\t' then dropBlanks cs else c :: cs
  | [] => []

/-- Drops blanks, comments and line ends, as long as the bound allows. -/
def dropLines : Nat → Octets → Octets
  | 0, cs => cs
  | n + 1, cs =>
    match dropBlanks cs with
    | '\n' :: rest => dropLines n rest
    | rest => rest

/-- Words that begin or end a compound command where a command may begin. -/
def reservedWords : List String :=
  ["!", "\x7b", "\x7d", "if", "then", "elif", "else", "fi", "while", "until", "for", "do", "done",
    "case", "esac", "in"]

/-- The unquoted word at the front of a text. -/
def plainWord (cs : Octets) : String := String.ofList (cs.takeWhile fun c => !endsWord c)

/-- How the token at the front of a text is spelled in an error. -/
def tokenText : Octets → String
  | [] => "end of file"
  | '\n' :: _ => "newline"
  | ';' :: ';' :: _ => "\";;\""
  | '&' :: '&' :: _ => "\"&&\""
  | '|' :: '|' :: _ => "\"||\""
  | '<' :: _ | '>' :: _ => "redirection"
  | c :: cs =>
    if endsWord c then "\"" ++ String.ofList [c] ++ "\""
    else
      let w := plainWord (c :: cs)
      if reservedWords.contains w then "\"" ++ w ++ "\"" else "word"

namespace Reading

/-- Fails at what stands at the front. A line end there is already read. -/
def refuse (expected : Option String) : Reading α := do
  let cs ← get
  throw ⟨.unexpected (tokenText cs) expected, (if cs.head? == some '\n' then cs.drop 1 else cs).count '\n'⟩

/-- Fails with an error at the front. -/
def refuseAs (error : ScriptError) : Reading α := do
  throw ⟨error, (← get).count '\n'⟩

/-- Takes the pieces of a text, whose faults show only at its end. -/
def piecesOf (fuel : Nat) (s : Surrounding) (cs : Octets) : Reading (List Piece × Octets) :=
  match pieces fuel s cs with
  | .ok r => return r
  | .error e => throw ⟨e, 0⟩

/-- Skips blanks and shows what follows. -/
def peek : Reading Octets := do
  modify dropBlanks
  get

/-- Skips line ends and shows what follows. -/
def peekCommand : Reading Octets := do
  modify fun cs => dropLines cs.length cs
  get

/-- Takes `n` characters. -/
def drop (n : Nat) : Reading Unit := modify (List.drop n)

/-- Takes a reserved word that has to stand here. -/
def expect (word : String) : Reading Unit := do
  if plainWord (← peekCommand) == word then drop word.length else refuse (some word)

def word : Reading Word := do
  let cs ← peek
  let (ps, rest) ← piecesOf (cs.length + 1) .bare cs
  set rest
  return ps

end Reading

/-- The text of a here-document, the lines up to the one that is `delimiter`, and what follows. With
`dropTabs` the tabs at the front of each line are dropped. -/
def inlineText (delimiter : Octets) (dropTabs : Bool) : Nat → Octets → Octets × Octets
  | 0, cs => ([], cs)
  | n + 1, cs =>
    let line := cs.takeWhile (· != '\n')
    let rest := cs.drop (line.length + 1)
    let line := if dropTabs then line.dropWhile (· == '\t') else line
    if line == delimiter then ([], rest)
    else if cs.isEmpty then ([], [])
    else if !cs.contains '\n' then (line, [])
    else
      let (text, rest) := inlineText delimiter dropTabs n rest
      (line ++ '\n' :: text, rest)

/-- The text of a word without its quotes, and whether it had any. -/
def unquoted : Word → Octets × Bool
  | [] => ([], false)
  | .text cs q :: ps =>
    let (rest, any) := unquoted ps
    (cs ++ rest, q || any)
  | _ :: ps => unquoted ps

namespace Reading

/-- The redirection operator at the front: its kind, the descriptor that it changes by itself, its
length, and for a here-document whether tabs are dropped. -/
def operator? : Octets → Option (RedirectKind × Nat × Nat × Bool)
  | '>' :: '>' :: _ => some (.append, 1, 2, false)
  | '>' :: '&' :: _ => some (.duplicate, 1, 2, false)
  | '>' :: '|' :: _ => some (.overwrite, 1, 2, false)
  | '>' :: _ => some (.write, 1, 1, false)
  | '<' :: '<' :: '-' :: _ => some (.inline, 0, 3, true)
  | '<' :: '<' :: _ => some (.inline, 0, 2, false)
  | '<' :: '&' :: _ => some (.duplicate, 0, 2, false)
  | '<' :: _ => some (.read, 0, 1, false)
  | _ => none

/-- The here-document whose delimiter was just read. Its text begins on the next line. -/
def inlineDocument (delimiter : Word) (dropTabs : Bool) : Reading Word := do
  let cs ← get
  let line := cs.takeWhile (· != '\n')
  let (name, literal) := unquoted delimiter
  let below := cs.drop (line.length + 1)
  let (text, rest) := inlineText name dropTabs (below.length + 1) below
  set (line ++ '\n' :: rest)
  if literal then return [.text text true]
  let (ps, _) ← piecesOf (text.length + 1) .inline text
  return ps

def redirect? : Reading (Option Redirect) := do
  let cs ← peek
  let digits := cs.takeWhile Char.isDigit
  match operator? (cs.drop digits.length) with
  | none => return none
  | some (kind, standard, size, dropTabs) =>
    drop (digits.length + size)
    let descriptor := if digits.isEmpty then standard else Nat.ofDigitChars 10 digits 0
    let target ← peek
    if target.head?.all endsWord then refuse none
    let target ← word
    if kind == .duplicate then
      if let [.text cs _] := target then
        if cs != ['-'] && (decimal? cs).isNone then refuseAs .badDescriptor
    match kind with
    | .inline => return some ⟨descriptor, .inline, ← inlineDocument target dropTabs⟩
    | _ => return some ⟨descriptor, kind, withHome target⟩

/-- The redirections at the front, at most `n`. -/
def redirects : Nat → Reading (List Redirect)
  | 0 => return []
  | n + 1 => do
    match ← redirect? with
    | some r => return r :: (← redirects n)
    | none => return []

def assignment? : Word → Option (String × Word)
  | .text cs false :: ps =>
    match cs.span (· != '=') with
    | (name, '=' :: value) =>
      if isName name then
        let value := if value.isEmpty then ps else .text value false :: ps
        some (String.ofList name, withHomes value)
      else none
    | _ => none
  | _ => none

/-- The rest of a simple command: assignments, as long as no word precedes, words and
redirections. -/
def simpleRest : Nat → List (String × Word) → List Word → List Redirect →
    Reading (List (String × Word) × List Word × List Redirect)
  | 0, as, ws, rs => return (as.reverse, ws.reverse, rs.reverse)
  | n + 1, as, ws, rs => do
    match ← redirect? with
    | some r => simpleRest n as ws (r :: rs)
    | none =>
      let cs ← peek
      if cs.head?.all endsWord then return (as.reverse, ws.reverse, rs.reverse)
      let w ← word
      match if ws.isEmpty then assignment? w else none with
      | some a => simpleRest n (a :: as) ws rs
      | none => simpleRest n as (withHome w :: ws) rs

/-- The words of a loop up to the end of the line. -/
def wordList : Nat → Reading (List Word)
  | 0 => return []
  | n + 1 => do
    if (← peek).head?.all endsWord then return []
    let w ← word
    return w :: (← wordList n)

/-- The patterns of an arm, divided by bars, with the parenthesis behind them. -/
def patterns : Nat → Reading (List Word)
  | 0 => refuse (some ")")
  | n + 1 => do
    let w ← word
    match ← peek with
    | '|' :: _ => do
      drop 1
      return w :: (← patterns n)
    | ')' :: _ => do
      drop 1
      return [w]
    | _ => refuse (some ")")

/-- The words that end a list of commands. -/
def endingWords : List String := ["then", "do", "done", "elif", "else", "esac", "fi", "\x7d"]

/-- Whether a list of commands ends at the front of a text. -/
def endsList (cs : Octets) : Bool :=
  match cs with
  | [] => true
  | ')' :: _ => true
  | ';' :: ';' :: _ => true
  | _ => endingWords.contains (plainWord cs)

/-- The text behind an alias. Where the alias ends with a blank, the next word may be an alias too. -/
def behindAlias (x : ScriptContext) (value rest : Octets) : Octets :=
  let behind := dropBlanks rest
  let next := plainWord behind
  match x.aliases.find? (·.1 == next), value.getLast?.any isGap with
  | some (_, value), true => value ++ behind.drop next.length
  | _, _ => rest

mutual

/-- Commands up to a word that ends a list, a closing parenthesis or the end. With `oneLine` also up to
the end of the line. -/
def list (x : ScriptContext) : Nat → Bool → Reading Command
  | 0, _ => refuse none
  | fuel + 1, oneLine => do
    let start ← if oneLine then peek else peekCommand
    if start.isEmpty then return .nothing
    let first ← andOr x fuel
    let cs ← peek
    let next (joined : Command) : Reading Command := do
      let cs ← if oneLine then peek else peekCommand
      if endsList cs || (oneLine && cs.head? == some '\n') then return joined
      return .sequence joined (← list x fuel oneLine)
    match cs with
    | ';' :: ';' :: _ => return first
    | ';' :: _ => do
      drop 1
      next first
    | '&' :: _ => do
      drop 1
      next (.background first)
    | '\n' :: _ => if oneLine then return first else next first
    | [] => return first
    | ')' :: _ => return first
    | _ => refuse none

/-- Commands of which each runs depending on the one before. -/
def andOr (x : ScriptContext) : Nat → Reading Command
  | 0 => refuse none
  | fuel + 1 => do andOrRest x fuel (← pipeline x fuel)

/-- What follows the first of such commands. -/
def andOrRest (x : ScriptContext) : Nat → Command → Reading Command
  | 0, _ => refuse none
  | fuel + 1, first => do
    match ← peek with
    | '&' :: '&' :: _ => do
      drop 2
      let _ ← peekCommand
      andOrRest x fuel (.both first (← pipeline x fuel))
    | '|' :: '|' :: _ => do
      drop 2
      let _ ← peekCommand
      andOrRest x fuel (.either first (← pipeline x fuel))
    | _ => return first

/-- Commands of which each reads what the one before prints. -/
def pipeline (x : ScriptContext) : Nat → Reading Command
  | 0 => refuse none
  | fuel + 1 => do
    let negated := plainWord (← peek) == "!"
    if negated then drop 1
    let c := match ← stages x fuel with
      | [c] => c
      | cs => .pipeline cs
    return if negated then .negation c else c

/-- The commands of a pipeline. -/
def stages (x : ScriptContext) : Nat → Reading (List Command)
  | 0 => refuse none
  | fuel + 1 => do
    let c ← command x fuel
    match ← peek with
    | '|' :: '|' :: _ => return [c]
    | '|' :: _ => do
      drop 1
      let _ ← peekCommand
      return c :: (← stages x fuel)
    | _ => return [c]

/-- A compound list in front of the word `stop`, which is taken too. -/
def body (x : ScriptContext) : Nat → String → Reading Command
  | 0, _ => refuse none
  | fuel + 1, stop => do
    let cs ← peekCommand
    if !cs.isEmpty && endsList cs then refuse none
    let c ← list x fuel false
    expect stop
    return c

def command (x : ScriptContext) : Nat → Reading Command
  | 0 => refuse none
  | fuel + 1 => do
    let cs ← peek
    let compound (c : Command) : Reading Command := do
      match ← redirects (← get).length with
      | [] => return c
      | rs => return .group c rs
    match cs with
    | '(' :: _ =>
      drop 1
      let c ← list x fuel false
      match ← peekCommand with
      | ')' :: _ =>
        drop 1
        return .subshell c (← redirects (← get).length)
      | _ => refuse (some ")")
    | _ =>
      match plainWord cs with
      | "\x7b" => do
        drop 1
        compound (← body x fuel "\x7d")
      | "if" => do
        drop 2
        compound (← conditional x fuel)
      | "while" => do
        drop 5
        let test ← body x fuel "do"
        compound (.loop true test (← body x fuel "done"))
      | "until" => do
        drop 5
        let test ← body x fuel "do"
        compound (.loop false test (← body x fuel "done"))
      | "for" => do
        drop 3
        let name := (plainWord (← peek)).toList
        if !isName name then refuseAs .badLoopVariable
        drop name.length
        let words ←
          if plainWord (← peekCommand) == "in" then do
            drop 2
            let ws ← wordList (← get).length
            pure (some ws)
          else pure none
        match ← peek with
        | ';' :: _ => drop 1
        | _ => pure ()
        expect "do"
        compound (.each (String.ofList name) words (← body x fuel "done"))
      | "case" => do
        drop 4
        let subject ← word
        expect "in"
        compound (.choice subject (← arms x fuel))
      | w =>
        if reservedWords.contains w then refuse none
        match x.aliases.find? (·.1 == w) with
        | some (_, value) => do
          set (value ++ behindAlias x value (cs.drop w.length))
          command { x with aliases := x.aliases.filter (·.1 != w) } fuel
        | none =>
          match dropBlanks (cs.drop w.length) with
          | '(' :: rest =>
            if w.isEmpty || w.toList.any "=$\x60\"'\\".toList.contains then simple x cs
            else
              set rest
              match ← peek with
              | ')' :: rest => do
                set rest
                if !isName w.toList || specialBuiltins.contains w then refuseAs .badFunctionName
                let _ ← peekCommand
                return .function w (← command x fuel)
              | _ => refuse (some ")")
          | _ => simple x cs
where
  /-- A simple command. -/
  simple (x : ScriptContext) (cs : Octets) : Reading Command := do
    let line := x.lines - cs.count '\n' + 1
    let (as, ws, rs) ← simpleRest (cs.length + 1) [] [] []
    if as.isEmpty && ws.isEmpty && rs.isEmpty then refuse none
    return .simple line as ws rs

/-- What follows the word that opens a conditional. -/
def conditional (x : ScriptContext) : Nat → Reading Command
  | 0 => refuse none
  | fuel + 1 => do
    let test ← body x fuel "then"
    let yes ← list x fuel false
    match plainWord (← peekCommand) with
    | "elif" => do
      drop 4
      return .branch test yes (← conditional x fuel)
    | "else" => do
      drop 4
      return .branch test yes (← body x fuel "fi")
    | _ => do
      expect "fi"
      return .branch test yes .nothing

/-- The arms of a choice with the word that ends them. -/
def arms (x : ScriptContext) : Nat → Reading (List (List Word × Command))
  | 0 => refuse none
  | fuel + 1 => do
    match ← peekCommand with
    | cs =>
      if plainWord cs == "esac" then
        drop 4
        return []
      if cs.head? == some '(' then drop 1
      let ps ← patterns cs.length
      let cs ← peekCommand
      let c ← if endsList cs then pure .nothing else list x fuel false
      match ← peekCommand with
      | ';' :: ';' :: _ => do
        drop 2
        return (ps, c) :: (← arms x fuel)
      | cs => do
        if plainWord cs != "esac" then refuse (some ";;")
        drop 4
        return [(ps, c)]

end

end Reading

/-- The next complete command of a script with the text behind it, or nothing at its end. -/
def nextCommand (x : ScriptContext) (cs : Octets) : Except ScriptFault (Option (Command × Octets)) :=
  match dropLines cs.length cs with
  | [] => .ok none
  | cs =>
    match (Reading.list x (4 * cs.length + 16) true).run cs with
    | .error e => .error e
    | .ok (c, rest) =>
      match rest with
      | [] => .ok (some (c, []))
      | '\n' :: rest => .ok (some (c, rest))
      | _ => .error ⟨.unexpected (tokenText rest) none, rest.count '\n'⟩

end LintRelay.Shell
