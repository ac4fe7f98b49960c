/-
# Reading shell scripts

A script is read line by line into commands, by recursive descent.  Words are read character by
character; what stands in them for the output of a command is read like a script of its own.
-/
import BenchRoster.Shell.Context

namespace BenchRoster.Shell

mutual

/-- Reads parts; those that have been read come newest first. -/
def parts : Nat → Context → Word → Reader Word
  | 0, _, acc => return acc.reverse
  | n + 1, k, acc => do
    match ← peek? with
    | none =>
      match k.ends with
      | .wordEnd => return acc.reverse
      | .textEnd => return acc.reverse
      | .brace =>
        if k.quoted && !k.document then failReading "Unterminated quoted string"
        else failReading "Missing '\x7d'"
      | .doubleQuote =>
        if k.document then failReading "Missing '\x7d'"
        else failReading "Unterminated quoted string"
      | .expression _ => failReading "Missing '))'"
    | some c =>
      match k.ends, c with
      | .brace, '\x7d' =>
        discard take?
        return acc.reverse
      | .doubleQuote, '"' =>
        discard take?
        return acc.reverse
      | .expression depth, '(' =>
        discard take?
        parts n { k with ends := .expression (depth + 1) } (.literal ['('] :: acc)
      | .expression (depth + 1), ')' =>
        discard take?
        parts n { k with ends := .expression depth } (.literal [')'] :: acc)
      | .expression 0, ')' =>
        discard take?
        if ← takeIf ')' then return acc.reverse
        else parts n k (.literal [')'] :: acc)
      | ends, c =>
        if ends = .wordEnd ∧ endsWord c then return acc.reverse
        discard take?
        match c with
        | '\\' =>
          match ← takeRaw? with
          | none => parts n k (.literal ['\\'] :: acc)
          | some d =>
            let kept := k.quoted && !k.dropsBackslash d
            parts n k (.literal (if kept then ['\\', d] else [d]) :: acc)
        | '$' =>
          let p ← dollar n k
          parts n k (p :: acc)
        | '\x60' =>
          let p ← backquote n k.quoted
          parts n k (p :: acc)
        | '\'' =>
          if k.quoted then parts n k (.literal ['\''] :: acc)
          else
            let cs ← readApostrophes
            parts n k (.literal cs :: acc)
        | '"' =>
          let plainHere : Bool :=
            match ends with
            | .textEnd => true
            | .expression _ => true
            | _ => false
          if plainHere then parts n k (.literal ['"'] :: acc)
          else
            let ps ← parts n ⟨.doubleQuote, true, k.document⟩ []
            parts n k ((if k.quoted then ps else quotedParts (joined ps)).reverse ++ acc)
        | c => parts n k (k.text [c] :: acc)

/-- Reads what follows a dollar sign. -/
def dollar : Nat → Context → Reader Part
  | 0, k => return k.text ['$']
  | n + 1, k => do
    match ← peek? with
    | some '(' =>
      discard take?
      if ← takeIf '(' then
        let e ← parts n ⟨.expression 0, true, k.document⟩ []
        return .arithmetic k.quoted (joined e)
      else
        let outer ← get
        set { outer with announced := [], documents := [], pushed := none }
        let c ← list n .any none
        let t ← token n false false
        if !t.isOperator ")" then unexpected (some (.operator ")"))
        let inner ← get
        set { inner with
              announced := outer.announced, documents := outer.documents, pushed := none }
        return .command k.quoted ((c.getD .nothing).withDocuments inner.documents)
    | some '\x7b' =>
      discard take?
      let (name, use, hasWord) ← readBraced
      if !hasWord then return .parameter k.quoted name use []
      let inner : Context :=
        match use with
        | .trim _ _ => ⟨.brace, false, k.document⟩
        | _ => ⟨.brace, k.quoted, k.document⟩
      let w ← parts n inner []
      return .parameter k.quoted name use (joined w)
    | some c =>
      if isNameStart c then return .parameter k.quoted (← takeAll isNameChar) .value []
      else if isSpecial c then
        discard take?
        return .parameter k.quoted [c] .value []
      else return k.text ['$']
    | none => return k.text ['$']

/-- Reads what follows a backquote; its text is a script of its own. -/
def backquote : Nat → Bool → Reader Part
  | 0, quoted => return .command quoted .nothing
  | n + 1, quoted => do
    let cs ← readBackquoted quoted ((← get).rest.length + 1) []
    let (c, inner) ← readApart cs (list n .any none)
    return .command quoted ((c.getD .nothing).withDocuments inner.documents)

/-- Reads a token, which may have been given back. -/
def rawToken : Nat → Bool → Reader Token
  | 0, _ => return .endOfText
  | n + 1, verbatim => do
    let s ← get
    match s.pushed with
    | some t =>
      set { s with pushed := none }
      return t
    | none =>
      skipBlanks (s.rest.length + 1)
      match ← peek? with
      | none => return .endOfText
      | some '\n' =>
        discard takeRaw?
        return .newline
      | some c =>
        if c = '&' ∨ c = '|' ∨ c = ';' ∨ c = '(' ∨ c = ')' then
          discard takeRaw?
          operator c
        else if c = '<' ∨ c = '>' then
          discard takeRaw?
          redirection none c
        else
          let w ←
            if verbatim then verbatimParts n [] else parts n ⟨.wordEnd, false, false⟩ []
          let w := joined w
          match w, ← peek? with
          | [.text [d]], some c =>
            -- a digit right before a redirection names its descriptor
            if d.isDigit ∧ (c = '<' ∨ c = '>') then
              discard takeRaw?
              redirection (some (d.toNat - 48)) c
            else return .word w
          | _, _ => return .word w

/-- Reads parts of a word in which only quotes have a meaning. -/
def verbatimParts : Nat → Word → Reader Word
  | 0, acc => return acc.reverse
  | n + 1, acc => do
    match ← peek? with
    | none => return acc.reverse
    | some c =>
      if endsWord c then return acc.reverse
      discard take?
      match c with
      | '\\' =>
        match ← takeRaw? with
        | none => verbatimParts n (.literal ['\\'] :: acc)
        | some d => verbatimParts n (.literal [d] :: acc)
      | '\'' =>
        let cs ← readApostrophes
        verbatimParts n (.literal cs :: acc)
      | '"' =>
        let cs ← takeAll fun d => d != '"' && d != '\\'
        match ← take? with
        | some '"' => verbatimParts n (.literal cs :: acc)
        | some '\\' =>
          let d := (← takeRaw?).toList
          let more ← takeAll (· != '"')
          discard take?
          verbatimParts n (.literal (cs ++ d ++ more) :: acc)
        | _ => failReading "Unterminated quoted string"
      | c => verbatimParts n (.text [c] :: acc)

/-- Reads a token.  Where `keys` says so, words with a meaning of their own are told apart; where
`lines` says so, line ends are passed over. -/
def token : Nat → Bool → Bool → Reader Token
  | 0, _, _ => return .endOfText
  | n + 1, keys, lines => do
    let s ← get
    let t ← rawToken n false
    modify fun s => { s with begins := false }
    match t with
    | .newline =>
      if lines then
        documents n
        token n keys lines
      else
        modify fun s => { s with last := t }
        return t
    | t =>
      let name? : Option String :=
        match t with
        | .word w => if s.pushed.isNone then plain? w else none
        | _ => none
      match name?.filter fun text => !(keys && keywords.contains text) with
      | some text =>
        if keys || s.begins || (← get).goesOn text.length then
          if ← expandAlias text then
            modify fun t => { t with begins := s.begins }
            return ← token n keys lines
      | none => pure ()
      let t : Token :=
        match t with
        | .word w =>
          match plain? w with
          | some text => if keys ∧ keywords.contains text then .keyword text else t
          | none => t
        | t => t
      modify fun s => { s with last := t }
      return t

/-- Reads the documents that were announced. -/
def documents : Nat → Reader Unit
  | 0 => return
  | n + 1 => do
    let s ← get
    match s.announced with
    | [] => return
    | d :: more =>
      let (text, lines, rest) := documentText d (s.rest.length + 1) false s.rest
      let w : Word ←
        if d.expanded then do
          set ({ rest := text, line := s.line } : Input)
          let w ← laterAtEnd (lines - text.count '\n') (parts n ⟨.textEnd, true, true⟩ [])
          pure (joined w)
        else pure [.literal text]
      set { s with announced := more, documents := s.documents ++ [w], rest,
                   line := s.line + lines }
      documents n

/-- Reads the word of a redirection. -/
def target : Nat → Token → Reader (Option (Redirection Word))
  | 0, _ => return none
  | n + 1, t => do
    match t with
    | .redirection descriptor d dropTabs =>
      let verbatim : Bool :=
        match d with
        | .document _ => true
        | _ => false
      let t ← rawToken n verbatim
      modify fun s => { s with last := t }
      match t with
      | .word w => return some (← announce descriptor d dropTabs w)
      | _ => unexpected none
    | _ => return none

/-- Reads commands up to what ends them; at the end of the text there may be none. -/
def list : Nat → ListKind → Option Command → Reader (Option Command)
  | 0, _, acc => return acc
  | n + 1, kind, acc => do
    let isLine := kind == .line
    let t ← token n true (!isLine)
    match t with
    | .newline =>
      documents n
      return some (acc.getD .nothing)
    | .endOfText =>
      documents n
      pushBack t
      if acc.isNone && !isLine then return some .nothing
      else return acc
    | t =>
      pushBack t
      if t.endsList && (kind == .any || (kind == .filled && acc.isSome)) then
        return some (acc.getD .nothing)
      let c ← chain n
      let t ← token n false false
      let line := (← get).line
      let c : Command := if t.isOperator "&" then .background line c else c
      let all := some (sequenceOf acc c)
      match t with
      | .endOfText =>
        documents n
        pushBack t
        return all
      | .newline =>
        pushBack t
        list n kind all
      | t =>
        if t.isOperator "&" ∨ t.isOperator ";" then list n kind all
        else
          if isLine then unexpected none
          pushBack t
          return all

/-- Reads commands that are joined by `&&` and `||`. -/
def chain : Nat → Reader Command
  | 0 => return .nothing
  | n + 1 => do
    let c ← pipeline n false false
    chainRest n c

def chainRest : Nat → Command → Reader Command
  | 0, c => return c
  | n + 1, c => do
    let t ← token n false false
    if t.isOperator "&&" then
      let d ← pipeline n true true
      chainRest n (.both c d)
    else if t.isOperator "||" then
      let d ← pipeline n true true
      chainRest n (.either c d)
    else
      pushBack t
      return c

/-- Reads commands that are joined by bars. -/
def pipeline : Nat → Bool → Bool → Reader Command
  | 0, _, _ => return .nothing
  | n + 1, keys, lines => do
    let t ← token n keys lines
    let negated := t.isKeyword "!"
    if !negated then pushBack t
    let c ← command n negated false
    let more ← pipelineRest n
    let c := if more.isEmpty then c else .pipeline (c :: more)
    return if negated then .negate c else c

def pipelineRest : Nat → Reader (List Command)
  | 0 => return []
  | n + 1 => do
    let t ← token n false false
    if t.isOperator "|" then
      let c ← command n true true
      return c :: (← pipelineRest n)
    else
      pushBack t
      return []

/-- Reads one command. -/
def command : Nat → Bool → Bool → Reader Command
  | 0, _, _ => return .nothing
  | n + 1, keys, lines => do
    let line := (← get).line
    let t ← token n keys lines
    match t with
    | .word _ =>
      pushBack t
      simple n
    | .redirection _ _ _ =>
      pushBack t
      simple n
    | .operator "(" =>
      let c ← list n .filled none
      closing n (.operator ")")
      let rs ← redirections n true
      return .subshell line (c.getD .nothing) rs
    | .keyword k =>
      let c ←
        match k with
        | "if" => do
          let c ← condition n
          closing n (.keyword "fi")
          pure c
        | "while" => loop n true
        | "until" => loop n false
        | "for" => forEach n line
        | "case" => do
          let t ← token n false false
          match t with
          | .word w =>
            let t ← token n true true
            if !t.isKeyword "in" then unexpected (some (.keyword "in"))
            pure (.select line w (← arms n))
          | _ => unexpected (some (.word []))
        | "\x7b" => do
          let c ← list n .filled none
          closing n (.keyword "\x7d")
          pure (c.getD .nothing)
        | _ => unexpected none
      match ← redirections n true with
      | [] => return c
      | rs => return .redirected line c rs
    | _ => unexpected none

/-- Reads the token that closes a compound command. -/
def closing : Nat → Token → Reader Unit
  | 0, _ => return
  | n + 1, expected => do
    let t ← token n false false
    let same : Bool :=
      match expected, t with
      | .operator a, .operator b => a == b
      | .keyword a, .keyword b => a == b
      | _, _ => false
    if !same then unexpected (some expected)

/-- Reads redirections. -/
def redirections : Nat → Bool → Reader (List (Redirection Word))
  | 0, _ => return []
  | n + 1, keys => do
    let t ← token n keys false
    match t with
    | .redirection _ _ _ =>
      match ← target n t with
      | some r => return r :: (← redirections n false)
      | none => return []
    | t =>
      pushBack t
      return []

/-- Reads a condition and its branches up to the closing word. -/
def condition : Nat → Reader Command
  | 0 => return .nothing
  | n + 1 => do
    let c ← list n .filled none
    closing n (.keyword "then")
    let yes ← list n .filled none
    let t ← token n false false
    let branch (no : Command) : Command := .branch (c.getD .nothing) (yes.getD .nothing) no
    if t.isKeyword "elif" then return branch (← condition n)
    else if t.isKeyword "else" then return branch ((← list n .filled none).getD .nothing)
    else
      pushBack t
      return branch .nothing

def loop : Nat → Bool → Reader Command
  | 0, _ => return .nothing
  | n + 1, expected => do
    let c ← list n .filled none
    closing n (.keyword "do")
    let body ← list n .filled none
    closing n (.keyword "done")
    return .loop expected (c.getD .nothing) (body.getD .nothing)

def forEach : Nat → Nat → Reader Command
  | 0, _ => return .nothing
  | n + 1, line => do
    let t ← token n false false
    let name : Option String :=
      match t with
      | .word w => (plain? w).filter isName
      | _ => none
    match name with
    | none => failReading "Bad for loop variable"
    | some name =>
      let t ← token n true true
      let words ←
        if t.isKeyword "in" then do
          let ws ← words n
          let s ← get
          let ended : Bool :=
            match s.last with
            | .newline => true
            | t => t.isOperator ";"
          if !ended then unexpected none
          pure ws
        else do
          if !t.isOperator ";" then pushBack t
          pure [[.parameter true ['@'] .value []]]
      let t ← token n true true
      if !t.isKeyword "do" then unexpected (some (.keyword "do"))
      let body ← list n .filled none
      closing n (.keyword "done")
      return .forEach line name words (body.getD .nothing)

/-- Reads words up to another token. -/
def words : Nat → Reader (List Word)
  | 0 => return []
  | n + 1 => do
    match ← token n false false with
    | .word w => return w :: (← words n)
    | _ => return []

/-- Reads the arms of a selection. -/
def arms : Nat → Reader (List Arm)
  | 0 => return []
  | n + 1 => do
    let t ← token n true true
    if t.isKeyword "esac" then return []
    let t ← if t.isOperator "(" then token n false false else pure t
    let ps ← patterns n t
    let s ← get
    if !s.last.isOperator ")" then unexpected (some (.operator ")"))
    let body ← list n .any none
    let arm : Arm := .mk ps (body.getD .nothing)
    let t ← token n true true
    if t.isKeyword "esac" then return [arm]
    if !t.isOperator ";;" then unexpected (some (.operator ";;"))
    return arm :: (← arms n)

/-- Reads the patterns of an arm, the first of which has been read. -/
def patterns : Nat → Token → Reader (List Word)
  | 0, _ => return []
  | n + 1, first => do
    let w : Word :=
      match first with
      | .word w => w
      | .keyword k => [.text k.toList]
      | _ => []
    let t ← token n false false
    if t.isOperator "|" then
      let next ← token n false false
      return w :: (← patterns n next)
    else return [w]

/-- Reads a simple command, or the definition of a function. -/
def simple : Nat → Reader Command
  | 0 => return .nothing
  | n + 1 => do simpleRest n (← get).line [] [] []

/-- Reads on in a simple command; what has been read comes newest first. -/
def simpleRest : Nat → Nat → List (String × Word) → List Word → List (Redirection Word) →
    Reader Command
  | 0, line, as, ws, rs => return .simple line as.reverse ws.reverse rs.reverse
  | n + 1, line, as, ws, rs => do
    if ws.isEmpty then modify fun s => { s with begins := true }
    let t ← token n false false
    match t with
    | .word w =>
      -- an assignment counts only before the first word
      match if ws.isEmpty then assignment? w else none with
      | some a => simpleRest n line (a :: as) ws rs
      | none => simpleRest n line as (w :: ws) rs
    | .redirection _ _ _ =>
      match ← target n t with
      | some r => simpleRest n line as ws (r :: rs)
      | none => return .nothing
    | t =>
      match t.isOperator "(", as, ws, rs with
      | true, [], [w], [] =>
        let t ← token n false false
        if !t.isOperator ")" then unexpected (some (.operator ")"))
        match (plain? w).filter fun name => isName name && !specialBuiltins.contains name with
        | none => failReading "Bad function name"
        | some name =>
          let line := (← get).line
          let body ← command n true true
          return .define line name body
      | _, _, _, _ =>
        pushBack t
        return .simple line as.reverse ws.reverse rs.reverse

end

/-- How many steps are needed for each character of a script at most. -/
def stepsPerCharacter : Nat := 16

/-- Reads the commands of the next line, or of several lines if they belong together; at the end
there are none. -/
def readLine : Reader (Option Command) := do
  modify fun s => { s with pushed := none, announced := [], documents := [] }
  let c ← list (stepsPerCharacter * ((← get).rest.length + 4)) .line none
  let documents := (← get).documents
  return c.map (·.withDocuments documents)

/-- The parts of text in which parameters are expanded as in a document. -/
def documentParts (cs : List Char) : Option Word :=
  match parts (stepsPerCharacter * (cs.length + 4)) ⟨.textEnd, true, true⟩ [] { rest := cs } with
  | .ok w _ => some (joined w)
  | .error _ _ => none

/-- No text comes after the commands that were read last. -/
def Input.isAtEnd (s : Input) : Bool :=
  match s.pushed with
  | some .endOfText => true
  | _ => false

end BenchRoster.Shell
