import Scaffold.Shell.Command

/-!
# Lexemes

A script is read lexeme by lexeme: words, the signs between commands, and redirections. Whether a
word is reserved depends on where it stands, and a word may hold whole scripts.

* `Lexeme`: a word or a sign of a script.
* `ScriptError`: why a script cannot be read.
* `Source`, `Reading`: what is left of a script, and a step of reading it.
* `readParts`: the parts of a word.
* `readLexeme`: the next lexeme.
-/

namespace Scaffold.Shell

/-! ## Lexemes -/

/-- A word or a sign of a script. -/
inductive Lexeme where
  | word (w : Word)
  | reserved (text : String)
  | redirect (descriptor : Nat) (kind : Redirecting)
  | newline
  | semicolon
  | endCase
  | both
  | either
  | bar
  | ampersand
  | openBracket
  | closeBracket
  | endOfScript

/-- How error messages show a lexeme. -/
def Lexeme.describe : Lexeme → String
  | .word _ => "word"
  | .reserved text => "\"" ++ text ++ "\""
  | .redirect _ _ => "redirection"
  | .newline => "newline"
  | .semicolon => "\";\""
  | .endCase => "\";;\""
  | .both => "\"&&\""
  | .either => "\"||\""
  | .bar => "\"|\""
  | .ampersand => "\"&\""
  | .openBracket => "\"(\""
  | .closeBracket => "\")\""
  | .endOfScript => "end of file"

/-- Why a script cannot be read. -/
inductive ScriptError where
  | unterminatedQuote
  | unterminatedOutput
  | missingBrace
  | missingBrackets
  | badLoopVariable
  | badFunctionName
  /-- A lexeme was found where another one, which may be known, should stand. -/
  | unexpected (found : String) (expecting : Option String)
  | tooLong
  deriving DecidableEq, Repr

/-- The wording of an error. -/
def ScriptError.message (e : ScriptError) : String :=
  "Syntax error: " ++ match e with
  | .unterminatedQuote => "Unterminated quoted string"
  | .unterminatedOutput => "EOF in backquote substitution"
  | .missingBrace => "Missing '\x7d'"
  | .missingBrackets => "Missing '))'"
  | .badLoopVariable => "Bad for loop variable"
  | .badFunctionName => "Bad function name"
  | .unexpected found none => found ++ " unexpected"
  | .unexpected found (some awaited) => found ++ " unexpected (expecting " ++ awaited ++ ")"
  | .tooLong => "Script too long"

/-! ## Sources -/

/-- What is left of a script. -/
structure Source where
  rest : List Char
  line : Nat := 1
  /-- The number of lines that were taken out of the rest behind the current line. -/
  ahead : Nat := 0
  /-- A lexeme that was read already and comes next all the same. -/
  again : Option Lexeme := none

/-- A step of reading a script. -/
abbrev Reading := EStateM ScriptError Source

/-- Characters behind line ends that a backslash takes away, and how many of these there are. -/
def skipJoins : List Char → List Char × Nat
  | '\\' :: '\n' :: cs =>
    let (rest, joins) := skipJoins cs
    (rest, joins + 1)
  | cs => (cs, 0)

/-- The next character, which stays. -/
def peek : Reading (Option Char) :=
  modifyGet fun s =>
    let (rest, joins) := skipJoins s.rest
    (rest.head?, { s with rest, line := s.line + joins })

/-- The next character is read, whatever it is. -/
def next : Reading (Option Char) :=
  modifyGet fun s =>
    match s.rest with
    | [] => (none, s)
    | '\n' :: rest => (some '\n', { s with rest, line := s.line + 1 + s.ahead, ahead := 0 })
    | c :: rest => (some c, { s with rest })

/-- The next character is read if it is a given one. -/
def accept (c : Char) : Reading Bool := do
  if (← peek) = some c then
    let _ ← next
    return true
  else return false

/-- The longest run of characters of a kind. -/
def readRun (kind : Char → Bool) : Reading (List Char) :=
  modifyGet fun s => (s.rest.takeWhile kind, { s with rest := s.rest.dropWhile kind })

/-- Characters up to a given one, which is read too; line ends are counted. -/
def readUpTo? (stop : Char) : Reading (Option (List Char)) :=
  modifyGet fun s =>
    let cs := s.rest.takeWhile (· ≠ stop)
    match s.rest.drop cs.length with
    | [] => (none, { s with rest := [], line := s.line + cs.count '\n' })
    | _ :: rest => (some cs, { s with rest, line := s.line + cs.count '\n' })

/-! ## Words -/

/-- A character that starts a name. -/
def startsName (c : Char) : Bool :=
  c.isAlpha || c == '_'

/-- A character of a name. -/
def inName (c : Char) : Bool :=
  c.isAlphanum || c == '_'

/-- A word with one more character. -/
def addChar (w : Word) (c : Char) (quoted : Bool) : Word :=
  match w.getLast? with
  | some (.text cs q) =>
    if q = quoted then w.dropLast ++ [.text (cs ++ [c]) q] else w ++ [.text [c] quoted]
  | _ => w ++ [.text [c] quoted]

/-- Where the parts of a word stand, which says what ends them and what quotes mean. -/
inductive Style where
  /-- Outside of quotes, up to a blank or a sign. -/
  | bare
  /-- Inside of double quotes. -/
  | quoted
  /-- Inside of braces. -/
  | braced
  /-- Inside of braces inside of double quotes. -/
  | bracedQuoted
  /-- Everything that is left. -/
  | document
  /-- Inside of the brackets of an expression and some more brackets. -/
  | expression (depth : Nat)
  deriving DecidableEq, Repr

/-- What is written in a style counts as quoted. -/
def Style.isQuoted : Style → Bool
  | .bare | .braced => false
  | .quoted | .bracedQuoted | .document | .expression _ => true

/-- A character that ends a word outside of quotes. -/
def endsWord (c : Char) : Bool :=
  [' ', '\t', '\n', ';', '&', '|', '(', ')', '<', '>'].contains c

/-- The parameters that a single character stands for. -/
def specialParameters : List (Char × Parameter) :=
  [('@', .allArguments false), ('*', .allArguments true), ('#', .argumentCount), ('?', .status),
    ('$', .process), ('!', .background), ('-', .options)]

/-- The characters whose special meaning a backslash takes away in a style that counts as
quoted. -/
def escapable : Style → List Char
  | .document => ['$', '\x60', '\\']
  | .bracedQuoted => ['$', '\x60', '\\', '"', '\x7d']
  | _ => ['$', '\x60', '\\', '"']

/-- The character behind a backslash added to a word. -/
def readEscaped (style : Style) (w : Word) : Reading Word := do
  match ← next with
  | none => return addChar w '\\' true
  | some c =>
    if style.isQuoted && !(escapable style).contains c then
      return addChar (addChar w '\\' true) c true
    else return addChar w c true

/-- The text between backquotes, from which some backslashes are taken away. -/
def readBackquoted (quoted : Bool) : List Char → List Char → Option (List Char × List Char)
  | _, [] => none
  | done, '\x60' :: rest => some (done, rest)
  | done, '\\' :: '\n' :: rest => readBackquoted quoted done rest
  | done, '\\' :: c :: rest =>
    if c = '\\' ∨ c = '\x60' ∨ c = '$' ∨ (quoted = true ∧ c = '"') then
      readBackquoted quoted (done ++ [c]) rest
    else readBackquoted quoted (done ++ ['\\', c]) rest
  | done, c :: rest => readBackquoted quoted (done ++ [c]) rest

/-- A step of reading made on a text of its own. -/
def readAside {α : Type} (text : List Char) (read : Reading α) : Reading α := do
  let s ← get
  set { s with rest := text, ahead := 0, again := none }
  let a ← read
  set s
  return a

/-- The script between backquotes, the first of which has been read. -/
def readOldOutput (list : Reading Command) (quoted : Bool) : Reading Part := do
  let s ← get
  match readBackquoted quoted [] s.rest with
  | none => throw .unterminatedOutput
  | some (text, rest) =>
    let lines := (s.rest.take (s.rest.length - rest.length)).count '\n'
    set { s with rest, line := s.line + lines }
    return .output (← readAside text list) quoted

/-- The script between brackets, the first of which has been read. -/
def readOutput (list : Reading Command) (quoted : Bool) : Reading Part := do
  let script ← list
  match (← get).again with
  | some .closeBracket =>
    modify fun s => { s with again := none }
    return .output script quoted
  | found =>
    throw (.unexpected (found.getD .endOfScript).describe (some Lexeme.closeBracket.describe))

/-- The parameter in braces, or the sign that the length of one is asked for. -/
inductive Braced where
  | value (p : Parameter)
  | length (p : Parameter)
  | bad

/-- The parameter that a name or number at the start of the rest is. -/
def readParameter? : Reading (Option Parameter) := do
  match ← peek with
  | none => return none
  | some c =>
    if startsName c then return some (.variable (String.ofList (← readRun inName)))
    else if c.isDigit then
      return some (.argument ((String.ofList (← readRun Char.isDigit)).toNat?.getD 0))
    else return none

/-- What stands behind an opening brace, up to the signs behind the parameter. -/
def readBraced : Reading Braced := do
  match ← readParameter? with
  | some p => return .value p
  | none =>
    match ← peek with
    | none => return .bad
    | some c =>
      if c = '#' then
        let _ ← next
        let _ ← peek
        match ← readParameter? with
        | some p => return if (← peek) = some '}' then .length p else .bad
        | none =>
          match (← get).rest with
          | c :: '}' :: _ =>
            match specialParameters.lookup c with
            | some p =>
              let _ ← next
              return .length p
            | none => return .value .argumentCount
          | _ => return .value .argumentCount
      else
        match specialParameters.lookup c with
        | some p =>
          let _ ← next
          return .value p
        | none => return .bad

/-- The rules of what happens otherwise, by their signs. -/
def otherwiseSigns : List (Char × Otherwise) :=
  [('-', .fallback), ('=', .assign), ('?', .demand), ('+', .alternative)]

/-- What is made of a parameter in braces, as far as the signs behind it say; a word may follow, and
is put into the result. -/
def readUse : Reading (Option (Word → Use)) := do
  match ← next with
  | some '}' => return none
  | some ':' =>
    let _ ← peek
    match (← next).bind fun c => otherwiseSigns.lookup c with
    | some rule => return some (.otherwise rule true)
    | none => return some fun _ => .bad
  | some '#' =>
    let longest ← accept '#'
    return some (.without true longest)
  | some '%' =>
    let longest ← accept '%'
    return some (.without false longest)
  | some c =>
    match otherwiseSigns.lookup c with
    | some rule => return some (.otherwise rule false)
    | none => return some fun _ => .bad
  | none => return some fun _ => .bad

/-- The style of the word behind the signs of a parameter in braces. -/
def styleOfUse (quoted : Bool) : Use → Style
  | .without _ _ _ => .braced
  | _ => if quoted then .bracedQuoted else .braced

/-- The parameter whose opening brace has been read. -/
def readInBraces (parts : Style → Reading Word) (quoted : Bool) : Reading Part := do
  match ← readBraced with
  | .length p =>
    let _ ← next
    return .parameter p .length quoted
  | .bad =>
    let _ ← parts (styleOfUse quoted .bad)
    return .parameter .status .bad quoted
  | .value p =>
    match ← readUse with
    | none => return .parameter p .value quoted
    | some use => return .parameter p (use (← parts (styleOfUse quoted (use [])))) quoted

/-- What stands behind a dollar sign; nothing if the sign stands for itself. -/
def readDollar (list : Reading Command) (parts : Style → Reading Word) (quoted : Bool) :
    Reading (Option Part) := do
  match ← peek with
  | none => return none
  | some c =>
    if c = '(' then
      let _ ← next
      if ← accept '(' then return some (.number (← parts (.expression 0)) quoted)
      else some <$> readOutput list quoted
    else if c = '{' then
      let _ ← next
      some <$> readInBraces parts quoted
    else if startsName c then
      return some (.parameter (.variable (String.ofList (← readRun inName))) .value quoted)
    else if c.isDigit then
      let _ ← next
      return some (.parameter (.argument (c.toNat - '0'.toNat)) .value quoted)
    else
      match specialParameters.lookup c with
      | some p =>
        let _ ← next
        return some (.parameter p .value quoted)
      | none => return none

/-- What a character does that the parts of a word meet. -/
inductive Meeting where
  /-- It belongs to the text. -/
  | plain
  /-- It ends the parts, and belongs to them. -/
  | last
  /-- It ends the parts, and does not belong to them. -/
  | stop
  | singleQuote
  | doubleQuote
  | backslash
  | dollar
  | backquote
  | openBracket
  | closeBracket
  deriving DecidableEq, Repr

/-- What a character does in a style. -/
def Style.meet (style : Style) (c : Char) : Meeting :=
  match style, c with
  | _, '\\' => .backslash
  | _, '$' => .dollar
  | _, '\x60' => .backquote
  | .bare, '\'' | .braced, '\'' => .singleQuote
  | .quoted, '"' => .last
  | .document, '"' => .plain
  | .expression _, '"' => .plain
  | _, '"' => .doubleQuote
  | .braced, '}' | .bracedQuoted, '}' => .last
  | .expression _, '(' => .openBracket
  | .expression _, ')' => .closeBracket
  | .bare, c => if endsWord c then .stop else .plain
  | _, _ => .plain

/-- The error of a script that ends inside of the parts of a word, if it is one. -/
def Style.endError? : Style → Option ScriptError
  | .bare | .document => none
  | .quoted => some .unterminatedQuote
  | .bracedQuoted => some .unterminatedQuote
  | .braced => some .missingBrace
  | .expression _ => some .missingBrackets

/-- The parts of a word from some point on, where `list` reads the scripts in it. The first argument
bounds the number of steps. -/
def readParts (list : Reading Command) : Nat → Style → Word → Reading Word
  | 0, _, _ => throw .tooLong
  | n + 1, style, w => do
    match ← peek with
    | none =>
      match style.endError? with
      | some e => throw e
      | none => return w
    | some c =>
      let quoted := style.isQuoted
      match style.meet c with
      | .stop => return w
      | .last =>
        let _ ← next
        return w
      | .plain =>
        let _ ← next
        readParts list n style (addChar w c quoted)
      | .backslash =>
        let _ ← next
        readParts list n style (← readEscaped style w)
      | .singleQuote =>
        let _ ← next
        match ← readUpTo? '\'' with
        | none => throw .unterminatedQuote
        | some cs => readParts list n style (w ++ [.text cs true])
      | .doubleQuote =>
        let _ ← next
        match ← readParts list n .quoted [] with
        | [] => readParts list n style (w ++ [.text [] true])
        | inner => readParts list n style (w ++ inner)
      | .dollar =>
        let _ ← next
        match ← readDollar list (fun style => readParts list n style []) quoted with
        | some part => readParts list n style (w ++ [part])
        | none => readParts list n style (addChar w '$' quoted)
      | .backquote =>
        let _ ← next
        readParts list n style (w ++ [← readOldOutput list quoted])
      | .openBracket =>
        let _ ← next
        match style with
        | .expression depth => readParts list n (.expression (depth + 1)) (addChar w c true)
        | style => readParts list n style (addChar w c quoted)
      | .closeBracket =>
        let _ ← next
        match style with
        | .expression (depth + 1) => readParts list n (.expression depth) (addChar w c true)
        | style =>
          if ← accept ')' then return w else readParts list n style (addChar w c quoted)

/-! ## The next lexeme -/

/-- What stands behind blanks and a comment, and how many line ends a backslash took away on the
way there. -/
def skipBlanks : List Char → List Char × Nat
  | ' ' :: cs => skipBlanks cs
  | '\t' :: cs => skipBlanks cs
  | '\\' :: '\n' :: cs =>
    let (rest, joins) := skipBlanks cs
    (rest, joins + 1)
  | '#' :: cs => (cs.dropWhile (· ≠ '\n'), 0)
  | cs => (cs, 0)

/-- The descriptor that a word before a redirection is; nothing stands for the usual one. -/
def descriptor? (usual : Nat) : Word → Option Nat
  | [] => some usual
  | [.text [c] false] => if c.isDigit then some (c.toNat - '0'.toNat) else none
  | _ => none

/-- The redirection from a file whose sign has been read. -/
def readFrom : Reading Redirecting := do
  if ← accept '<' then return .document (← accept '-')
  else if ← accept '&' then return .duplicate
  else if ← accept '>' then return .readWrite
  else return .read

/-- The redirection to a file whose sign has been read. -/
def readTo : Reading Redirecting := do
  if ← accept '>' then return .append
  else if ← accept '&' then return .duplicate
  else if ← accept '|' then return .replace
  else return .write

/-- A sign that is doubled or not. -/
def readDouble (c : Char) (single double : Lexeme) : Reading Lexeme := do
  return if ← accept c then double else single

/-- A word, or a redirection if the word is a descriptor before one. -/
def readWord (list : Reading Command) : Reading Lexeme := do
  let w ← readParts list (4 * (← get).rest.length + 4) .bare []
  match ← peek with
  | some '<' =>
    match descriptor? 0 w with
    | some d =>
      let _ ← next
      return .redirect d (← readFrom)
    | none => return .word w
  | some '>' =>
    match descriptor? 1 w with
    | some d =>
      let _ ← next
      return .redirect d (← readTo)
    | none => return .word w
  | _ => return .word w

/-- The lexeme behind some blanks. -/
def readFresh (list : Reading Command) : Reading Lexeme := do
  modify fun s =>
    let (rest, joins) := skipBlanks s.rest
    { s with rest, line := s.line + joins }
  let simple (l : Lexeme) : Reading Lexeme := do
    let _ ← next
    return l
  match ← peek with
  | none => return .endOfScript
  | some '\n' => simple .newline
  | some '(' => simple .openBracket
  | some ')' => simple .closeBracket
  | some '&' =>
    let _ ← next
    readDouble '&' .ampersand .both
  | some '|' =>
    let _ ← next
    readDouble '|' .bar .either
  | some ';' =>
    let _ ← next
    readDouble ';' .semicolon .endCase
  | some _ => readWord list

/-- The words that are reserved where a command may start. -/
def reservedWords : List String :=
  ["!", "case", "do", "done", "elif", "else", "esac", "fi", "for", "if", "in", "then", "until",
    "while", "\x7b", "\x7d"]

/-- A lexeme that is reserved if it is a reserved word without quotes. -/
def Lexeme.reserve : Lexeme → Lexeme
  | .word [.text cs false] =>
    if String.ofList cs ∈ reservedWords then .reserved (String.ofList cs)
    else .word [.text cs false]
  | l => l

/-- The lexeme that comes next all the same. -/
def pushBack (l : Lexeme) : Reading Unit :=
  modify fun s => { s with again := some l }

/-- The next lexeme, behind line ends if these are skipped. The first argument bounds how many of
them there may be. -/
def readLexemeIn (list : Reading Command) (skipNewlines reserving : Bool) : Nat → Reading Lexeme
  | 0 => throw .tooLong
  | n + 1 => do
    let s ← get
    match s.again with
    | some l =>
      set { s with again := none }
      match l, skipNewlines with
      | .newline, true => readLexemeIn list skipNewlines reserving n
      | l, _ => return if reserving then l.reserve else l
    | none =>
      match ← readFresh list, skipNewlines with
      | .newline, true => readLexemeIn list skipNewlines reserving n
      | l, _ => return if reserving then l.reserve else l

/-- The next lexeme, behind line ends if these are skipped. -/
def readLexeme (list : Reading Command) (skipNewlines reserving : Bool) : Reading Lexeme := do
  readLexemeIn list skipNewlines reserving ((← get).rest.length + 2)

end Scaffold.Shell
