import Scaffold.Shell.Lexeme

/-!
# Scripts

A script is read command by command; what stands on one line is read before any of it is run.

* `readList`: a list of commands, and with it commands of every kind.
* `nextCommand?`: the first command of a script, and what is left behind it.
-/

namespace Scaffold.Shell

/-! ## Parts of commands -/

/-- Where a list of commands ends, and whether it may be empty. -/
inductive Extent where
  /-- At the end of a line. -/
  | line
  /-- Before a lexeme that ends lists, with at least one command. -/
  | some
  /-- Before a lexeme that ends lists. -/
  | any
  deriving DecidableEq, Repr

/-- The reserved words that end a list of commands. -/
def closingWords : List String :=
  ["do", "done", "elif", "else", "esac", "fi", "then", "\x7d"]

/-- A list of commands may end before a lexeme. -/
def Lexeme.endsList : Lexeme → Bool
  | .closeBracket | .endCase | .endOfScript => true
  | .reserved text => closingWords.contains text
  | _ => false

/-- A lexeme that cannot stand where it does. -/
def unexpected {α : Type} (found : Lexeme) (expecting : Option Lexeme := none) : Reading α :=
  throw (.unexpected found.describe (expecting.map Lexeme.describe))

/-- A lexeme is a reserved word. -/
def Lexeme.isReserved (text : String) : Lexeme → Bool
  | .reserved text' => text == text'
  | _ => false

/-- The text of a word in which nothing stands for something else, and whether it holds quotes. -/
def plainText (w : Word) : List Char × Bool :=
  w.foldr (fun part (cs, quoted) =>
    match part with
    | .text cs' quoted' => (cs' ++ cs, quoted' || quoted)
    | _ => (cs, quoted)) ([], false)

/-- A text is a name. -/
def isName : List Char → Bool
  | [] => false
  | c :: cs => startsName c && cs.all inName

/-- The name that a word without quotes is. -/
def name? : Word → Option String
  | [.text cs false] => if isName cs then some (String.ofList cs) else none
  | _ => none

/-- The variable and the value of a word that assigns one. -/
def assignment? : Word → Option (String × Word)
  | .text cs false :: parts =>
    let name := cs.takeWhile (· ≠ '=')
    match isName name, cs.drop name.length with
    | true, '=' :: value =>
      some (String.ofList name, if value = [] then parts else .text value false :: parts)
    | _, _ => none
  | _ => none

/-! ## Redirections -/

/-- Lines up to one that is a given text, and how many lines these are with that one. -/
def linesUpTo (stop : List Char) (trim : List Char → List Char) :
    List (List Char) → List (List Char) × Nat
  | [] => ([], 0)
  | line :: lines =>
    if trim line = stop then ([], 1)
    else
      let (more, count) := linesUpTo stop trim lines
      (trim line :: more, count + 1)

/-- The text that starts on the next line and ends before a line of its own; it is taken out of what
is left of the script. -/
def takeDocument (withoutTabs : Bool) (stop : List Char) : Reading (List Char) :=
  modifyGet fun s =>
    let here := s.rest.takeWhile (· ≠ '\n')
    let below := (s.rest.drop here.length).drop 1
    let trim (line : List Char) := if withoutTabs then line.dropWhile (· = '\t') else line
    let lines := below.splitOn '\n'
    let (body, count) := linesUpTo stop trim lines
    let complete :=
          if count = lines.length ∧ below.getLast? = some '\n' then body.dropLast else body
    (complete.flatMap (· ++ ['\n']),
      { s with
        rest := here ++ '\n' :: ['\n'].intercalate (lines.drop count)
        ahead := s.ahead + count })

/-- The target of a redirection. -/
def readTarget (list : Reading Command) (kind : Redirecting) : Reading Word := do
  match ← readLexeme list false false, kind with
  | .word w, .document withoutTabs =>
    let (stop, quoted) := plainText w
    let text ← takeDocument withoutTabs stop
    if quoted then return [.text text true]
    else readAside text (readParts list (4 * text.length + 4) .document [])
  | .word w, _ => return w
  | l, _ => unexpected l

/-- The redirections that come next. The first argument bounds how many there may be. -/
def readRedirections (list : Reading Command) : Nat → Reading (List (Redirection Word))
  | 0 => throw .tooLong
  | n + 1 => do
    match ← readLexeme list false true with
    | .redirect descriptor kind =>
      let target ← readTarget list kind
      return ⟨descriptor, kind, target⟩ :: (← readRedirections list n)
    | l =>
      pushBack l
      return []

/-! ## Simple commands -/

/-- The commands of the shell itself whose names no function may have. -/
def specialCommands : List String :=
  [".", ":", "break", "continue", "eval", "exec", "exit", "export", "readonly", "return", "set",
    "shift", "times", "trap", "unset"]

/-- What has been read of a simple command. -/
structure Simple where
  assignments : List (String × Word) := []
  words : List Word := []
  redirections : List (Redirection Word) := []

/-- The name of the function that a definition starts with, behind which an opening bracket was
read. -/
def readFunctionName (list : Reading Command) (w : Word) : Reading String := do
  match ← readLexeme list false false with
  | .closeBracket =>
    match name? w with
    | some name => if name ∈ specialCommands then throw .badFunctionName else return name
    | none => throw .badFunctionName
  | l => unexpected l (some .closeBracket)

/-- A simple command, of which a part has been read, or the definition of a function, whose body is
read by `body`. The last argument bounds the number of lexemes. -/
def readSimple (list body : Reading Command) (line : Nat) (s : Simple) : Nat → Reading Command
  | 0 => throw .tooLong
  | n + 1 => do
    match ← readLexeme list false false with
    | .word w =>
      match s.words, assignment? w with
      | [], some a => readSimple list body line { s with assignments := s.assignments ++ [a] } n
      | _, _ => readSimple list body line { s with words := s.words ++ [w] } n
    | .redirect descriptor kind =>
      let target ← readTarget list kind
      let redirections := s.redirections ++ [⟨descriptor, kind, target⟩]
      readSimple list body line { s with redirections } n
    | .openBracket =>
      match s.assignments, s.words, s.redirections with
      | [], [w], [] => return .define (← readFunctionName list w) (← body)
      | _, _, _ => finish .openBracket
    | l => finish l
where
  finish (l : Lexeme) : Reading Command := do
    pushBack l
    return .simple line s.assignments s.words s.redirections

/-! ## Compound commands -/

/-- A reserved word that has to come next. -/
def expectReserved (list : Reading Command) (skipNewlines : Bool) (text : String) :
    Reading Unit := do
  let l ← readLexeme list skipNewlines true
  if l.isReserved text then return () else unexpected l (some (.reserved text))

/-- The words of a loop, up to the end of the line. The last argument bounds how many there are. -/
def readLoopWords (list : Reading Command) : Nat → Reading (List Word)
  | 0 => throw .tooLong
  | n + 1 => do
    match ← readLexeme list false false with
    | .word w => return w :: (← readLoopWords list n)
    | .newline | .semicolon => return []
    | l => unexpected l

/-- The name and the words of a loop over words, whose first word has been read. -/
def readLoopHead (list : Reading Command) : Reading (String × Option (List Word)) := do
  let name ← match ← readLexeme list false false with
    | .word w =>
      match name? w with
      | some name => pure name
      | none => throw .badLoopVariable
    | _ => throw .badLoopVariable
  let words ← match ← readLexeme list true true with
    | .reserved "in" => some <$> readLoopWords list ((← get).rest.length + 2)
    | .semicolon => pure none
    | l =>
      pushBack l
      pure none
  return (name, words)

/-- The word that a lexeme in the place of a pattern stands for. -/
def Lexeme.patternWord : Lexeme → Word
  | .word w => w
  | .reserved text => [.text text.toList false]
  | _ => []

/-- Patterns with bars between them, the first of which has been read, up to a closing bracket. The
last argument bounds how many there are. -/
def readPatterns (list : Reading Command) (first : Lexeme) : Nat → Reading (List Word)
  | 0 => throw .tooLong
  | n + 1 => do
    match ← readLexeme list false false with
    | .bar =>
      return first.patternWord :: (← readPatterns list (← readLexeme list false false) n)
    | .closeBracket => return [first.patternWord]
    | l => unexpected l (some .closeBracket)

/-- The subject of a selection, up to the word before its cases. -/
def readSubject (list : Reading Command) : Reading Word := do
  match ← readLexeme list false false with
  | .word w =>
    expectReserved list true "in"
    return w
  | l => unexpected l (some (.word []))

/-! ## Commands -/

/-- Two commands one after the other, the first of which may be missing. -/
def Command.after (first : Option Command) (second : Command) : Command :=
  match first with
  | none => second
  | some first => .sequence first second

mutual

/-- A list of commands of some extent, of which a part has been read. The first argument of each of
these readers bounds the number of steps. -/
def readList : Nat → Extent → Option Command → Reading Command
  | 0, _, _ => throw .tooLong
  | n + 1, extent, first => do
    let nested := readList n .any none
    let mayEnd := extent = .any || (extent = .some && first.isSome)
    let l ← readLexeme nested (extent ≠ .line) true
    match l with
    | .newline => return first.getD .skip
    | .endOfScript =>
      pushBack l
      return first.getD .skip
    | l =>
      pushBack l
      if mayEnd && l.endsList then return first.getD .skip
      else
        let second ← readAndOr n
        let separator ← readLexeme nested false false
        let all := Command.after first <| match separator with
          | .ampersand => .background second
          | _ => second
        match separator with
        | .newline | .endOfScript =>
          pushBack separator
          readList n extent all
        | .semicolon | .ampersand => readList n extent all
        | separator =>
          if extent = .line then unexpected separator
          else
            pushBack separator
            return all

/-- Pipelines joined by `&&` and `||`. -/
def readAndOr : Nat → Reading Command
  | 0 => throw .tooLong
  | n + 1 => do readMore n (← readPipeline n false)

/-- What is joined to a command by `&&` and `||`. -/
def readMore : Nat → Command → Reading Command
  | 0, _ => throw .tooLong
  | n + 1, first => do
    match ← readLexeme (readList n .any none) false false with
    | .both => readMore n (.both first (← readPipeline n true))
    | .either => readMore n (.either first (← readPipeline n true))
    | l =>
      pushBack l
      return first

/-- Commands joined by bars, behind line ends if these are skipped. -/
def readPipeline : Nat → Bool → Reading Command
  | 0, _ => throw .tooLong
  | n + 1, skipNewlines => do
    let l ← readLexeme (readList n .any none) skipNewlines true
    if l.isReserved "!" then return .negate (← readPipes n false)
    else
      pushBack l
      readPipes n false

/-- A command and what is joined to it by bars. -/
def readPipes : Nat → Bool → Reading Command
  | 0, _ => throw .tooLong
  | n + 1, skipNewlines => do
    let first ← readCommand n skipNewlines
    match ← readLexeme (readList n .any none) false false with
    | .bar => return .pipe first (← readPipes n true)
    | l =>
      pushBack l
      return first

/-- A single command, behind line ends if these are skipped. -/
def readCommand : Nat → Bool → Reading Command
  | 0, _ => throw .tooLong
  | n + 1, skipNewlines => do
    let nested := readList n .any none
    let l ← readLexeme nested skipNewlines true
    let line := (← get).line
    let length := (← get).rest.length + 4
    let redirected (body : Command) : Reading Command := do
      match ← readRedirections nested length with
      | [] => return body
      | redirections => return .redirected line body redirections
    match l with
    | .word _ | .redirect _ _ =>
      pushBack l
      readSimple nested (readCommand n true) line {} length
    | .openBracket =>
      let body ← readList n .some none
      match ← readLexeme nested false true with
      | .closeBracket => return .subshell line body (← readRedirections nested length)
      | l => unexpected l (some .closeBracket)
    | .reserved "\x7b" =>
      let body ← readList n .some none
      expectReserved nested false "\x7d"
      redirected body
    | .reserved "if" => redirected (← readChoice n)
    | .reserved "while" => redirected (← readLoop n false)
    | .reserved "until" => redirected (← readLoop n true)
    | .reserved "for" =>
      let (name, words) ← readLoopHead nested
      expectReserved nested true "do"
      let body ← readList n .some none
      expectReserved nested false "done"
      redirected (.each line name words body)
    | .reserved "case" =>
      let subject ← readSubject nested
      redirected (.select line subject (← readCases n))
    | l => unexpected l

/-- What comes behind `if` or `elif`. -/
def readChoice : Nat → Reading Command
  | 0 => throw .tooLong
  | n + 1 => do
    let nested := readList n .any none
    let test ← readList n .some none
    expectReserved nested false "then"
    let yes ← readList n .some none
    match ← readLexeme nested false true with
    | .reserved "elif" => return .choose test yes (← readChoice n)
    | .reserved "else" =>
      let no ← readList n .some none
      expectReserved nested false "fi"
      return .choose test yes no
    | l =>
      if l.isReserved "fi" then return .choose test yes .skip
      else unexpected l (some (.reserved "fi"))

/-- What comes behind `while` or `until`. -/
def readLoop : Nat → Bool → Reading Command
  | 0, _ => throw .tooLong
  | n + 1, whileFailing => do
    let nested := readList n .any none
    let test ← readList n .some none
    expectReserved nested false "do"
    let body ← readList n .some none
    expectReserved nested false "done"
    return .loop whileFailing test body

/-- The cases of a selection. -/
def readCases : Nat → Reading (List (List Word × Command))
  | 0 => throw .tooLong
  | n + 1 => do
    let nested := readList n .any none
    let l ← readLexeme nested true true
    if l.isReserved "esac" then return []
    else
      let first ← match l with
        | .openBracket => readLexeme nested false false
        | l => pure l
      let patterns ← readPatterns nested first ((← get).rest.length + 2)
      let body ← readList n .any none
      match ← readLexeme nested true true with
      | .reserved "esac" => return [(patterns, body)]
      | .endCase => return (patterns, body) :: (← readCases n)
      | l => unexpected l (some .endCase)

end

/-! ## Scripts -/

/-- A number of steps that is enough to read a text. -/
def stepsFor (rest : List Char) : Nat :=
  16 * rest.length + 64

/-- The commands on the first line of a script, and what is left behind them; nothing at the end of
the script. A line on which something is wrong is counted off. -/
def nextCommand? (s : Source) : Except (Nat × ScriptError) (Option (Command × Source)) :=
  match (readList (stepsFor s.rest) .line none).run s with
  | .error e s => .error (s.line, e)
  | .ok command s =>
    match s.again, command with
    | some .endOfScript, .skip => .ok none
    | some .endOfScript, command => .ok (some (command, { s with rest := [], again := none }))
    | _, command => .ok (some (command, { s with again := none }))

end Scaffold.Shell
