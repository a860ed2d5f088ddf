import Scaffold.CommandLine.Switch
import Scaffold.Settings.Basic
import Scaffold.Text.Numeral
import Scaffold.Text.Quoted

/-!
# Arguments

A command line is a list of arguments: switches, in any place, and at most one name for the
project. A long switch may be cut short as long as no other one starts the same, short ones may be
run together, and a value may be attached to its switch. After `--` nothing is a switch any more.

* `classify`: what each argument is, seen on its own.
* `Expansion`: what an argument with switches stands for.
* `parse`: the wishes of the user, or why the command line cannot be read.
* `Arguments.fields`: the settings that the wishes come to.
-/

namespace Scaffold.CommandLine

/-! ## Single arguments -/

/-- What an argument is. -/
inductive Kind where
  /-- A switch, known to be a short one or not, and the characters that are attached to it. -/
  | switch (s : Switch) (short : Bool) (attached : Option (List Char))
  /-- Something that looks like a switch and is none. -/
  | unknown
  /-- A value or a name. -/
  | plain
  /-- The first `--`. -/
  | separator
  deriving DecidableEq, Repr

/-- The part before the first equals sign, and what is attached by it. -/
def splitAssigned (cs : List Char) : List Char × Option (List Char) :=
  match cs.dropWhile (· ≠ '=') with
  | '=' :: value => (cs.takeWhile (· ≠ '='), some value)
  | _ => (cs, none)

/-- A spelling is a short one: a hyphen and a character that is no hyphen. -/
def isShort : List Char → Bool
  | '-' :: c :: _ => c ≠ '-'
  | _ => false

/-- A negative number: a hyphen, then digits, possibly after other digits and a point. A line end
behind it does not matter. -/
def isNegativeNumber (cs : List Char) : Bool :=
  match cs with
  | '-' :: ds =>
    let ds := if ds.getLast? = some '\n' then ds.dropLast else ds
    match ds.dropWhile Text.isDigit with
    | [] => !ds.isEmpty
    | '.' :: after => !after.isEmpty && after.all Text.isDigit
    | _ => false
  | _ => false

/-- The switches that a cut-short or glued spelling may stand for, with their full spellings. -/
def candidates (cs : List Char) : List (String × Kind) :=
  if isShort cs then
    (spellings.filter fun x => x.1.toList = cs.take 2).map fun x =>
      (x.1, .switch x.2 true (some (cs.drop 2)))
  else
    let (stem, attached) := splitAssigned cs
    (spellings.filter fun x => stem.isPrefixOf x.1.toList).map fun x =>
      (x.1, .switch x.2 (isShort x.1.toList) attached)

/-- The switch of an exact spelling. -/
def spelled? (cs : List Char) : Option Switch :=
  spellings.lookup (String.ofList cs)

/-- What an argument is that starts with a hyphen and has more characters. -/
def classifyHyphen (cs : List Char) : Except String Kind :=
  let (stem, attached) := splitAssigned cs
  match spelled? cs, spelled? stem with
  | some s, _ => .ok (.switch s (isShort cs) none)
  | none, some s => .ok (.switch s (isShort stem) attached)
  | none, none =>
    match candidates cs with
    | [(_, kind)] => .ok kind
    | [] => .ok (if isNegativeNumber cs || cs.contains ' ' then .plain else .unknown)
    | several =>
      .error ("ambiguous option: " ++ String.ofList cs ++ " could match " ++
        ", ".intercalate (several.map Prod.fst))

/-- What an argument is. A lone hyphen is a name. -/
def classify (argument : String) : Except String Kind :=
  match argument.toList with
  | '-' :: c :: cs => classifyHyphen ('-' :: c :: cs)
  | _ => .ok .plain

/-- What the arguments are; those after the first `--` are plain. -/
def classifyAll : List String → Except String (List (String × Kind))
  | [] => .ok []
  | "--" :: more => .ok (("--", .separator) :: more.map (·, .plain))
  | a :: more => do
    let kind ← classify a
    let rest ← classifyAll more
    return (a, kind) :: rest

/-! ## Switches run together -/

/-- What is wished for by a switch with a value. -/
inductive Wish where
  | text (s : String)
  /-- No value at all, which is what an attached `--` says. -/
  | nothing
  deriving DecidableEq, Repr

/-- The wish that a value attached to its switch expresses. -/
def Wish.ofAttached (cs : List Char) : Wish :=
  if cs = ['-', '-'] then .nothing else .text (String.ofList cs)

/-- How an argument with switches ends. -/
inductive Ending where
  /-- With all said. -/
  | complete
  /-- With a switch and its value. -/
  | value (s : Switch) (w : Wish)
  /-- With a switch whose value has to follow. -/
  | open (s : Switch)
  deriving DecidableEq, Repr

/-- What an argument with switches stands for: switches without a value, and how it ends. -/
structure Expansion where
  switches : List Switch
  ending : Ending
  deriving DecidableEq, Repr

/-- The complaint about an argument of a switch. -/
def complain (s : Switch) (message : String) : String :=
  "argument " ++ s.describe ++ ": " ++ message

/-- The complaint about something attached to a switch that takes no value. -/
def ignoredArgument (s : Switch) (cs : List Char) : String :=
  complain s ("ignored explicit argument " ++ Text.quote (String.ofList cs))

/-- What a switch with nothing attached stands for. -/
def expandBare (s : Switch) : Expansion :=
  if s.takesValue then ⟨[], .open s⟩ else ⟨[s], .complete⟩

/-- What a short switch with characters attached stands for: a value, or more short switches. -/
def expandRun (s : Switch) : List Char → Except String Expansion
  | [] => if s.takesValue then .ok ⟨[], .value s (.text "")⟩ else .error (ignoredArgument s [])
  | c :: cs =>
    if s.takesValue then .ok ⟨[], .value s (.ofAttached (c :: cs))⟩
    else
      match spelled? ['-', c], cs with
      | none, _ => .error (ignoredArgument s (c :: cs))
      | some next, [] =>
        let more := expandBare next
        .ok { more with switches := s :: more.switches }
      | some next, cs => do
        let more ← expandRun next cs
        return { more with switches := s :: more.switches }

/-- What a switch with something attached stands for. -/
def expand (s : Switch) (short : Bool) : Option (List Char) → Except String Expansion
  | none => .ok (expandBare s)
  | some cs =>
    if short then expandRun s cs
    else if s.takesValue then .ok ⟨[], .value s (.ofAttached cs)⟩
    else .error (ignoredArgument s cs)

/-! ## Wishes -/

/-- What the user wishes for a project. -/
structure Arguments where
  projectName : Option String := none
  template : Wish := .text "vanilla"
  identifier : Option Wish := none
  yes : Bool := false
  force : Bool := false
  veloxPath : Option Wish := none
  templatesDirectory : Option Wish := none
  verbose : Bool := false
  deriving DecidableEq, Repr

/-- What a command line asks for. -/
inductive Request where
  | help
  | version
  | create (arguments : Arguments)
  deriving DecidableEq, Repr

namespace Arguments

/-- The effect of a switch with a value. -/
def setValue (a : Arguments) (w : Wish) : Switch → Arguments
  | .template => { a with template := w }
  | .identifier => { a with identifier := some w }
  | .veloxPath => { a with veloxPath := some w }
  | .templatesDirectory => { a with templatesDirectory := some w }
  | _ => a

/-- The effect of a switch without a value. Help and version end the reading; the left side of the
result is such an end. -/
def setSwitch (a : Arguments) : Switch → Except Request Arguments
  | .help => .error .help
  | .version => .error .version
  | .yes => .ok { a with yes := true }
  | .force => .ok { a with force := true }
  | .verbose => .ok { a with verbose := true }
  | _ => .ok a

/-- The effect of several switches without values. -/
def setSwitches (a : Arguments) : List Switch → Except Request Arguments
  | [] => .ok a
  | s :: ss => do setSwitches (← a.setSwitch s) ss

end Arguments

/-! ## Command lines -/

/-- What has been read of a command line: the wishes so far, whether the name of the project has
been read, and the arguments that mean nothing. -/
structure Reading where
  arguments : Arguments := {}
  named : Bool := false
  extras : List String := []
  deriving DecidableEq, Repr

/-- The name of the project read from an argument, or one argument too many. -/
def Reading.takeName (r : Reading) (name : String) : Reading :=
  if r.named then { r with extras := r.extras ++ [name] }
  else { r with arguments := { r.arguments with projectName := some name }, named := true }

/-- The request that a reading ends with when all arguments are read. -/
def Reading.finish (r : Reading) : Except String Request :=
  match r.extras with
  | [] => .ok (.create r.arguments)
  | extras => .error ("unrecognized arguments: " ++ " ".intercalate extras)

/-- Arguments that mean nothing. -/
def Reading.skip (r : Reading) (extras : List String) : Reading :=
  { r with extras := r.extras ++ extras }

/-- The request of classified arguments. The separator belongs to the name on either side of it;
if the name was read before, it is one argument too many. -/
def readRequest (r : Reading) : List (String × Kind) → Except String Request
  | [] => r.finish
  | (argument, .unknown) :: more => readRequest (r.skip [argument]) more
  | (name, .plain) :: (mark, .separator) :: more =>
    if r.named then (r.skip (name :: mark :: more.map Prod.fst)).finish
    else ((r.takeName name).skip (more.map Prod.fst)).finish
  | (name, .plain) :: more => readRequest (r.takeName name) more
  | (mark, .separator) :: more =>
    if r.named then (r.skip (mark :: more.map Prod.fst)).finish
    else
      match more with
      | [] => r.finish
      | (name, _) :: extras => ((r.takeName name).skip (extras.map Prod.fst)).finish
  | (_, .switch s short attached) :: more => do
    let expansion ← expand s short attached
    match expansion.ending, more with
    | .open s, (value, .plain) :: more =>
      proceed expansion.switches fun a =>
        readRequest { r with arguments := a.setValue (.text value) s } more
    | .open s, _ => .error (complain s "expected one argument")
    | .value s wish, more =>
      proceed expansion.switches fun a =>
        readRequest { r with arguments := a.setValue wish s } more
    | .complete, more =>
      proceed expansion.switches fun a => readRequest { r with arguments := a } more
where
  /-- Goes on after some switches, unless one of them ends the reading. -/
  proceed (switches : List Switch) (k : Arguments → Except String Request) :
      Except String Request :=
    match r.arguments.setSwitches switches with
    | .error request => .ok request
    | .ok a => k a

/-- What a command line asks for, or why it cannot be read. -/
def parse (arguments : List String) : Except String Request := do
  readRequest {} (← classifyAll arguments)

/-! ## Settings -/

open Settings in
/-- The value of a setting that a wish comes to. No value at all is an empty list. -/
def Wish.toValue : Wish → Value
  | .text s => .text s
  | .nothing => .list []

open Settings in
/-- The settings that the wishes come to. What was not wished for is null. -/
def Arguments.fields (a : Arguments) : List (String × Value) :=
  let wish? (w : Option Wish) : Value := (w.map Wish.toValue).getD .null
  [("project_name", wish? (a.projectName.map .text)),
    ("template", a.template.toValue),
    ("identifier", wish? a.identifier),
    ("yes", .flag a.yes),
    ("force", .flag a.force),
    ("velox_path", wish? a.veloxPath),
    ("templates_dir", wish? a.templatesDirectory),
    ("verbose", .flag a.verbose)]

end Scaffold.CommandLine
