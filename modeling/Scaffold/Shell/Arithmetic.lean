import Scaffold.Shell.Format

/-!
# Arithmetic

Expressions over whole numbers that fit into a machine word. Numbers that do not fit are wrapped
around.

* `Expression`: an expression, and `readExpression` the one that a text writes.
* `Expression.evaluate`: its value, which may depend on variables and change them.
-/

namespace Scaffold.Shell

/-! ## Expressions -/

/-- An operation on two numbers. -/
inductive Operation where
  | times | over | modulo
  | plus | minus
  | shiftLeft | shiftRight
  | less | atMost | greater | atLeast
  | equal | unequal
  | bitAnd
  | bitXor
  | bitOr
  deriving DecidableEq, Repr

/-- How tightly an operation binds. -/
def Operation.strength : Operation → Nat
  | .times | .over | .modulo => 8
  | .plus | .minus => 7
  | .shiftLeft | .shiftRight => 6
  | .less | .atMost | .greater | .atLeast => 5
  | .equal | .unequal => 4
  | .bitAnd => 3
  | .bitXor => 2
  | .bitOr => 1

/-- An expression. -/
inductive Expression where
  | number (n : Int)
  | variable (name : String)
  | negative (e : Expression)
  | complement (e : Expression)
  | negation (e : Expression)
  | apply (o : Operation) (a b : Expression)
  | conjunction (a b : Expression)
  | disjunction (a b : Expression)
  | choose (test yes no : Expression)
  /-- A variable is given a value, perhaps by an operation on the one that it has. -/
  | assign (name : String) (o : Option Operation) (e : Expression)
  deriving Repr

/-- What is wrong with an expression. -/
inductive ExpressionFault where
  | expectingOperand
  | expectingBracket
  | expectingColon
  | expectingEnd
  | divisionByZero
  /-- The value of a variable is no number. -/
  | illegalNumber (value : String)
  deriving DecidableEq, Repr

/-- The wording of a fault of the expression that a text writes. -/
def ExpressionFault.message (text : String) (f : ExpressionFault) : String :=
  let about (what : String) := "arithmetic expression: " ++ what ++ ": \"" ++ text ++ "\""
  match f with
  | .expectingOperand => about "expecting primary"
  | .expectingBracket => about "expecting ')'"
  | .expectingColon => about "expecting ':'"
  | .expectingEnd => about "expecting EOF"
  | .divisionByZero => about "division by zero"
  | .illegalNumber value => "Illegal number: " ++ value

/-! ## Signs -/

/-- A piece of the text of an expression. -/
inductive Sign where
  | number (n : Int)
  | name (s : String)
  | operation (o : Operation)
  | assignment (o : Option Operation)
  | both | either | question | colon | openBracket | closeBracket | not | complement
  /-- A character that no expression may hold. -/
  | bad
  deriving DecidableEq, Repr

/-- The signs by their texts, longer ones first. -/
def signs : List (List Char × Sign) :=
  ([("<<=", .assignment (some .shiftLeft)), (">>=", .assignment (some .shiftRight)),
    ("&&", .both), ("||", .either), ("<<", .operation .shiftLeft), (">>", .operation .shiftRight),
    ("<=", .operation .atMost), (">=", .operation .atLeast), ("==", .operation .equal),
    ("!=", .operation .unequal), ("+=", .assignment (some .plus)),
    ("-=", .assignment (some .minus)), ("*=", .assignment (some .times)),
    ("/=", .assignment (some .over)), ("%=", .assignment (some .modulo)),
    ("&=", .assignment (some .bitAnd)), ("^=", .assignment (some .bitXor)),
    ("|=", .assignment (some .bitOr)), ("<", .operation .less), (">", .operation .greater),
    ("+", .operation .plus), ("-", .operation .minus), ("*", .operation .times),
    ("/", .operation .over), ("%", .operation .modulo), ("&", .operation .bitAnd),
    ("^", .operation .bitXor), ("|", .operation .bitOr), ("=", .assignment none),
    ("?", .question), (":", .colon), ("(", .openBracket), (")", .closeBracket), ("!", .not),
    ("~", .complement)] : List (String × Sign)).map fun x => (x.1.toList, x.2)

/-- The largest number of a machine word. -/
def largestWord : Int := 9223372036854775807

/-- A number wrapped around into a machine word. -/
def wrap (i : Int) : Int :=
  i.bmod wordSize.toNat

/-- A character of a name of a variable. -/
def inVariable (c : Char) : Bool :=
  c.isAlphanum || c == '_'

/-- The signs that a text is made up of. The first argument bounds how many there are. -/
def readSigns : Nat → List Char → List Sign
  | 0, _ | _, [] => []
  | n + 1, c :: cs =>
    if c = ' ' ∨ c = '\t' ∨ c = '\n' then readSigns n cs
    else if c.isDigit then
      match readDigits (c :: cs) with
      | some (k, rest) => .number (min k largestWord) :: readSigns n rest
      | none => [.bad]
    else if inVariable c then
      .name (String.ofList ((c :: cs).takeWhile inVariable)) ::
        readSigns n ((c :: cs).dropWhile inVariable)
    else
      match signs.find? fun x => x.1.isPrefixOf (c :: cs) with
      | some (text, sign) => sign :: readSigns n ((c :: cs).drop text.length)
      | none => [.bad]

/-! ## Reading -/

/-- An expression, and the signs behind it. -/
abbrev ExpressionResult := Except ExpressionFault (Expression × List Sign)

mutual

/-- An expression that may be an assignment. The first argument of each of these readers bounds the
number of steps. -/
def readAssignment : Nat → List Sign → ExpressionResult
  | 0, _ => .error .expectingOperand
  | n + 1, signs =>
    match signs with
    | .name name :: .assignment o :: rest => do
      let (e, rest) ← readAssignment n rest
      return (.assign name o e, rest)
    | signs => readCondition n signs

/-- A choice between expressions, or a disjunction. -/
def readCondition : Nat → List Sign → ExpressionResult
  | 0, _ => .error .expectingOperand
  | n + 1, signs => do
    match ← readDisjunction n signs with
    | (test, .question :: rest) =>
      match ← readAssignment n rest with
      | (yes, .colon :: rest) =>
        let (no, rest) ← readCondition n rest
        return (.choose test yes no, rest)
      | _ => .error .expectingColon
    | result => return result

/-- Expressions one of which has to hold. -/
def readDisjunction : Nat → List Sign → ExpressionResult
  | 0, _ => .error .expectingOperand
  | n + 1, signs => do
    match ← readConjunction n signs with
    | (a, .either :: rest) =>
      let (b, rest) ← readDisjunction n rest
      return (.disjunction a b, rest)
    | result => return result

/-- Expressions all of which have to hold. -/
def readConjunction : Nat → List Sign → ExpressionResult
  | 0, _ => .error .expectingOperand
  | n + 1, signs => do
    let (a, rest) ← readOperand n signs
    match ← readOperations n 1 a rest with
    | (a, .both :: rest) =>
      let (b, rest) ← readConjunction n rest
      return (.conjunction a b, rest)
    | result => return result

/-- What operations of some strength or more make of an expression. -/
def readOperations : Nat → Nat → Expression → List Sign → ExpressionResult
  | 0, _, _, _ => .error .expectingOperand
  | n + 1, least, a, signs =>
    match signs with
    | .operation o :: rest =>
      if o.strength < least then .ok (a, signs)
      else do
        let (b, rest) ← readOperand n rest
        let (b, rest) ← readOperations n (o.strength + 1) b rest
        readOperations n least (.apply o a b) rest
    | signs => .ok (a, signs)

/-- An expression that no operation takes apart. -/
def readOperand : Nat → List Sign → ExpressionResult
  | 0, _ => .error .expectingOperand
  | n + 1, signs => do
    match signs with
    | .number k :: rest => return (.number k, rest)
    | .name name :: rest => return (.variable name, rest)
    | .operation .plus :: rest => readOperand n rest
    | .operation .minus :: rest =>
      let (e, rest) ← readOperand n rest
      return (.negative e, rest)
    | .not :: rest =>
      let (e, rest) ← readOperand n rest
      return (.negation e, rest)
    | .complement :: rest =>
      let (e, rest) ← readOperand n rest
      return (.complement e, rest)
    | .openBracket :: rest =>
      match ← readAssignment n rest with
      | (e, .closeBracket :: rest) => return (e, rest)
      | _ => .error .expectingBracket
    | _ => .error .expectingOperand

end

/-- The expression that a text writes. -/
def readExpression (text : String) : Except ExpressionFault Expression := do
  let cs := text.toList
  match ← readAssignment (8 * cs.length + 8) (readSigns cs.length cs) with
  | (e, []) => return e
  | _ => .error .expectingEnd

/-! ## Evaluation -/

/-- The number of a statement that holds or not. -/
def truth (b : Bool) : Int :=
  if b then 1 else 0

/-- The bits of a number. -/
def bitsOf (i : Int) : BitVec 64 :=
  BitVec.ofInt 64 i

/-- The value of an operation on two numbers. -/
def Operation.value (o : Operation) (a b : Int) : Except ExpressionFault Int :=
  match o with
  | .times => .ok (wrap (a * b))
  | .over => if b = 0 then .error .divisionByZero else .ok (wrap (a.tdiv b))
  | .modulo => if b = 0 then .error .divisionByZero else .ok (a.tmod b)
  | .plus => .ok (wrap (a + b))
  | .minus => .ok (wrap (a - b))
  | .shiftLeft => .ok (bitsOf a <<< (b % 64).toNat).toInt
  | .shiftRight => .ok ((bitsOf a).sshiftRight (b % 64).toNat).toInt
  | .less => .ok (truth (a < b))
  | .atMost => .ok (truth (a ≤ b))
  | .greater => .ok (truth (a > b))
  | .atLeast => .ok (truth (a ≥ b))
  | .equal => .ok (truth (a = b))
  | .unequal => .ok (truth (a ≠ b))
  | .bitAnd => .ok (bitsOf a &&& bitsOf b).toInt
  | .bitXor => .ok (bitsOf a ^^^ bitsOf b).toInt
  | .bitOr => .ok (bitsOf a ||| bitsOf b).toInt

/-- The number that the value of a variable writes, with blanks around it; blanks alone count as
zero. -/
def valueNumber (value : String) : Except ExpressionFault Int :=
  let cs := (value.toList.reverse.dropWhile isNumberBlank).reverse.dropWhile isNumberBlank
  match cs with
  | [] => .ok 0
  | '\'' :: _ | '"' :: _ => .error (.illegalNumber value)
  | cs =>
    match readInteger .signed (String.ofList cs) with
    | (i, none) => .ok i
    | (_, some _) => .error (.illegalNumber value)

/-- A step of an evaluation, which gives values to some variables. -/
abbrev Evaluation := StateT (List (String × Int)) (Except ExpressionFault)

/-- The number that a variable holds. -/
def lookUp (values : String → Option String) (name : String) : Evaluation Int := do
  match (← get).lookup name with
  | some i => return i
  | none => valueNumber ((values name).getD "")

/-- The value of an expression, where variables have some values to begin with. -/
def Expression.evaluate (values : String → Option String) : Expression → Evaluation Int
  | .number n => return n
  | .variable name => lookUp values name
  | .negative e => return wrap (-(← e.evaluate values))
  | .complement e => return -(← e.evaluate values) - 1
  | .negation e => return truth ((← e.evaluate values) = 0)
  | .apply o a b => do
    let a ← a.evaluate values
    let b ← b.evaluate values
    o.value a b
  | .conjunction a b => do
    if (← a.evaluate values) = 0 then return 0 else return truth ((← b.evaluate values) ≠ 0)
  | .disjunction a b => do
    if (← a.evaluate values) ≠ 0 then return 1 else return truth ((← b.evaluate values) ≠ 0)
  | .choose test yes no => do
    if (← test.evaluate values) ≠ 0 then yes.evaluate values else no.evaluate values
  | .assign name o e => do
    let new ← e.evaluate values
    let value ← match o with
      | none => pure new
      | some o => do
        let old ← lookUp values name
        o.value old new
    modify fun assigned => (name, value) :: assigned.filter (·.1 != name)
    return value

/-- The value of the expression that a text writes, and the variables that it gives values to. -/
def evaluateText (values : String → Option String) (text : String) :
    Except ExpressionFault (Int × List (String × Int)) := do
  (← readExpression text).evaluate values |>.run []

end Scaffold.Shell
