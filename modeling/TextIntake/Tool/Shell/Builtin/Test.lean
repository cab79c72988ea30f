import TextIntake.Tool.Shell.Builtin.Basic

set_option autoImplicit false

/-!
# Conditions

`test` works out a condition on texts, numbers and files.  An operand that looks like an
operator counts as one only where that makes sense.
-/

namespace TextIntake.Tool.Shell.Builtin.Test

/-- An operator of a condition. -/
inductive Operator where
  | unary (letter : Char)
  | binary (name : Text)
  | not
  | both
  | either
  | openParen
  | closeParen
  deriving DecidableEq, Repr, Inhabited

/-- The letters of the operators with one operand. -/
def unaryLetters : Text := "rwxefdcbpugkstznhLOGS".toList

/-- The operators with two operands. -/
def binaryNames : List Text :=
  ["=", "!=", "<", ">", "-eq", "-ne", "-ge", "-gt", "-le", "-lt", "-nt", "-ot", "-ef"].map
    String.toList

/-- The operator that an argument writes. -/
def operator? (t : Text) : Option Operator :=
  if binaryNames.contains t then some (.binary t)
  else
    match t with
    | ['!'] => some .not
    | ['('] => some .openParen
    | [')'] => some .closeParen
    | ['-', 'a'] => some .both
    | ['-', 'o'] => some .either
    | ['-', c] => if unaryLetters.contains c then some (.unary c) else none
    | _ => none

/-- Whether an argument is an operator between two operands. -/
def isBinary (t : Text) : Bool :=
  match operator? t with
  | some (.binary _) => true
  | _ => false

/-- What an argument counts as. -/
inductive Token where
  | ending
  | operand
  | operator (o : Operator)
  deriving DecidableEq, Repr, Inhabited

/-- Whether the argument behind an operator with one operand makes an operand of it. -/
def isOperand : List Text → Bool
  | [] => true
  | [_] => false
  | t :: _ => isBinary t

/-- What the first of the arguments counts as. -/
def token : List Text → Token
  | [] => .ending
  | t :: rest =>
    match operator? t with
    | none => .operand
    | some (.unary c) => if isOperand rest then .operand else .operator (.unary c)
    | some .openParen => if rest.isEmpty then .operand else .operator .openParen
    | some o => .operator o

/-- Refuses a condition. -/
def refuse {α : Type} (what : Text) (message : String) : Sh α :=
  Sh.fail ((if what = [] then [] else what ++ ": ".toList) ++ message.toList)

/-- The number that an operand writes. -/
def number (t : Text) : Sh Int := Sh.integer 10 t

/-- Whether a file is as an operator asks for. -/
def fileIs (m : Machine) (letter : Char) (name : Text) : Bool :=
  match m.find name with
  | .error _ => false
  | .ok (_, node) =>
    match letter, node with
    | 'f', .file _ | 'd', .directory | 'c', .device _ => true
    | 'f', _ | 'd', _ | 'c', _ => false
    | 's', .file n => (m.content n).size ≠ 0
    | 's', .directory => true
    | 's', .device _ => false
    | 'x', .directory => true
    | 'x', _ => false
    | letter, _ => ['e', 'r', 'w', 'O', 'G'].contains letter

/-- Works out an operator with one operand. -/
def unary (letter : Char) (t : Text) : Sh Bool := do
  match letter with
  | 'z' => return t.isEmpty
  | 'n' => return !t.isEmpty
  | 't' => do
    let _ ← number t
    return false
  | _ => return fileIs (← Sh.machine) letter t

/-- Works out an operator between two operands. -/
def binary (name a b : Text) : Sh Bool := do
  let compared (test : Int → Int → Bool) : Sh Bool := do
    let m ← number a
    let n ← number b
    return test m n
  match String.ofList name with
  | "=" => return a == b
  | "!=" => return a != b
  | "<" => return compareText a b == .lt
  | ">" => return compareText a b == .gt
  | "-eq" => compared (· == ·)
  | "-ne" => compared (· != ·)
  | "-ge" => compared fun m n => decide (n ≤ m)
  | "-gt" => compared fun m n => decide (n < m)
  | "-le" => compared fun m n => decide (m ≤ n)
  | "-lt" => compared fun m n => decide (m < n)
  | "-ef" =>
    let m ← Sh.machine
    match m.find a, m.find b with
    | .ok (p, _), .ok (q, _) => return p == q
    | _, _ => return false
  | _ => return false

/-- A truth value and the arguments from the last one on that was used. -/
abbrev Outcome := Bool × List Text

/-- How conditions are worked out: from what the first argument counts as. -/
abbrev Work := Token → List Text → Sh Outcome

/-- Works out a condition without connectives. -/
def primary (whole : Work) : Work := fun t arguments => do
  let behind := arguments.drop 1
  match t with
  | .ending => return (false, arguments)
  | .operator .openParen =>
    match token behind with
    | .operator .closeParen => return (false, behind)
    | t =>
      let (value, rest) ← whole t behind
      if token (rest.drop 1) ≠ .operator .closeParen then
        refuse [] "closing paren expected"
      return (value, rest.drop 1)
  | .operator (.unary c) =>
    match behind with
    | [] => refuse ['-', c] "argument expected"
    | operand :: _ => return (← unary c operand, behind)
  | _ =>
    let first := arguments.headD []
    match token behind with
    | .operator (.binary name) =>
      match behind.drop 1 with
      | [] => refuse name "argument expected"
      | second :: _ => return (← binary name first second, behind.drop 1)
    | _ => return (!first.isEmpty, arguments)

/-- Works out a condition that may be negated. -/
def negated (whole : Work) : Nat → Work
  | 0, t, arguments => primary whole t arguments
  | fuel + 1, t, arguments => do
    if t = .operator .not then
      let next := token (arguments.drop 1)
      let (value, rest) ← negated whole fuel next
        (if next = .ending then arguments else arguments.drop 1)
      return (!value, rest)
    else primary whole t arguments

/-- Works out a conjunction. -/
def conjunction (whole : Work) : Nat → Bool → Work
  | 0, before, _, arguments => return (before, arguments)
  | fuel + 1, before, t, arguments => do
    let (value, rest) ← negated whole arguments.length t arguments
    let value := before && value
    if token (rest.drop 1) = .operator .both then
      conjunction whole fuel value (token (rest.drop 2)) (rest.drop 2)
    else return (value, rest)

/-- Works out a disjunction. -/
def disjunction (whole : Work) : Nat → Bool → Work
  | 0, before, _, arguments => return (before, arguments)
  | fuel + 1, before, t, arguments => do
    let (value, rest) ← conjunction whole (arguments.length + 1) true t arguments
    let value := before || value
    if token (rest.drop 1) = .operator .either then
      disjunction whole fuel value (token (rest.drop 2)) (rest.drop 2)
    else return (value, rest)

/-- Works out a condition with parentheses that nest at most so deep. -/
def whole : Nat → Work
  | 0 => fun _ arguments => return (false, arguments)
  | depth + 1 => fun t arguments =>
    disjunction (whole depth) (arguments.length + 1) false t arguments

/-- Works out what is left of a condition. -/
def evaluate (isNegated : Bool) (t : Token) (arguments : List Text) : Sh Nat := do
  let (value, rest) ← whole (arguments.length + 1) t arguments
  match rest with
  | first :: _ :: _ => refuse first "unexpected operator"
  | _ => return if value != isNegated then 0 else 1

/-- Takes the arguments of a condition.  Up to four of them are looked at as a whole. -/
def start : Nat → Bool → List Text → Sh Nat
  | 0, isNegated, _ => return if isNegated then 0 else 1
  | fuel + 1, isNegated, arguments => do
    let few := arguments.length = 3 ∨ arguments.length = 4
    match arguments with
    | [] => return if isNegated then 0 else 1
    | first :: rest =>
      if arguments.length = 3 ∧ isBinary (rest.headD []) then
        evaluate isNegated .operand arguments
      else if few ∧ first = ['('] ∧ arguments.getLast? = some [')'] then
        let inner := rest.dropLast
        evaluate isNegated (token inner) inner
      else if few ∧ first = ['!'] then start fuel true rest
      else evaluate isNegated (token arguments) arguments

end Test

/-- Works out a condition. -/
def test : Builtin := fun arguments => Test.start (arguments.length + 1) false arguments

/-- Works out a condition between brackets. -/
def bracket : Builtin := fun arguments => do
  if arguments.getLast? = some [']'] then test arguments.dropLast
  else Sh.fail "missing ]".toList

end TextIntake.Tool.Shell.Builtin
