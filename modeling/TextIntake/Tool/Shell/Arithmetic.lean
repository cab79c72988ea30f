import TextIntake.Tool.Shell.State

set_option autoImplicit false

/-!
# Arithmetic

Expressions over whole numbers of 64 bits.  An expression is worked out while it is
read; in a part that does not count nothing is assigned and nothing can fail.
-/

namespace TextIntake.Tool.Shell.Arithmetic

/-- An operation on two numbers. -/
inductive Operation where
  | times | quotient | modulo | plus | minus | shiftLeft | shiftRight | less | lessEqual | greater
  | greaterEqual | equal | unequal | bitAnd | bitXor | bitOr
  deriving DecidableEq, Repr, Inhabited

/-- How loosely an operation binds. -/
def Operation.rank : Operation → Nat
  | times | quotient | modulo => 0
  | plus | minus => 1
  | shiftLeft | shiftRight => 2
  | less | lessEqual | greater | greaterEqual => 3
  | equal | unequal => 4
  | bitAnd => 5
  | bitXor => 6
  | bitOr => 7

/-- A rank looser than that of every operation. -/
def loosest : Nat := 8

/-- A token of an expression. -/
inductive Symbol where
  | number (n : Int64)
  | variable (name : Text)
  | operation (o : Operation)
  /-- an assignment, perhaps by an operation -/
  | assignment (o : Option Operation)
  | both
  | either
  | not
  | complement
  | question
  | colon
  | openParen
  | closeParen
  | wrong
  deriving DecidableEq, Repr, Inhabited

/-- How operators are written; of two that fit, the longer one comes first. -/
def spellings : List (Text × Symbol) := [
  ("<<=".toList, .assignment (some .shiftLeft)), (">>=".toList, .assignment (some .shiftRight)),
  ("<<".toList, .operation .shiftLeft), (">>".toList, .operation .shiftRight),
  ("<=".toList, .operation .lessEqual), (">=".toList, .operation .greaterEqual),
  ("==".toList, .operation .equal), ("!=".toList, .operation .unequal),
  ("&&".toList, .both), ("||".toList, .either),
  ("*=".toList, .assignment (some .times)), ("/=".toList, .assignment (some .quotient)),
  ("%=".toList, .assignment (some .modulo)), ("+=".toList, .assignment (some .plus)),
  ("-=".toList, .assignment (some .minus)), ("&=".toList, .assignment (some .bitAnd)),
  ("^=".toList, .assignment (some .bitXor)), ("|=".toList, .assignment (some .bitOr)),
  (['<'], .operation .less), (['>'], .operation .greater), (['='], .assignment none),
  (['!'], .not), (['&'], .operation .bitAnd), (['|'], .operation .bitOr),
  (['*'], .operation .times), (['/'], .operation .quotient), (['%'], .operation .modulo),
  (['+'], .operation .plus), (['-'], .operation .minus), (['~'], .complement),
  (['^'], .operation .bitXor), (['?'], .question), ([':'], .colon), (['('], .openParen),
  ([')'], .closeParen)]

/-- Reads the symbol at the start of a text, and tells its length. -/
def symbol (t : Text) : Symbol × Nat :=
  match t with
  | [] => (.wrong, 1)
  | c :: _ =>
    if Character.isDecimalDigit c then
      let d := Sh.readInteger 0 t
      (.number (Int64.ofInt d.value), t.length - d.rest.length)
    else if isNameStart c then
      let name := leadingName t
      (.variable name, name.length)
    else
      match spellings.find? fun (s, _) => s.isPrefixOf t with
      | some (s, x) => (x, s.length)
      | none => (.wrong, 1)

/-- The symbols of a text; so many characters belong to one that was read before. -/
def symbolsFrom : Nat → Text → List Symbol
  | _, [] => []
  | skipped + 1, _ :: t => symbolsFrom skipped t
  | 0, c :: t =>
    if c = ' ' ∨ c = '\t' ∨ c = '\n' then symbolsFrom 0 t
    else
      let (x, length) := symbol (c :: t)
      x :: symbolsFrom (length - 1) t

/-- An expression that is being worked out. -/
structure Progress where
  text : Text
  left : List Symbol
  deriving Inhabited

/-- A step of working out an expression. -/
abbrev Work := StateT Progress Sh

/-- Fails with a message about the expression. -/
def fail {α : Type} (message : String) : Work α := do
  let p ← get
  Sh.fail ("arithmetic expression: ".toList ++ message.toList ++ ": \"".toList ++ p.text ++ ['"'])

/-- The next symbol. -/
def peek : Work (Option Symbol) := do return (← get).left.head?

/-- Leaves the next symbol behind. -/
def drop : Work Unit := modify fun p => { p with left := p.left.drop 1 }

/-- A truth value as a number. -/
def ofBool (b : Bool) : Int64 := if b then 1 else 0

/-- Applies an operation. -/
def apply (o : Operation) (a b : Int64) : Work Int64 := do
  let divided (divide : Int64 → Int64 → Int64) : Work Int64 := do
    if b = 0 then fail "division by zero"
    else if b = -1 ∧ a = Int64.minValue then throw (.gone (.killed 8))
    else return divide a b
  match o with
  | .times => return a * b
  | .quotient => divided (· / ·)
  | .modulo => divided (· % ·)
  | .plus => return a + b
  | .minus => return a - b
  | .shiftLeft => return a <<< b
  | .shiftRight => return a >>> b
  | .less => return ofBool (decide (a < b))
  | .lessEqual => return ofBool (decide (a ≤ b))
  | .greater => return ofBool (decide (b < a))
  | .greaterEqual => return ofBool (decide (b ≤ a))
  | .equal => return ofBool (a == b)
  | .unequal => return ofBool (a != b)
  | .bitAnd => return a &&& b
  | .bitXor => return a ^^^ b
  | .bitOr => return a ||| b

/-- The value of a variable; one that is missing is zero. -/
def lookUp (name : Text) : Work Int64 := do
  return Int64.ofInt (← Sh.integer 0 ((← Sh.value? name).getD []))

/-- A number as text. -/
def text (n : Int64) : Text := (toString n.toInt).toList

/-- How parts of an expression are worked out; the flag tells whether they count. -/
structure Parts where
  /-- an expression, assignments included -/
  whole : Bool → Work Int64
  primary : Bool → Work Int64
  choice : Bool → Work Int64
  both : Bool → Work Int64
  either : Bool → Work Int64

/-- Works out operations behind a first operand, as long as they bind tighter than
`limit`. -/
def operations (x : Parts) (counts : Bool) (limit : Nat) : Nat → Int64 → Work Int64
  | 0, a => return a
  | fuel + 1, a => do
    match ← peek with
    | some (.operation o) =>
      if limit ≤ o.rank then return a
      drop
      let b ← x.primary counts
      let b ← tighter fuel o b
      operations x counts limit fuel (← if counts then apply o a b else pure b)
    | _ => return a
where
  /-- Works out what binds tighter than `o` behind its second operand. -/
  tighter (fuel : Nat) (o : Operation) (b : Int64) : Work Int64 := do
    match ← peek with
    | some (.operation p) =>
      if p.rank < o.rank then operations x counts o.rank fuel b else return b
    | _ => return b

/-- Works out a primary expression. -/
def primary (x : Parts) (counts : Bool) : Work Int64 := do
  let first ← peek
  match first with
  | some .openParen =>
    drop
    let n ← x.whole counts
    if (← peek) ≠ some .closeParen then fail "expecting ')'"
    drop
    return n
  | some (.number n) =>
    drop
    return n
  | some (.variable name) =>
    drop
    if counts then lookUp name else return 0
  | some (.operation .plus) =>
    drop
    x.primary counts
  | some (.operation .minus) =>
    drop
    return -(← x.primary counts)
  | some .not =>
    drop
    return ofBool ((← x.primary counts) == 0)
  | some .complement =>
    drop
    return ~~~(← x.primary counts)
  | _ => fail "expecting primary"

/-- Works out operations. -/
def binary (x : Parts) (counts : Bool) : Work Int64 := do
  let a ← x.primary counts
  operations x counts loosest ((← get).left.length + 1) a

/-- Works out a conjunction. -/
def both (x : Parts) (counts : Bool) : Work Int64 := do
  let a ← binary x counts
  if (← peek) ≠ some .both then return a
  drop
  let b ← x.both (counts && a != 0)
  return ofBool (a != 0 && b != 0)

/-- Works out a disjunction. -/
def either (x : Parts) (counts : Bool) : Work Int64 := do
  let a ← both x counts
  if (← peek) ≠ some .either then return a
  drop
  let b ← x.either (counts && a == 0)
  return ofBool (a != 0 || b != 0)

/-- Works out a choice. -/
def choice (x : Parts) (counts : Bool) : Work Int64 := do
  let a ← either x counts
  if (← peek) ≠ some .question then return a
  drop
  let b ← x.whole (counts && a != 0)
  if (← peek) ≠ some .colon then fail "expecting ':'"
  drop
  let c ← x.choice (counts && a == 0)
  return if a != 0 then b else c

/-- Works out an expression. -/
def whole (x : Parts) (counts : Bool) : Work Int64 := do
  match (← get).left with
  | .variable name :: .assignment o :: left =>
    modify fun p => { p with left }
    let b ← x.whole counts
    if !counts then return b
    let n ← match o with
      | none => pure b
      | some o => apply o (← lookUp name) b
    Sh.assign name (some (text n)) false
    return n
  | _ => choice x counts

/-- The parts of expressions that nest at most so deep. -/
def parts : Nat → Parts
  | 0 => ⟨tooDeep, tooDeep, tooDeep, tooDeep, tooDeep⟩
  | depth + 1 => {
      whole := fun counts => whole (parts depth) counts
      primary := fun counts => primary (parts depth) counts
      choice := fun counts => choice (parts depth) counts
      both := fun counts => both (parts depth) counts
      either := fun counts => either (parts depth) counts }
where
  /-- What nests too deeply. -/
  tooDeep (_ : Bool) : Work Int64 := fail "expecting primary"

/-- Works out the expression that a text writes. -/
def evaluate (t : Text) : Sh Int64 := do
  let left := symbolsFrom 0 t
  let step : Work Int64 := do
    let n ← (parts (4 * left.length + 8)).whole true
    if (← peek).isSome then fail "expecting EOF"
    return n
  return (← step.run { text := t, left }).1

end TextIntake.Tool.Shell.Arithmetic
