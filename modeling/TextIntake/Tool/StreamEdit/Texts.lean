import TextIntake.Tool.StreamEdit.Basic

set_option autoImplicit false

/-!
# Texts in scripts

Expressions, replacements and inserted lines stand in scripts as texts with escapes of
their own.  What an escape stands for depends on the kind of the text.
-/

namespace TextIntake.Tool.StreamEdit

/-! ## Delimited texts -/

/-- Where the reader of a delimited text is: outside all brackets, or inside of one, at
the place where a closing bracket would be a member, or in a name that a character ends. -/
inductive Inside where
  | none
  | bracket
  | name (delimiter : Char)
  deriving DecidableEq, Repr, Inhabited

/-- A text that was read up to its delimiter. -/
structure Delimited where
  /-- the text; nothing when it has no end -/
  text : Option Text
  /-- how many characters were read, the delimiter among them -/
  length : Nat
  deriving DecidableEq, Repr, Inhabited

/-- More text in front of what was read behind one character. -/
def Delimited.behind (t : Text) (d : Delimited) : Delimited where
  text := d.text.map (t ++ ·)
  length := d.length + 1

/-- What one character of a delimited text says. -/
structure Stride where
  /-- the text that it stands for, together with so many characters behind it -/
  kept : Text
  more : Nat := 0
  inside : Inside
  deriving DecidableEq, Repr, Inhabited

/-- Reads one character in front of others. -/
def stride (isExpression : Bool) (delimiter : Char) (inside : Inside) (c : Char) (t : Text) :
    Stride :=
  match inside, c, t with
  | .none, '\\', d :: _ =>
    let kept : Text :=
      if d = delimiter then if !isExpression && d = '&' then ['\\', d] else [d]
      else if d = '\n' then [d]
      else if d = 'n' ∧ isExpression then ['\n']
      else ['\\', d]
    { kept, more := 1, inside }
  | .none, '[', t =>
    if !isExpression then { kept := [c], inside }
    else
      let first := t.takeWhile (· = '^')
      if first.length ≤ 1 ∧ (t.drop first.length).head? = some ']' then
        { kept := c :: (first ++ [']']), more := first.length + 1, inside := .bracket }
      else { kept := [c], inside := .bracket }
  | .none, _, _ => { kept := [c], inside }
  | .bracket, ']', _ => { kept := [c], inside := .none }
  | .bracket, '\\', 'n' :: _ => { kept := ['\n'], more := 1, inside }
  | .bracket, '[', d :: _ =>
    if ['.', ':', '='].contains d then { kept := [c, d], more := 1, inside := .name d }
    else { kept := [c], inside }
  | .bracket, _, _ => { kept := [c], inside }
  | .name d, c, ']' :: _ =>
    if c = d then { kept := [c, ']'], more := 1, inside := .bracket } else { kept := [c], inside }
  | .name _, _, _ => { kept := [c], inside }

/-- Reads up to a delimiter; so many characters were read before. -/
def delimitedFrom (isExpression : Bool) (delimiter : Char) :
    Nat → Inside → Text → Delimited
  | _, _, [] => ⟨none, 0⟩
  | skipped + 1, inside, _ :: t =>
    (delimitedFrom isExpression delimiter skipped inside t).behind []
  | 0, inside, c :: t =>
    if c = '\n' then ⟨none, 0⟩
    else if inside = .none ∧ c = delimiter then ⟨some [], 1⟩
    else
      let s := stride isExpression delimiter inside c t
      (delimitedFrom isExpression delimiter s.more s.inside t).behind s.kept

/-- Reads up to a delimiter.  A backslash in front of the delimiter goes, and so does one in
front of the end of a line.  In an expression brackets protect the delimiter. -/
def delimited (isExpression : Bool) (delimiter : Char) (t : Text) : Delimited :=
  delimitedFrom isExpression delimiter 0 .none t

/-! ## Escapes -/

/-- The kinds of texts. -/
inductive TextKind where
  | expression
  | replacement
  /-- lines, and the characters of transliterations -/
  | literal
  deriving DecidableEq, Repr, Inhabited

/-- What an escape stands for. -/
inductive Escape where
  /-- a text, and how many characters behind the backslash it covers -/
  | text (t : Text) (length : Nat)
  /-- an escape inside an escape -/
  | nested
  deriving DecidableEq, Repr, Inhabited

/-- An octet given by its number stays without a special meaning in a replacement. -/
def protect (kind : TextKind) (c : Char) : Text :=
  if c = '\\' ∧ kind ≠ .expression then ['\\', '\\']
  else if c = '&' ∧ kind = .replacement then ['\\', '&']
  else [c]

/-- Reads at most `most` digits of a base behind the letter of an escape. -/
def numbered (kind : TextKind) (letter : Char) (base most : Nat) (t : Text) : Escape :=
  let value (c : Char) : Option Nat := (hexValue? c).bind fun n => if n < base then some n else none
  let digits := (t.take most).takeWhile fun c => (value c).isSome
  if digits = [] then .text [letter] 1
  else
    let n := digits.foldl (fun n c => n * base + (value c).getD 0) 0
    .text (protect kind (Char.ofNat (n % 256))) (digits.length + 1)

/-- What stands behind a backslash, where that is an escape of all texts. -/
def escape? (kind : TextKind) (t : Text) : Option Escape :=
  match t with
  | 'a' :: _ => some (.text [Char.ofNat 7] 1)
  | 'f' :: _ => some (.text [Char.ofNat 12] 1)
  | 'n' :: _ => some (.text ['\n'] 1)
  | 'r' :: _ => some (.text ['\r'] 1)
  | 't' :: _ => some (.text ['\t'] 1)
  | 'v' :: _ => some (.text [Char.ofNat 11] 1)
  | 'd' :: t => some (numbered kind 'd' 10 3 t)
  | 'o' :: t => some (numbered kind 'o' 8 3 t)
  | 'x' :: t => some (numbered kind 'x' 16 2 t)
  | ['c'] => some (.text ['\\'] 1)
  | 'c' :: '\\' :: '\\' :: _ => some (.text [Char.ofNat 0x1C] 3)
  | 'c' :: '\\' :: _ => some .nested
  | 'c' :: c :: _ => some (.text [Char.ofNat (c.toUpper.toNat ^^^ 0x40)] 2)
  | _ => none

/-- Resolves the escapes of a text; so many characters belong to one that was resolved
before.  Nothing comes of an escape inside an escape. -/
def resolveFrom (kind : TextKind) : Nat → Text → Option Text
  | _, [] => some []
  | skipped + 1, _ :: t => resolveFrom kind skipped t
  | 0, c :: t =>
    if c = '\\' then
      match escape? kind t, t with
      | some (.text u length), _ => (resolveFrom kind length t).map (u ++ ·)
      | some .nested, _ => none
      | none, d :: _ => (resolveFrom kind 1 t).map ([c, d] ++ ·)
      | none, [] => some [c]
    else (resolveFrom kind 0 t).map (c :: ·)

/-- Resolves the escapes of a text. -/
def resolve (kind : TextKind) (t : Text) : Option Text := resolveFrom kind 0 t

/-- Drops the backslashes that are left in a text of literal characters. -/
def withoutBackslashes : Text → Text
  | [] => []
  | ['\\'] => []
  | '\\' :: c :: t => c :: withoutBackslashes t
  | c :: t => c :: withoutBackslashes t

/-! ## Replacements -/

/-- How far the reading of a replacement is. -/
structure Replacement where
  /-- the text read since the last piece, the last character first -/
  text : Text := []
  /-- the pieces, the last one first -/
  pieces : List Piece := []
  /-- the change in force, and the one that comes back behind the next piece -/
  change : CaseChange := {}
  kept : CaseChange := {}
  deriving DecidableEq, Repr, Inhabited

/-- Ends a piece with a group or with nothing. -/
def Replacement.cut (r : Replacement) (group : Option Nat) : Replacement :=
  { r with
    text := [], change := r.kept
    pieces := { text := r.text.reverse, group, change := r.change } :: r.pieces }

/-- Puts a text behind the last piece. -/
def Replacement.extend (r : Replacement) (t : Text) : Replacement :=
  match r.pieces with
  | [] => r
  | piece :: pieces => { r with pieces := { piece with text := piece.text ++ t } :: pieces }

/-- Reads what stands behind a backslash.  The case of letters changes unless the reading is
strict. -/
def Replacement.escaped (r : Replacement) (strict : Bool) (c : Char) : Replacement :=
  let all (others : Casing) : Replacement :=
    { r.cut none with change := { others }, kept := { others } }
  let one (first : Casing) : Replacement :=
    let r := r.cut none
    { r with change := { r.change with first }, kept := r.change }
  if Character.isDecimalDigit c then r.cut (some (c.toNat - 0x30))
  else if strict then (r.cut none).extend [c]
  else if c = 'U' then all .upper
  else if c = 'L' then all .lower
  else if c = 'E' then all .asIs
  else if c = 'u' then one .upper
  else if c = 'l' then one .lower
  else (r.cut none).extend [c]

/-- Reads a replacement whose escapes are resolved. -/
def Replacement.read (r : Replacement) (strict : Bool) : Text → List Piece
  | [] => (if r.text = [] then r else r.cut none).pieces.reverse
  | ['\\'] => ((r.cut none).extend ['\\']).pieces.reverse
  | '\\' :: c :: t => (r.escaped strict c).read strict t
  | c :: t =>
    if c = '&' then (r.cut (some 0)).read strict t
    else ({ r with text := c :: r.text } : Replacement).read strict t

/-- The pieces of a replacement; nothing comes of an escape inside an escape. -/
def pieces? (strict : Bool) (t : Text) : Option (List Piece) :=
  (resolve .replacement t).map fun t => Replacement.read {} strict t

/-! ## Lines -/

/-- Lines that are to be inserted. -/
structure Lines where
  text : Text
  /-- how many characters of the script they cover -/
  length : Nat
  /-- whether the script ended behind a backslash, so that they may go on -/
  isOpen : Bool
  deriving DecidableEq, Repr, Inhabited

/-- How many characters lines cover, up to an end of line without a backslash, and whether
the text ends behind a backslash. -/
def linesLength : Text → Nat × Bool
  | [] => (0, false)
  | ['\\'] => (1, true)
  | '\\' :: _ :: t => ((linesLength t).1 + 2, (linesLength t).2)
  | c :: t => if c = '\n' then (1, false) else ((linesLength t).1 + 1, (linesLength t).2)

/-- Reads lines.  The last one ends even where the script does not end it. -/
def lines? (t : Text) : Option Lines :=
  let (length, isOpen) := linesLength t
  let written := t.take length
  let body := if isOpen then written.dropLast else chomp '\n' written
  (resolve .literal body).map fun u => ⟨withoutBackslashes u ++ ['\n'], length, isOpen⟩

end TextIntake.Tool.StreamEdit
