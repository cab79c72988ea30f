import TextIntake.Tool.Arguments
import TextIntake.Tool.Quoting

set_option autoImplicit false

/-!
# Mapping characters

`tr` maps the characters of one set to those of another, place by place, deletes
the characters of a set, or squeezes runs of them.  Sets are written with ranges,
escapes and named classes.
-/

namespace TextIntake.Tool.CharMap

/-- A character of a written set.  Behind a backslash it means nothing but itself. -/
structure Letter where
  char : Char
  isEscaped : Bool := false
  deriving DecidableEq, Repr, Inhabited

/-- Whether a letter is the given character and not escaped. -/
def Letter.is (l : Letter) (c : Char) : Bool := l.char == c && !l.isEscaped

/-- The octet given by the first octal digits of a text, and how many they are: three,
or two where three are too large. -/
def octalEscape (t : Text) : Char × Nat :=
  let digits := (t.take 3).takeWhile isOctal
  let digits := if 255 < octal digits then digits.take 2 else digits
  (octalByte digits, digits.length)

/-- Resolves escapes; so many letters belong to an escape that was resolved before. -/
def lettersFrom : Nat → Text → List Letter
  | _, [] => []
  | skipped + 1, _ :: t => lettersFrom skipped t
  | 0, '\\' :: c :: t =>
    if isOctal c then
      let (d, length) := octalEscape (c :: t)
      ⟨d, true⟩ :: lettersFrom length (c :: t)
    else ⟨(control? c).getD c, true⟩ :: lettersFrom 1 (c :: t)
  | 0, c :: t => ⟨c, false⟩ :: lettersFrom 0 t

/-- Resolves escapes. -/
def letters (t : Text) : List Letter := lettersFrom 0 t

/-- A part of a set. -/
inductive Item where
  | chars (cs : Text)
  | named (name : String) (cs : Text)
  | same (c : Char)
  /-- a character over and over, as often as it takes when no count is given -/
  | filler (c : Char) (count : Option Nat)
  deriving DecidableEq, Repr, Inhabited

/-- Cuts before the first occurrence of two letters. -/
def cutBefore (a b : Char) : List Letter → Option (List Letter × List Letter)
  | [] => none
  | x :: t =>
    match t with
    | y :: rest =>
      if x.is a ∧ y.is b then some ([], rest)
      else (cutBefore a b t).map fun (inside, rest) => (x :: inside, rest)
    | [] => none

/-- Why sets cannot be used. -/
inductive Fault where
  | backwards (first last : Char)
  | noClass (name : Text)
  | severalEquivalent (chars : Text)
  | nameless
  | noEquivalent
  | badCount (digits : Text)
  | fillerInSource
  | severalFillers
  | equivalenceInTarget
  | classInTarget
  | misaligned
  | emptyTarget
  | endsInClass
  | severalImages
  | fillerWithoutMap
  deriving DecidableEq, Repr, Inhabited

/-- A character in a message. -/
def shown (c : Char) : Text :=
  if isPrintable c then (if c = '\\' then ['\\', '\\'] else [c])
  else '\\' :: padLeft 3 '0' (Nat.toDigits 8 c.toNat)

/-- The wording of a fault. -/
def Fault.message : Fault → Text
  | backwards first last =>
    "range-endpoints of '".toList ++ shown first ++ ['-'] ++ shown last ++
      "' are in reverse collating sequence order".toList
  | noClass name => "invalid character class '".toList ++ name.flatMap shown ++ ['\'']
  | severalEquivalent chars =>
    chars.flatMap shown ++ ": equivalence class operand must be a single character".toList
  | nameless => "missing character class name '[::]'".toList
  | noEquivalent => "missing equivalence class character '[==]'".toList
  | badCount digits =>
    "invalid repeat count '".toList ++ digits.flatMap shown ++ "' in [c*n] construct".toList
  | fillerInSource => "the [c*] repeat construct may not appear in string1".toList
  | severalFillers => "only one [c*] repeat construct may appear in string2".toList
  | equivalenceInTarget =>
    "[=c=] expressions may not appear in string2 when translating".toList
  | classInTarget =>
    ("when translating, the only character classes that may appear in\n" ++
      "string2 are 'upper' and 'lower'").toList
  | misaligned => "misaligned [:upper:] and/or [:lower:] construct".toList
  | emptyTarget => "when not truncating set1, string2 must be non-empty".toList
  | endsInClass =>
    ("when translating with string1 longer than string2,\n" ++
      "the latter string must not end with a character class").toList
  | severalImages =>
    ("when translating with complemented character classes,\n" ++
      "string2 must map all characters in the domain to one").toList
  | fillerWithoutMap =>
    "the [c*] construct may appear in string2 only when translating".toList

/-- Reads the count of a filler: digits up to a bracket, octal behind a zero. -/
def fillerCount? (t : List Letter) : Except Fault (Option (Option Nat × List Letter)) :=
  match (t.takeWhile fun l => !l.isEscaped).findIdx? (·.is ']') with
  | none => .ok none
  | some n =>
    let digits := (t.take n).map Letter.char
    let base := if digits.head? = some '0' then 8 else 10
    let isDigit (c : Char) : Bool := Character.isDecimalDigit c && c.toNat < 0x30 + base
    let count := digits.foldl (fun n c => n * base + (c.toNat - 0x30)) 0
    if digits.all isDigit then .ok (some (if count = 0 then none else some count, t.drop (n + 1)))
    else .error (.badCount digits)

/-- Reads a filler behind its bracket. -/
def filler? (t : List Letter) : Except Fault (Option (Item × List Letter)) :=
  match t with
  | x :: y :: rest =>
    if y.is '*' then
      (fillerCount? rest).map fun r => r.map fun (count, rest) => (.filler x.char count, rest)
    else .ok none
  | _ => .ok none

/-- Reads what starts with a bracket: the item and the rest, or `none` when the
bracket means itself. -/
def bracketed? (t : List Letter) : Except Fault (Option (Item × List Letter)) :=
  match t with
  | x :: rest =>
    match if x.is ':' then cutBefore ':' ']' rest else none,
      if x.is '=' then cutBefore '=' ']' rest else none with
    | some (inside, rest), _ =>
      let name := inside.map Letter.char
      match name, class? name with
      | [], _ => .error .nameless
      | _, some cs => .ok (some (.named (String.ofList name) cs, rest))
      | _, none => if counts t then filler? t else .error (.noClass name)
    | none, some (inside, rest) =>
      match inside with
      | [] => .error .noEquivalent
      | [c] => .ok (some (.same c.char, rest))
      | _ =>
        if counts t then filler? t else .error (.severalEquivalent (inside.map Letter.char))
    | none, none => filler? t
  | [] => .ok none
where
  /-- Whether a text goes on as the count of a filler does. -/
  counts (t : List Letter) : Bool :=
    match t with
    | _ :: star :: rest =>
      let behind := rest.dropWhile fun l => Character.isDecimalDigit l.char
      star.is '*' && ((behind.head?).map (·.is ']')).getD false
    | _ => false

/-- Reads the items of a set. -/
def items : Nat → List Letter → Except Fault (List Item)
  | 0, _ => .ok []
  | _, [] => .ok []
  | fuel + 1, x :: t => do
    match ← if x.is '[' then bracketed? t else .ok none with
    | some (item, rest) => return item :: (← items fuel rest)
    | none =>
      match t with
      | hyphen :: last :: rest =>
        if hyphen.is '-' then
          if last.char < x.char then throw (.backwards x.char last.char)
          return .chars (range x.char last.char) :: (← items fuel rest)
        else return .chars [x.char] :: (← items fuel t)
      | _ => return .chars [x.char] :: (← items fuel t)

/-- Reads a set. -/
def read (t : Text) : Except Fault (List Item) :=
  let ls := letters t
  items (ls.length + 1) ls

namespace Item

/-- The characters of an item; a filler without a count stands `room` times. -/
def expand (room : Nat) : Item → Text
  | chars cs | named _ cs => cs
  | same c => [c]
  | filler c count => List.replicate (count.getD room) c

/-- Whether an item repeats a character as often as it takes. -/
def isOpenFiller : Item → Bool
  | filler _ none => true
  | _ => false

/-- Whether an item is a named class. -/
def isNamed : Item → Bool
  | named _ _ => true
  | _ => false

/-- Whether an item is the class of the upper or of the lower letters. -/
def isCase : Item → Bool
  | named name _ => name == "upper" || name == "lower"
  | _ => false

/-- Whether an item stands for all that is equivalent to a character. -/
def isSame : Item → Bool
  | same _ => true
  | _ => false

end Item

/-- The characters of items. -/
def expand (room : Nat) (is : List Item) : Text := is.flatMap (Item.expand room)

/-- Where the case classes of a set start. -/
def caseStarts (room : Nat) : Nat → List Item → List Nat
  | _, [] => []
  | n, i :: is =>
    let starts := caseStarts room (n + (i.expand room).length) is
    if i.isCase then n :: starts else starts

/-- Every byte that is not in a set. -/
def allBut (set : Text) : Text :=
  ((List.range 256).map Char.ofNat).filter fun c => !set.contains c

/-- What a character becomes.  The last character of the target stands for all that
is missing; of a character written twice the last place counts. -/
def image (source target : Text) (c : Char) : Char :=
  match source.reverse.idxOf? c with
  | none => c
  | some i =>
    let place := source.length - 1 - i
    ((target[place]?).or target.getLast?).getD c

/-- Keeps one of every run of a character of the set. -/
def squeeze (set : Text) : Text → Text
  | [] => []
  | c :: t =>
    match squeeze set t with
    | [] => [c]
    | d :: more => if c = d ∧ set.contains c then d :: more else c :: d :: more

/-- What `tr` is asked to do. -/
structure Switches where
  delete : Bool := false
  squeeze : Bool := false
  complement : Bool := false
  /-- leave out what has no counterpart in the target -/
  truncate : Bool := false
  deriving DecidableEq, Repr, Inhabited

/-- The options. -/
def forms : List (OptionForm (Switches → Switches)) := [
  { key := id, letters := ['A'] },
  { key := fun s => { s with complement := true }
    letters := ['c', 'C'], words := ["complement"] },
  { key := fun s => { s with delete := true }, letters := ['d'], words := ["delete"] },
  { key := fun s => { s with squeeze := true }
    letters := ['s'], words := ["squeeze-repeats"] },
  { key := fun s => { s with truncate := true }
    letters := ['t'], words := ["truncate-set1"] }]

/-- All characters of a set, or all others. -/
def Switches.whole (s : Switches) (set : List Item) : Text :=
  if s.complement then allBut (expand 0 set) else expand 0 set

/-- The source and the target of a map, character by character.  The target
must not be ambiguous: its classes are those of the letters by case, each opposite
to such a class. -/
def mapping (s : Switches) (source target : List Item) : Except Fault (Text × Text) :=
  let origin := s.whole source
  let room := origin.length - (expand 0 target).length
  let into := expand room target
  let opposite := caseStarts 0 0 source
  let aligned := (caseStarts room 0 target).all fun n =>
    origin.length < n || opposite.contains n
  let uniform := into.all fun c => some c == into.head?
  let tooShort := into.length < origin.length && !s.truncate
  let extended := if tooShort then origin.length else into.length
  if 1 < target.countP Item.isOpenFiller then .error .severalFillers
  else if target.any Item.isSame then .error .equivalenceInTarget
  else if target.any (fun i => i.isNamed && !i.isCase) then .error .classInTarget
  else if !s.complement && !aligned then .error .misaligned
  else if tooShort && into = [] then .error .emptyTarget
  else if tooShort && (target.getLast?.map Item.isNamed).getD false then .error .endsInClass
  else if s.complement && source.any Item.isNamed &&
      !(uniform && extended == origin.length) then .error .severalImages
  else .ok (if s.truncate then origin.take into.length else origin, into)

/-- The map that sets ask for. -/
def mapOf (s : Switches) (source : List Item) (target : Option (List Item)) :
    Except Fault (Text → Text) := do
  if source.any Item.isOpenFiller then throw .fillerInSource
  match s.delete, s.squeeze, target with
  | true, _, none => return fun t => t.filter fun c => !(s.whole source).contains c
  | true, _, some kept =>
    if 1 < kept.countP Item.isOpenFiller then throw .severalFillers
    if kept.any Item.isOpenFiller then throw .fillerWithoutMap
    return fun t => squeeze (expand 0 kept) (t.filter fun c => !(s.whole source).contains c)
  | false, _, none => return squeeze (s.whole source)
  | false, squeezed, some target =>
    let (source, target) ← mapping s source target
    return fun t =>
      let mapped := t.map (image source target)
      if squeezed then squeeze target mapped else mapped

/-- What is wrong with the number of sets, if anything. -/
def countFault? (s : Switches) (sets : List Text) : Option Text :=
  let least := if s.delete == s.squeeze then 2 else 1
  let most := if !s.delete || s.squeeze then 2 else 1
  let named (t : Text) : Text := Quoting.always t
  match sets with
  | [] => some "missing operand".toList
  | first :: _ =>
    if sets.length < least then
      let why :=
        if s.squeeze then "both deleting and squeezing repeats." else "translating."
      some ("missing operand after ".toList ++ named first ++
        "\nTwo strings must be given when ".toList ++ why.toList)
    else if most < sets.length then
      let why := "\nOnly one string may be given when deleting without squeezing repeats."
      some ("extra operand ".toList ++ named ((sets[most]?).getD []) ++
        (if sets.length = 2 then why.toList else []))
    else none

end TextIntake.Tool.CharMap

namespace TextIntake.Tool

/-- Maps, deletes or squeezes characters. -/
def tr : Tool := checked 1 <| withArguments 1 true CharMap.forms fun name a => do
  let s := a.options.foldl (fun s (change, _) => change s) ({} : CharMap.Switches)
  match CharMap.countFault? s a.operands with
  | some message =>
    complain name message
    pointToHelp name
    return .exited 1
  | none =>
    match a.operands.mapM CharMap.read with
    | .error fault =>
      complain name fault.message
      return .exited 1
    | .ok sets =>
      match CharMap.mapOf s (sets.headD []) (sets[1]?) with
      | .error fault =>
        complain name fault.message
        return .exited 1
      | .ok f =>
        match ← Machine.readAll 0 with
        | .error cause =>
          complainAbout name "read error".toList cause
          return .exited 1
        | .ok t =>
          say (f t)
          return .exited 0

end TextIntake.Tool
