import TextIntake.Tool.Shell.Basic

set_option autoImplicit false

/-!
# Tokens of the shell language

The tokens, what they are called in messages, and the state in which commands are
read.  What is read may stand in layers: the value of an alias stands in front of the
text in which the alias was found.
-/

namespace TextIntake.Tool.Shell

/-- The reserved words. -/
inductive Keyword where
  | bang | caseWord | doWord | done | elif | elseWord | esac | fi | forWord | ifWord | inWord
  | thenWord | untilWord | whileWord | openBrace | closeBrace
  deriving DecidableEq, Repr, Inhabited

namespace Keyword

/-- How the reserved words are written. -/
def spellings : List (Keyword × Text) := [
  (bang, ['!']), (caseWord, "case".toList), (doWord, "do".toList), (done, "done".toList),
  (elif, "elif".toList), (elseWord, "else".toList), (esac, "esac".toList), (fi, "fi".toList),
  (forWord, "for".toList), (ifWord, "if".toList), (inWord, "in".toList),
  (thenWord, "then".toList), (untilWord, "until".toList), (whileWord, "while".toList),
  (openBrace, ['\x7b']), (closeBrace, ['\x7d'])]

/-- How a reserved word is written. -/
def spelling (k : Keyword) : Text := ((spellings.find? fun (x, _) => x == k).map Prod.snd).getD []

/-- The reserved word that is written so. -/
def read? (t : Text) : Option Keyword := (spellings.find? fun (_, s) => s == t).map Prod.fst

end Keyword

/-- A token.  What a word or a redirection holds stands in the state. -/
inductive Token where
  | ending
  | newline
  | semicolon
  | ampersand
  | both
  | either
  | pipe
  | openParen
  | closeParen
  /-- `;;` -/
  | endOfCase
  | redirection
  | word
  | keyword (k : Keyword)
  deriving DecidableEq, Repr, Inhabited

namespace Token

/-- What a token is called. -/
def name : Token → Text
  | ending => "end of file".toList
  | newline => "newline".toList
  | semicolon => "\";\"".toList
  | ampersand => "\"&\"".toList
  | both => "\"&&\"".toList
  | either => "\"||\"".toList
  | pipe => "\"|\"".toList
  | openParen => "\"(\"".toList
  | closeParen => "\")\"".toList
  | endOfCase => "\";;\"".toList
  | redirection => "redirection".toList
  | word => "word".toList
  | keyword k => '"' :: (k.spelling ++ ['"'])

/-- Whether a list of commands ends in front of a token. -/
def endsList : Token → Bool
  | ending | closeParen | endOfCase => true
  | keyword k => [Keyword.doWord, .done, .elif, .elseWord, .esac, .fi, .thenWord,
      .closeBrace].contains k
  | _ => false

end Token

/-- What the next token is looked at for. -/
structure Checks where
  aliases : Bool := false
  keywords : Bool := false
  /-- whether ends of lines are skipped -/
  newlines : Bool := false
  /-- whether a word is to end a here-document, so that nothing in it is substituted -/
  mark : Bool := false
  deriving DecidableEq, Repr, Inhabited

namespace Checks

/-- Where a command may start. -/
def command : Checks := { aliases := true, keywords := true }

/-- Where a command must follow, perhaps on another line. -/
def continued : Checks := { command with newlines := true }

/-- All that one or the other looks for. -/
def union (a b : Checks) : Checks where
  aliases := a.aliases || b.aliases
  keywords := a.keywords || b.keywords
  newlines := a.newlines || b.newlines
  mark := a.mark || b.mark

end Checks

/-- A text that is being read. -/
structure Layer where
  text : Text
  /-- the alias whose value it is, and whether that ends in a blank -/
  alias? : Option (Text × Bool) := none
  deriving DecidableEq, Repr, Inhabited

/-- A here-document that is asked for and still to be read. -/
structure Awaited where
  number : Nat
  mark : Text
  expands : Bool
  /-- whether tabs at the starts of lines go -/
  stripsTabs : Bool
  deriving DecidableEq, Repr, Inhabited

/-- How far the reading of commands is. -/
structure Progress where
  /-- what is left, the innermost first -/
  layers : List Layer
  line : Nat := 1
  aliases : List (Text × Text) := []
  checks : Checks := {}
  /-- the last token, and whether it is to be read again -/
  token : Token := .ending
  isPushed : Bool := false
  /-- the last word, and whether anything in it was quoted -/
  word : Word := []
  isQuoted : Bool := false
  /-- the last redirection, without its word -/
  redirection : Redirection := default
  /-- the here-document that the last redirection asks for -/
  here : Option Awaited := none
  awaited : List Awaited := []
  documents : List (Nat × Document) := []
  nextDocument : Nat := 0
  deriving Inhabited

/-- Why commands cannot be read, and on which line. -/
structure SyntaxFault where
  message : Text
  line : Nat
  deriving DecidableEq, Repr, Inhabited

/-- A step of reading. -/
abbrev Read := StateT Progress (Except SyntaxFault)

namespace Read

/-- Refuses what is read. -/
def refuse {α : Type} (message : Text) : Read α := do
  throw { message := "Syntax error: ".toList ++ message, line := (← get).line }

/-- Refuses the last token, in favour of another one if that is known. -/
def unexpected {α : Type} (wanted : Option Token) : Read α := do
  let here := (← get).token.name ++ " unexpected".toList
  match wanted with
  | none => refuse here
  | some t => refuse (here ++ " (expecting ".toList ++ t.name ++ [')'])

/-! ## Characters -/

/-- Leaves a layer that is used up. -/
def leave (l : Layer) : Read Unit := do
  match l.alias? with
  | some (_, true) => modify fun p => { p with checks := { p.checks with aliases := true } }
  | _ => return

/-- The next character of layers. -/
def nextOf : List Layer → Read (Option Char)
  | [] => do
    modify fun p => { p with layers := [] }
    return none
  | l :: layers =>
    match l.text with
    | c :: text => do
      modify fun p => { p with layers := { l with text } :: layers }
      return some c
    | [] =>
      match layers with
      | [] => do
        modify fun p => { p with layers := [l] }
        return none
      | _ => do
        leave l
        nextOf layers

/-- The next character; none at the end. -/
def next : Read (Option Char) := do nextOf (← get).layers

/-- Puts text in front of what is left. -/
def insert (text : Text) : Read Unit :=
  modify fun p =>
    match p.layers with
    | [] => { p with layers := [{ text }] }
    | l :: layers => { p with layers := { l with text := text ++ l.text } :: layers }

/-- Puts a character back. -/
def back : Option Char → Read Unit
  | none => return
  | some c => insert [c]

/-- Goes to the next line. -/
def countLine : Read Unit := modify fun p => { p with line := p.line + 1 }

/-- How much there is left. -/
def remaining : Read Nat := do return ((← get).layers.map fun l => l.text.length).foldl (· + ·) 0

/-- The next character behind a backslash that may join two lines, with so many chances to
do so. -/
def joinedFrom : Nat → Read (Option Char)
  | 0 => return some '\\'
  | chances + 1 => do
    match ← next with
    | some '\n' =>
      countLine
      match ← next with
      | some '\\' => joinedFrom chances
      | c => return c
    | c =>
      back c
      return some '\\'

/-- The next character of lines that backslashes may join. -/
def nextJoined : Read (Option Char) := do
  match ← next with
  | some '\\' => joinedFrom ((← remaining) + 1)
  | c => return c

end Read

end TextIntake.Tool.Shell
