import TextIntake.Text.Basic

set_option autoImplicit false

/-!
# Cutting a text into lines

A line ends at a line feed, at a carriage return with a line feed behind it, or
at a carriage return alone.  Between the two characters of the second form up to
four NULs are tolerated, which is what a careless widening of the text leaves
there.  Any other NUL, and any Unicode noncharacter, shows that the content is
not text.
-/

namespace TextIntake

/-- The way in which a text ends its lines, by its first line. -/
inductive LineStyle where
  | unix
  | dos
  /-- no line is ended, or the first one by a carriage return alone -/
  | undefined
  deriving DecidableEq, Repr, Inhabited

namespace LineStyle

/-- The word for a style. -/
def word : LineStyle → String
  | unix => "Unix"
  | dos => "Dos"
  | undefined => "Undefined"

/-- The style that a word names. -/
def ofWord? (word : String) : Option LineStyle :=
  [unix, dos, undefined].find? (·.word == word)

end LineStyle

/-- What ends a line. -/
inductive Terminator where
  | lineFeed
  /-- a carriage return and a line feed, with `padding` NULs between them -/
  | carriageLineFeed (padding : Nat)
  | carriageReturn
  | endOfText
  deriving DecidableEq, Repr, Inhabited

namespace Terminator

/-- The most NULs between a carriage return and its line feed. -/
def maxPadding : Nat := 4

/-- The characters of a terminator. -/
def chars : Terminator → Text
  | lineFeed => ['\n']
  | carriageLineFeed padding => '\r' :: (List.replicate padding '\x00' ++ ['\n'])
  | carriageReturn => ['\r']
  | endOfText => []

/-- The style a terminator stands for. -/
def style : Terminator → LineStyle
  | lineFeed => .unix
  | carriageLineFeed _ => .dos
  | carriageReturn | endOfText => .undefined

end Terminator

/-- A line as it stands in a text, with what ends it. -/
structure RawLine where
  content : Text
  terminator : Terminator
  deriving DecidableEq, Repr, Inhabited

/-- Why a text was not cut into lines. -/
inductive Refusal where
  | tooLarge
  | binary
  deriving DecidableEq, Repr, Inhabited

namespace Refusal

/-- The wording of a refusal on account of size. -/
def tooLargeMessage : String := "input exceeds the line or byte ceiling"

end Refusal

namespace RawLine

/-- A character that no text holds. -/
def isBinary (c : Char) : Bool := c == '\x00' || Character.isNoncharacter c

/-- Reads up to `budget` NULs and a line feed: how many NULs there were, and the rest. -/
def lineFeedAfterPadding? : Nat → Text → Option (Nat × Text)
  | _, '\n' :: t => some (0, t)
  | budget + 1, '\x00' :: t =>
    (lineFeedAfterPadding? budget t).map fun (padding, rest) => (padding + 1, rest)
  | _, _ => none

/-- Cuts off the first line; `none` when a binary character stands in it. -/
def next? : Text → Option (RawLine × Text)
  | [] => some (⟨[], .endOfText⟩, [])
  | c :: t =>
    if c = '\n' then some (⟨[], .lineFeed⟩, t)
    else if c = '\r' then
      match lineFeedAfterPadding? Terminator.maxPadding t with
      | some (padding, rest) => some (⟨[], .carriageLineFeed padding⟩, rest)
      | none => some (⟨[], .carriageReturn⟩, t)
    else if isBinary c then none
    else (next? t).map fun (line, rest) => (⟨c :: line.content, line.terminator⟩, rest)

/-- Cuts a text into at most `limit` lines.  A binary character matters only when
the line it stands in is reached. -/
def cut : Nat → Text → Except Refusal (List RawLine)
  | _, [] => .ok []
  | 0, _ :: _ => .error .tooLarge
  | limit + 1, t@(_ :: _) =>
    match next? t with
    | none => .error .binary
    | some (line, rest) =>
      match cut limit rest with
      | .ok lines => .ok (line :: lines)
      | .error refusal => .error refusal

/-- The style of a text cut into the given lines. -/
def style : List RawLine → LineStyle
  | [] => .undefined
  | line :: _ => line.terminator.style

/-- Whether a line shows that something could not be decoded. -/
def hasReplacement (line : RawLine) : Bool := line.content.contains Character.replacement

end RawLine

end TextIntake
