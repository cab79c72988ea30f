import TextIntake.Text.Basic

set_option autoImplicit false

/-!
# Words of a command line

A command line is split into words as a shell would do it, without expanding
anything.  Words stand between spaces, tabs and line feeds.  Single quotes keep
everything; double quotes keep everything but a backslash in front of `$`, a
backquote, `"` or another backslash; elsewhere a backslash keeps the character behind
it.  A backslash in front of a line feed disappears together with it.  A `#`
where a word could start opens a comment that runs to the end of its line.
-/

namespace TextIntake.Words

/-- Where the reader of a command line stands. -/
inductive Mode where
  | gap
  | comment
  | word
  | single
  | double
  deriving DecidableEq, Repr, Inhabited

/-- A space, a tab or a line feed. -/
def isSeparator (c : Char) : Bool := c == ' ' || c == '\t' || c == '\n'

/-- The characters that a backslash inside double quotes keeps. -/
def isKeptInDouble (c : Char) : Bool :=
  c == '$' || c == Char.ofNat 0x60 || c == '"' || c == '\\'

/-- One more character at the start of the first word. -/
def prepend (c : Char) : List Text → List Text
  | [] => [[c]]
  | w :: ws => (c :: w) :: ws

/-- Reads the rest of a command line.  Inside a word the first word of the result
is the rest of that word.  A quote that is not closed, and a backslash at the
end, make the command line malformed. -/
def readFrom : Mode → Text → Option (List Text)
  | .gap, [] | .comment, [] => some []
  | .word, [] => some [[]]
  | .single, [] | .double, [] => none
  | .comment, c :: t => if c = '\n' then readFrom .gap t else readFrom .comment t
  | .single, c :: t => if c = '\'' then readFrom .word t else (readFrom .single t).map (prepend c)
  | .double, ['\\'] => none
  | .double, '\\' :: c :: t =>
    if c = '\n' then readFrom .double t
    else if isKeptInDouble c then (readFrom .double t).map (prepend c)
    else (readFrom .double t).map fun ws => prepend '\\' (prepend c ws)
  | .double, c :: t => if c = '"' then readFrom .word t else (readFrom .double t).map (prepend c)
  | .gap, ['\\'] | .word, ['\\'] => none
  | .gap, '\\' :: c :: t | .word, '\\' :: c :: t =>
    if c = '\n' then readFrom .word t else (readFrom .word t).map (prepend c)
  | .gap, c :: t =>
    if isSeparator c then readFrom .gap t
    else if c = '#' then readFrom .comment t
    else if c = '\'' then readFrom .single t
    else if c = '"' then readFrom .double t
    else (readFrom .word t).map (prepend c)
  | .word, c :: t =>
    if isSeparator c then (readFrom .gap t).map ([] :: ·)
    else if c = '\'' then readFrom .single t
    else if c = '"' then readFrom .double t
    else (readFrom .word t).map (prepend c)

/-- The words of a command line; `none` when it is malformed. -/
def read (t : Text) : Option (List Text) := readFrom .gap t

end TextIntake.Words
