import TextIntake.Comment.Span

set_option autoImplicit false

/-!
# Comments of the C family

`//` opens a comment that runs to the end of its line; `/*` opens one that runs
to the next `*/`, over any number of lines.  Inside a quoted literal neither
counts.  A literal ends at its closing quote, unless a backslash stands in front
of that, and at the latest at the end of its line.
-/

namespace TextIntake.CStyle

/-- Where in a line the scan stands. -/
inductive Mode where
  | code
  /-- inside a block comment whose part on this line began at byte `start` -/
  | block (start : Nat)
  /-- inside a literal; `escaped` when a backslash stands in front -/
  | quoted (quote : Char) (escaped : Bool)
  deriving DecidableEq, Repr, Inhabited

/-- What a scan found in a line. -/
structure Found where
  spans : List Span := []
  /-- A character that is neither blank nor comment. -/
  hasCode : Bool := false
  /-- The start of a comment. -/
  hasComment : Bool := false
  /-- A block comment is open at the end. -/
  inBlock : Bool := false
  deriving DecidableEq, Repr, Inhabited

namespace Found

/-- With one more span in front. -/
def withSpan (f : Found) (s : Span) : Found := { f with spans := s :: f.spans }

/-- With code in front. -/
def withCode (f : Found) : Found := { f with hasCode := true }

/-- With the start of a comment in front. -/
def withComment (f : Found) : Found := { f with hasComment := true }

end Found

/-- A single or a double quote. -/
def isQuote (c : Char) : Bool := c == '"' || c == '\''

/-- Scans the rest of a line, of which `pos` bytes have gone before. -/
def scan : Mode → Nat → Text → Found
  | .block start, pos, [] => { spans := [⟨start, pos⟩], inBlock := true }
  | _, _, [] => {}
  | .block start, pos, '*' :: '/' :: t => (scan .code (pos + 2) t).withSpan ⟨start, pos + 2⟩
  | .block start, pos, c :: t => scan (.block start) (pos + c.utf8Size) t
  | .quoted quote true, pos, c :: t => scan (.quoted quote false) (pos + c.utf8Size) t
  | .quoted quote false, pos, c :: t =>
    if c = '\\' then scan (.quoted quote true) (pos + c.utf8Size) t
    else if c = quote then scan .code (pos + c.utf8Size) t
    else scan (.quoted quote false) (pos + c.utf8Size) t
  | .code, pos, '/' :: '/' :: t =>
    { spans := [⟨pos, pos + 2 + Text.byteLength t⟩], hasComment := true }
  | .code, pos, '/' :: '*' :: t => (scan (.block pos) (pos + 2) t).withComment
  | .code, pos, c :: t =>
    if isQuote c then (scan (.quoted c false) (pos + c.utf8Size) t).withCode
    else if Character.isBlank c then scan .code (pos + c.utf8Size) t
    else (scan .code (pos + c.utf8Size) t).withCode

/-- Scans a whole line that begins inside a block comment or not. -/
def scanLine (inBlock : Bool) (line : Text) : Found :=
  if inBlock then (scan (.block 0) 0 line).withComment else scan .code 0 line

end TextIntake.CStyle
