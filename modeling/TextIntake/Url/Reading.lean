import TextIntake.Url.Basic

set_option autoImplicit false

/-!
# Reading URLs

Reads a URL from a text, part by part from the left.  Control characters and
spaces around the text do not count, nor do tabs and line ends inside it.  A
special scheme takes backslashes for slashes.
-/

namespace TextIntake.Url

/-- The kinds of schemes. -/
inductive SchemeKind where
  | file
  | special (impliedPort : Nat)
  | other
  deriving DecidableEq, Repr, Inhabited

namespace SchemeKind

/-- The kind of a scheme. -/
def of (scheme : Text) : SchemeKind :=
  if scheme = fileScheme then file
  else
    match specialPorts.find? fun (s, _) => s == scheme with
    | some (_, port) => special port
    | none => other

/-- Whether backslashes are slashes. -/
def isSpecial (k : SchemeKind) : Bool := k != other

/-- Whether a character separates the names of a path. -/
def isSlash (k : SchemeKind) (c : Char) : Bool := c == '/' || (k.isSpecial && c == '\\')

end SchemeKind

/-- A tab or a line end, which does not count wherever it stands. -/
def isGap (c : Char) : Bool := c == '\t' || c == '\n' || c == '\r'

/-- A text without its gaps. -/
def dense (t : Text) : Text := t.filter (!isGap ·)

/-- A text without the control characters and spaces around it. -/
def trimmed (t : Text) : Text :=
  let isOuter (c : Char) : Bool := c ≤ ' '
  ((t.dropWhile isOuter).reverse.dropWhile isOuter).reverse

/-- Reads a scheme and its colon; gaps are left in the rest. -/
def scheme? (t : Text) : Option (Text × Text) := do
  let scheme := dense (t.takeWhile (· != ':'))
  let first ← scheme.head?
  let isSchemeChar (c : Char) : Bool := c.isAlphanum || c == '+' || c == '-' || c == '.'
  match t.dropWhile (· != ':') with
  | _ :: rest =>
    if isLetter first ∧ scheme.all isSchemeChar then some (Text.lowerAscii scheme, rest) else none
  | [] => none

/-! ## Paths -/

/-- A name that stands for its directory. -/
def isSingleDot (t : Text) : Bool :=
  let t := Text.lowerAscii t
  t == ['.'] || t == ['%', '2', 'e']

/-- A name that stands for the directory above. -/
def isDoubleDot (t : Text) : Bool :=
  let t := Text.lowerAscii t
  ["..", "%2e%2e", "%2e.", ".%2e"].any (·.toList == t)

/-- The names left when the last is taken back; a drive stays. -/
def shorten (names : List Text) : List Text :=
  match names.getLast? with
  | some last => if isDriveLetter last then names else names.dropLast
  | none => names

/-- A path while it is read. -/
structure Course where
  /-- the names that have a slash behind them -/
  names : List Text := []
  /-- the name at the end; empty when the path ends in a slash -/
  last : Text := []
  /-- a drive was the first name of a file URL -/
  hasDrive : Bool := false
  deriving DecidableEq, Repr, Inhabited

namespace Course

/-- The written form. -/
def text (c : Course) : Text := '/' :: (c.names.flatMap fun n => n ++ ['/']) ++ c.last

end Course

/-- A drive with a gap behind it and more of the name behind the gap: the drive, and
the rest of the name. -/
def driveBeforeGap? (name : Text) : Option (Text × Text) :=
  let letters := name.takeWhile (· != ':')
  match name.dropWhile (· != ':') with
  | colon :: gap :: rest =>
    let drive := dense letters ++ [colon]
    if isDriveLetter drive ∧ isGap gap ∧ dense rest ≠ [] then some (drive, dense rest) else none
  | _ => none

/-- Goes through the names between slashes.  A name of one dot is dropped, a name
of two dots takes back the name in front of it.  A gap behind the drive at the
start of a file URL separates like a slash, and what follows it is a name in any
case. -/
def course (k : SchemeKind) : List Text → List Text → Course
  | names, [] => { names }
  | names, n :: ns =>
    let name := Percent.encode Percent.path (dense n)
    let atDrive := k = .file ∧ names = []
    match if atDrive then driveBeforeGap? n else none with
    | some (drive, rest) =>
      let rest := Percent.encode Percent.path rest
      if ns = [] then { names := [drive], last := rest } else course k [drive, rest] ns
    | none =>
      if isDoubleDot name then course k (shorten names) ns
      else if isSingleDot name then course k names ns
      else if atDrive ∧ isDriveLetter name then
        let drive := name.take 1 ++ [':']
        if ns = [] then { names, last := drive, hasDrive := true }
        else { course k [drive] ns with hasDrive := true }
      else if ns = [] then { names, last := name }
      else course k (names ++ [name]) ns

/-- A path that starts behind its first slash. -/
def pathBehindSlash (k : SchemeKind) (t : Text) : Course :=
  course k [] (Path.splitOn '/' (t.map fun c => if k.isSlash c then '/' else c))

/-- The path of a file URL: slashes at its start count once. -/
def filePathText (c : Course) : Text := '/' :: c.text.dropWhile (· == '/')

/-! ## Authorities -/

/-- Cuts at the last `@` in front of the host. -/
def atLast? (c : Char) (t : Text) : Option (Text × Text) :=
  match (t.reverse.dropWhile (· != c)) with
  | _ :: before => some (before.reverse, t.drop (before.length + 1))
  | [] => none

/-- User name and password as they are written in front of the host. -/
def credentials (t : Text) : Text :=
  let user := t.takeWhile (· != ':')
  let password := (t.dropWhile (· != ':')).drop 1
  let user := Percent.encode Percent.userInfo user
  let password := Percent.encode Percent.userInfo password
  if user = [] ∧ password = [] then []
  else user ++ (if password = [] then [] else ':' :: password) ++ ['@']

/-- Cuts behind the host: at a slash, or at a colon outside square brackets. -/
def cutHost (k : SchemeKind) : Bool → Text → Text × Text
  | _, [] => ([], [])
  | inBrackets, c :: t =>
    if (c = ':' ∧ !inBrackets) ∨ k.isSlash c then ([], c :: t)
    else
      let (host, rest) :=
        cutHost k (if c = '[' then true else if c = ']' then false else inBrackets) t
      (c :: host, rest)

/-- Reads a port and what is behind it: nothing, or a slash of either kind.  No digits,
or those of the port that is implied, are as good as no port. -/
def port? (implied : Option Nat) (t : Text) : Option (Option Nat × Text) := do
  let digits := t.takeWhile Character.isDecimalDigit
  let rest := t.dropWhile Character.isDecimalDigit
  let n ← Host.digits? 10 digits
  let ends := match rest with
    | [] => true
    | c :: _ => c == '/' || c == '\\'
  if !ends ∨ 65535 < n then none
  else some (if digits = [] ∨ some n = implied then none else some n, rest)

/-- Reads what stands between `//` and the path: the authority, and what is behind
it.  An `@` with nothing around it may end a URL, but neither a path nor, when there
is `more`, a query or a fragment may follow it. -/
def authority? (k : SchemeKind) (more : Bool) (t : Text) : Option (Authority × Text) := do
  let inside := t.takeWhile (!k.isSlash ·)
  let behind := t.dropWhile (!k.isSlash ·)
  let (user, rest) := (atLast? '@' inside).getD ([], inside)
  if inside.contains '@' ∧ user = [] ∧ rest = [] ∧ (more ∨ behind ≠ []) then none
  let written := credentials user
  let (hostText, rest) := cutHost k false (rest ++ behind)
  let host ← if k.isSpecial then Host.special? hostText else Host.generic? hostText
  if hostText = [] ∧ (written ≠ [] ∨ rest.head? = some ':') then none
  let implied := match k with
    | .special port => some port
    | _ => none
  match rest with
  | ':' :: rest =>
    let (port, rest) ← port? implied rest
    return ({ credentials := written, host := some host, port }, rest)
  | _ => return ({ credentials := written, host := some host }, rest)

/-! ## Whole URLs -/

/-- Cuts off query and fragment: what stands before them, and both encoded. -/
def queryAndFragment (k : SchemeKind) (t : Text) : Text × Option Text × Option Text :=
  let beforeHash := t.takeWhile (· != '#')
  let fragment := (t.dropWhile (· != '#')).tail?.map fun f =>
    Percent.encode Percent.fragment (dense f)
  let before := beforeHash.takeWhile (· != '?')
  let reserved := if k.isSpecial then Percent.specialQuery else Percent.query
  let query := (beforeHash.dropWhile (· != '?')).tail?.map fun q =>
    Percent.encode reserved (dense q)
  (before, query, fragment)

/-- What is behind a slash at the start of a text, gaps aside. -/
def behindSlash? (k : SchemeKind) (t : Text) : Option Text :=
  match t.dropWhile isGap with
  | c :: rest => if k.isSlash c then some rest else none
  | [] => none

/-- Reads a file URL behind its colon: the authority and the path.  Gaps count here,
since one may separate a drive from what follows. -/
def file? (t : Text) : Option (Authority × Text) :=
  let k := SchemeKind.file
  match behindSlash? k t with
  | none => some ({}, filePathText (pathBehindSlash k t))
  | some rest =>
    match behindSlash? k rest with
    | none => some ({}, filePathText (pathBehindSlash k rest))
    | some rest =>
      let isHost (c : Char) : Bool := !k.isSlash c
      let hostText := dense (rest.takeWhile isHost)
      let afterHost := rest.dropWhile isHost
      if isDriveLetter hostText then some ({}, filePathText (pathBehindSlash k rest))
      else if hostText = [] then some ({}, filePathText (pathBehindSlash k afterHost))
      else do
        let host ← Host.special? hostText
        if host = .name "localhost".toList then
          return ({}, filePathText (pathBehindSlash k afterHost))
        let path := pathBehindSlash k (afterHost.drop 1)
        return ({ host := if path.hasDrive then none else some host }, filePathText path)

/-- The authority of a scheme other than `file`, and the path. -/
def hierarchical? (k : SchemeKind) (more : Bool) (t : Text) : Option (Authority × Text) := do
  let (authority, rest) ← authority? k more t
  match rest with
  | [] => return (authority, if k.isSpecial then ['/'] else [])
  | c :: behind =>
    return (authority, (pathBehindSlash k (if k.isSlash c then behind else rest)).text)

/-- Reads a URL. -/
def read? (t : Text) : Option Url := do
  let (scheme, rest) ← scheme? (trimmed t)
  let k := SchemeKind.of scheme
  let (rest, query, fragment) := queryAndFragment k rest
  let more := query.isSome || fragment.isSome
  match k with
  | .file =>
    let (authority, path) ← file? rest
    return { scheme, authority := some authority, path, query, fragment }
  | .special _ =>
    let (authority, path) ← hierarchical? k more ((dense rest).dropWhile k.isSlash)
    return { scheme, authority := some authority, path, query, fragment }
  | .other =>
    match dense rest with
    | '/' :: '/' :: rest =>
      let (authority, path) ← hierarchical? k more rest
      return { scheme, authority := some authority, path, query, fragment }
    | '/' :: rest =>
      return { scheme, authority := none, path := (pathBehindSlash k rest).text, query, fragment }
    | rest =>
      return { scheme, authority := none, path := Percent.encode Percent.controls rest, query,
               fragment }

end TextIntake.Url
