import TextIntake.Url.Host

set_option autoImplicit false

/-!
# URLs

A URL in its parts, as the URL Standard has them, and its written form.
-/

namespace TextIntake

/-- What stands between `//` and the path. -/
structure Authority where
  /-- user name and password with the `@` behind them, or nothing -/
  credentials : Text := []
  /-- `none` for a file URL without a host -/
  host : Option Url.Host := none
  /-- the port, unless it is the one the scheme implies -/
  port : Option Nat := none
  deriving DecidableEq, Repr, Inhabited

namespace Authority

/-- The written form. -/
def text (a : Authority) : Text :=
  a.credentials ++ (a.host.map Url.Host.text).getD [] ++
    (match a.port with
      | some n => ':' :: (toString n).toList
      | none => [])

end Authority

/-- A URL. -/
structure Url where
  scheme : Text
  authority : Option Authority
  path : Text
  query : Option Text := none
  fragment : Option Text := none
  deriving DecidableEq, Repr, Inhabited

namespace Url

/-- The written form.  Without an authority, a path that starts with two slashes
is kept apart from the scheme by `/.`. -/
def text (u : Url) : Text :=
  u.scheme ++ [':'] ++
    (match u.authority with
      | some a => ['/', '/'] ++ a.text
      | none => if ['/', '/'].isPrefixOf u.path then ['/', '.'] else []) ++
    u.path ++
    (match u.query with
      | some q => '?' :: q
      | none => []) ++
    (match u.fragment with
      | some f => '#' :: f
      | none => [])

/-- The scheme of local files. -/
def fileScheme : Text := "file".toList

/-- The special schemes besides `file`, and the ports they imply. -/
def specialPorts : List (Text × Nat) := [
  ("http".toList, 80), ("https".toList, 443), ("ws".toList, 80), ("wss".toList, 443),
  ("ftp".toList, 21)]

/-- A letter of ASCII. -/
def isLetter (c : Char) : Bool := c.isAlpha

/-- A letter and `:` or `|`, the name of a drive in a file URL. -/
def isDriveLetter : Text → Bool
  | [a, b] => isLetter a && (b == ':' || b == '|')
  | _ => false

/-- The local path of a URL: that of a file URL without a host.  A drive at its
end is a directory. -/
def filePath? (u : Url) : Option Path :=
  if u.scheme ≠ fileScheme ∨ u.authority.any (·.host.isSome) then none
  else
    let path := (Utf8.decode (Percent.decode u.path)).text
    match path.reverse with
    | b :: a :: _ :: _ => some (if isDriveLetter [a, b] then path ++ ['/'] else path)
    | _ => some path

end Url

end TextIntake
