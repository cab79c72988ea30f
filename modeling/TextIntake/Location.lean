import TextIntake.File.Tree
import TextIntake.Url.Reading

set_option autoImplicit false

/-!
# Locations of sources

A source is named by a local path or by a URL.  A text is taken for a URL only
when it looks like one, `scheme://` or `file:`, and names nothing that exists;
so `notes:v2.txt` and `C:\dir` stay local.  File URLs become local paths.
-/

namespace TextIntake

/-- Where the bytes of a source come from. -/
inductive Location where
  /-- nothing set, or the text of the source given directly -/
  | none
  | file (path : Path)
  | remote (url : Url)
  deriving DecidableEq, Repr, Inhabited

namespace Location

/-- Whether a text looks like a URL. -/
def looksLikeUrl (t : Text) : Bool :=
  (contains "://".toList t) || "file:".toList.isPrefixOf t
where
  /-- Whether `pattern` occurs. -/
  contains (pattern : Text) : Text → Bool
    | [] => pattern.isEmpty
    | c :: t => pattern.isPrefixOf (c :: t) || contains pattern t

/-- The location that a URL stands for; a scheme of one letter is a drive. -/
def ofUrl? (u : Url) : Option Location :=
  if u.scheme = Url.fileScheme then
    match u.filePath? with
    | some path => some (file path)
    | Option.none => some (remote u)
  else if u.scheme.length > 1 then some (remote u)
  else Option.none

/-- The location that a text names. -/
def read (tree : FileTree) (t : Text) : Location :=
  if t = [] then none
  else if !looksLikeUrl t || tree.exists? t then file t
  else ((Url.read? t).bind ofUrl?).getD (file t)

/-- Whether a location is set. -/
def isSet (l : Location) : Bool := l != none

/-- The path of a local source. -/
def path? : Location → Option Path
  | file path => some path
  | _ => Option.none

/-- A path whose name tells the kind of content. -/
def nameHint? : Location → Option Path
  | none => Option.none
  | file path => some path
  | remote url => some url.path

/-- Whether the source is there.  Nobody looks for a remote source before it is
fetched. -/
def isThere (tree : FileTree) : Location → Bool
  | none => false
  | file path => tree.exists? path
  | remote _ => true

/-- What stands at the path of a local source. -/
def node? (tree : FileTree) (l : Location) : Option (Node Bytes) :=
  l.path?.bind fun path => (tree.status path).toOption

/-- Whether a local source may be read: it is a file, or not there at all, which
makes it an empty source. -/
def isReadable (tree : FileTree) (l : Location) : Bool :=
  match l.path? with
  | Option.none => true
  | some path =>
    match tree.status path with
    | .ok (.file _) => true
    | .error .notFound => true
    | _ => false

/-- The written form. -/
def text : Location → Text
  | none => []
  | file path => path
  | remote url => url.text

end Location

end TextIntake
