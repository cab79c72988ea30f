import TextIntake.File.Path

set_option autoImplicit false

/-!
# Comment syntaxes

A source has one of four comment syntaxes, or leaves the choice to its name: the
extension, in either case of its letters, or else a few well-known file names.
-/

namespace TextIntake.Comment

/-- The comment syntax asked for. -/
inductive Syntax where
  /-- the one that fits the name of the source -/
  | auto
  /-- no line is a comment -/
  | absent
  | cStyle
  | hash
  | batch
  deriving DecidableEq, Repr, Inhabited

namespace Syntax

/-- The word for a syntax in options. -/
def word : Syntax → String
  | auto => "auto"
  | absent => "none"
  | cStyle => "c"
  | hash => "hash"
  | batch => "batch"

/-- All syntaxes. -/
def all : List Syntax := [auto, absent, cStyle, hash, batch]

/-- The syntax that a word names. -/
def ofWord? (word : String) : Option Syntax := all.find? (·.word == word)

theorem ofWord?_word (s : Syntax) : ofWord? s.word = some s := by cases s <;> decide

/-- Extensions of files with comments of the C family. -/
def cStyleExtensions : List String := [
  "c", "h", "cc", "cpp", "cxx", "hpp", "hh", "hxx", "cs", "java", "js", "jsx", "ts", "tsx",
  "rs", "go", "kt", "swift", "scala", "css", "php"]

/-- Extensions of files with hash comments. -/
def hashExtensions : List String := [
  "sh", "bash", "zsh", "py", "rb", "pl", "pm", "toml", "yaml", "yml", "conf", "cfg", "ini",
  "r", "cmake", "mk"]

/-- Extensions of batch files. -/
def batchExtensions : List String := ["bat", "cmd"]

/-- Names of files with hash comments that no extension tells. -/
def hashNames : List String := ["Makefile", "makefile", "Dockerfile", "CMakeLists.txt"]

/-- The syntax that fits the name of a source. -/
def ofPath (path : Option Path) : Syntax :=
  let extension := (path.bind Path.extension?).map fun e => String.ofList (Text.lowerAscii e)
  let name := (path.bind Path.fileName?).map String.ofList
  if extension.any cStyleExtensions.contains then cStyle
  else if extension.any hashExtensions.contains then hash
  else if extension.any batchExtensions.contains then batch
  else if name.any hashNames.contains then hash
  else absent

/-- The syntax to use for a source of the given name. -/
def resolve (s : Syntax) (path : Option Path) : Syntax :=
  match s with
  | auto => ofPath path
  | other => other

end Syntax

end TextIntake.Comment
