import TextIntake.Command.Duration
import TextIntake.Comment.Syntax
import TextIntake.Encoding.Basic
import TextIntake.Line.Splitting

set_option autoImplicit false

/-!
# Options

The settings that all sources of a comparison share, the encoding chosen for one
source, and the change that a run asks for when a command has failed.
-/

namespace TextIntake

/-- The settings that all sources share. -/
structure Options where
  /-- the command every source is sent through first; empty for none -/
  preprocessor : Text := []
  /-- the command whose output only serves to match lines; empty for none -/
  lineMatcher : Text := []
  /-- the encoding that both commands read and write, unless it is that of the source -/
  toolEncoding : Option Encoding := none
  ignoreComments : Bool := false
  ignoreCase : Bool := false
  ignoreNumbers : Bool := false
  commentSyntax : Comment.Syntax := .auto
  /-- how many seconds a command may take -/
  timeoutSeconds : Option Nat := none
  limits : Limits := {}
  deriving DecidableEq, Repr, Inhabited

namespace Options

/-- Whether the comparison needs a copy of its own: something is to be ignored. -/
def wantsComparisonCopy (o : Options) : Bool := o.ignoreComments || o.ignoreCase || o.ignoreNumbers

/-- How long a command may take. -/
def timeout (o : Options) : Option Duration := o.timeoutSeconds.map Duration.seconds

/-- What is done to the lines of the comparison. -/
def lineFilter (o : Options) : LineFilter where
  removeComments := o.ignoreComments
  foldCase := o.ignoreCase
  stripNumbers := o.ignoreNumbers

end Options

/-- A change to the options that a run asks for. -/
structure OptionsUpdate where
  disablePreprocessor : Bool := false
  disableLineMatcher : Bool := false
  deriving DecidableEq, Repr, Inhabited

namespace OptionsUpdate

/-- Whether nothing is asked for. -/
def isEmpty (u : OptionsUpdate) : Bool := !u.disablePreprocessor && !u.disableLineMatcher

/-- The options with the change made. -/
def apply (u : OptionsUpdate) (o : Options) : Options :=
  { o with
    preprocessor := if u.disablePreprocessor then [] else o.preprocessor
    lineMatcher := if u.disableLineMatcher then [] else o.lineMatcher }

theorem apply_of_isEmpty {u : OptionsUpdate} (h : u.isEmpty = true) (o : Options) :
    u.apply o = o := by
  simp [isEmpty] at h
  simp [apply, h]

end OptionsUpdate

/-- The encoding chosen for a source. -/
structure EncodingChoice where
  encoding : Encoding := .utf8
  /-- whether an encoding that is detected comes first -/
  autoDetect : Bool := true
  deriving DecidableEq, Repr, Inhabited

end TextIntake
