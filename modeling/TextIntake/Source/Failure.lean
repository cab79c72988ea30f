import TextIntake.Command.Failure
import TextIntake.File.Path
import TextIntake.Options.Basic

set_option autoImplicit false

/-!
# Failures and reports

What can go wrong with a source.  A failed command is a warning, since the source
is then used as it was before the command; anything else ends the run.
-/

namespace TextIntake

/-- What went wrong with a source. -/
inductive SourceFailure where
  | notRegularFile (path : Path)
  | readFailed (name : Text) (cause : IoFailure)
  | writeFailed (name : Text) (cause : IoFailure)
  | preprocessorFailed (command : Text) (reason : CommandFailure)
  | lineMatcherFailed (command : Text) (reason : CommandFailure)
  | tooLarge (name : Text)
  deriving DecidableEq, Repr, Inhabited

namespace SourceFailure

/-- Whether a failure ends the run. -/
def isFatal : SourceFailure → Bool
  | preprocessorFailed _ _ | lineMatcherFailed _ _ => false
  | _ => true

/-- The words for a failed command: what was done with it, at the start of a sentence
and inside one. -/
def advice (activity kind : String) (command : Text) (reason : CommandFailure) : String :=
  s!"{activity} possibly failed. Check this command:\n\n  {String.ofList command}\n\n" ++
    s!"The {kind} command will be disabled now.\n({reason.message})"

/-- The wording of a failure. -/
def message : SourceFailure → String
  | notRegularFile path => s!"{String.ofList path} is not a normal file."
  | readFailed name cause => s!"Failed to read file: {String.ofList name}: {cause.message}"
  | writeFailed name cause => s!"Failed to write file: {String.ofList name}: {cause.message}"
  | preprocessorFailed command reason => advice "Preprocessing" "preprocessing" command reason
  | lineMatcherFailed command reason =>
    advice "The line-matching-preprocessing" "line-matching-preprocessing" command reason
  | tooLarge name => s!"File {String.ofList name} too large to process. Skipping."

end SourceFailure

/-- What a run tells its caller. -/
structure Report where
  /-- the warnings in order, and at the end the failure that ended the run -/
  failures : List SourceFailure := []
  update : OptionsUpdate := {}
  deriving DecidableEq, Repr, Inhabited

namespace Report

/-- Whether nothing went wrong. -/
def isOk (r : Report) : Bool := r.failures.isEmpty

/-- The failure that ended the run. -/
def fatal? (r : Report) : Option SourceFailure := r.failures.find? SourceFailure.isFatal

/-- The wording of all failures. -/
def messages (r : Report) : List String := r.failures.map SourceFailure.message

end Report

end TextIntake
