import TextIntake.Text.Basic

set_option autoImplicit false

/-!
# Failures of input and output

The ways in which opening, reading, writing or starting something can fail, with
the wording in which a failure is reported.
-/

namespace TextIntake

/-- Why an operation on the outside world failed. -/
inductive IoFailure where
  | notFound
  | badDescriptor
  | permissionDenied
  | alreadyExists
  | notADirectory
  | isADirectory
  | invalid
  | noSpace
  | notSeekable
  | brokenPipe
  | nameTooLong
  | notEmpty
  /-- a NUL in a path -/
  | nulInPath
  /-- a NUL in a program name or an argument -/
  | nulInCommand
  /-- a text file that is not UTF-8 -/
  | notUtf8
  /-- no way to reach locations of this scheme -/
  | noAccess (scheme : Text)
  /-- a failure worded by whoever reports it -/
  | reported (message : Text)
  deriving DecidableEq, Repr, Inhabited

namespace IoFailure

/-- The number and the wording that a system gives to a failure of its own. -/
def system? : IoFailure → Option (Nat × String)
  | notFound => some (2, "No such file or directory")
  | badDescriptor => some (9, "Bad file descriptor")
  | permissionDenied => some (13, "Permission denied")
  | alreadyExists => some (17, "File exists")
  | notADirectory => some (20, "Not a directory")
  | isADirectory => some (21, "Is a directory")
  | invalid => some (22, "Invalid argument")
  | noSpace => some (28, "No space left on device")
  | notSeekable => some (29, "Illegal seek")
  | brokenPipe => some (32, "Broken pipe")
  | nameTooLong => some (36, "File name too long")
  | notEmpty => some (39, "Directory not empty")
  | _ => none

/-- The wording of a failure. -/
def message (f : IoFailure) : String :=
  match f.system?, f with
  | some (number, reason), _ => s!"{reason} (os error {number})"
  | none, nulInPath => "file name contained an unexpected NUL byte"
  | none, nulInCommand => "nul byte found in provided data"
  | none, notUtf8 => "stream did not contain valid UTF-8"
  | none, noAccess scheme => s!"no access layer for '{String.ofList scheme}' locations"
  | none, reported text => String.ofList text
  | none, _ => ""

/-- The reason for a failure, without its number. -/
def reason (f : IoFailure) : String := ((f.system?).map Prod.snd).getD f.message

end IoFailure

end TextIntake
