import CipUnits.Bytes.HexDump
import CipUnits.Reader
import CipUnits.Tag.Spelling

/-!
# `CipUnits.Command.Failing` — how a command fails

A command that fails has a cause and, where the cause alone does not say what was attempted, a context.
The cause decides the exit code.
-/

namespace CipUnits.Command

/-- Why a command failed. -/
inductive Cause where
  | tag (e : UnknownTag)
  | file (failure : Failure)
  | hex (e : HexDump.Error)
  | read (e : ReadError)
  | kind (name : String)
deriving DecidableEq, Repr

/-- The exit code of a cause: 1 for a missing file, 50 for a forbidden one, 60 for a fault in the data,
    64 for a mistake of the caller and 125 for any other trouble with a file. -/
def Cause.exitCode : Cause → Nat
  | tag _ | hex _ | kind _ | read (.unsupported _) => 64
  | read (.fault _) => 60
  | file failure =>
      match failure.kind with
      | .permissionDenied => 50
      | .notFound => 1
      | _ => 125

/-- The message of a cause. -/
def Cause.message : Cause → String
  | tag e => e.message
  | file failure => failure.message
  | hex e => e.message
  | read e => e.message
  | kind name => "unknown native kind: " ++ name

/-- A cause, and what was attempted. -/
structure CommandError where
  context : Option String := none
  cause : Cause
deriving DecidableEq, Repr

/-- The exit code of an error. -/
def CommandError.exitCode (e : CommandError) : Nat := e.cause.exitCode

/-- The message of an error: the context, if there is one, then the cause. -/
def CommandError.message (e : CommandError) : String :=
  match e.context with
  | some context => context ++ ": " ++ e.cause.message
  | none => e.cause.message

end CipUnits.Command
