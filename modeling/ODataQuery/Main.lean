import ODataQuery.CommandLine.Commands

/-!
# The program

Runs the command that the arguments ask for on the files of the system, and prints its answer.  The
program has no formatter of SQL, so statements are printed as they are.
-/

set_option autoImplicit false

namespace ODataQuery
namespace CommandLine

/-- The reason why an operation of the system failed. -/
def reasonOf : IO.Error → FileError
  | .noFileOrDirectory .. => .notFound
  | .inappropriateType _ 21 _ => .isADirectory
  | .inappropriateType .. => .notADirectory
  | .alreadyExists .. => .alreadyExists
  | .invalidArgument _ 36 _ => .nameTooLong
  | error => .other (toString error)

/-- The result of an operation of the system. -/
def attempt {α : Type} (operation : IO α) : IO (Except FileError α) := do
  match ← operation.toBaseIO with
  | .ok result => pure (.ok result)
  | .error error => pure (.error (reasonOf error))

/-- The text of a file of the system. -/
def readText (path : String) : IO (Except FileError String) := do
  match ← attempt (IO.FS.readBinFile path) with
  | .error error => pure (.error error)
  | .ok bytes =>
    match String.fromUTF8? bytes with
    | some text => pure (.ok text)
    | none => pure (.error (.other "stream did not contain valid UTF-8"))

/-- Is there a file or a directory at a path of the system. -/
def isPresent (path : String) : IO (Except FileError Bool) := do
  match ← attempt (IO.FS.Handle.mk path .read) with
  | .ok _ => pure (.ok true)
  | .error .notFound => pure (.ok false)
  | .error error => pure (.error error)

/-- The files of the system. -/
def systemAccess : FileAccess IO where
  read := readText
  isPresent := isPresent
  makeDirectory path := attempt (IO.FS.createDirAll path)
  write path text := attempt (IO.FS.writeFile path text)

/-- What is printed for arguments that do not run a command. -/
def usage (error : UsageError) : String :=
  "odata-sql: " ++ error.name

end CommandLine
end ODataQuery

open ODataQuery.CommandLine in
/-- Run the command of the arguments. -/
def main (arguments : List String) : IO UInt32 := do
  let environment ← IO.getEnv "ODATA_SQL_CONFIGURATION"
  match Invocation.ofArguments environment arguments with
  | .error error =>
    IO.eprintln (usage error)
    pure 2
  | .ok invocation =>
    match ← invocation.run systemAccess with
    | .ok output =>
      IO.println output
      pure 0
    | .error error =>
      IO.eprintln s!"Error: {error.message}"
      pure 1
