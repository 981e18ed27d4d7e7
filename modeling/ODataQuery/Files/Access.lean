/-!
# Access to files

What the commands of a program ask of a file system, and what can go wrong with it.

* `FileAccess`: the operations, in a monad of effects.
* `FileError`: the reasons for a failure, in the words of the operating system.
-/

set_option autoImplicit false

namespace ODataQuery

/-- Why an operation on a file fails. -/
inductive FileError where
  | notFound
  | notADirectory
  | isADirectory
  | alreadyExists
  | nameTooLong
  /-- A path holds the character that ends paths. -/
  | brokenPath
  | other (reason : String)
  deriving DecidableEq, Repr

/-- The reason in words. -/
def FileError.message : FileError → String
  | notFound => "No such file or directory (os error 2)"
  | notADirectory => "Not a directory (os error 20)"
  | isADirectory => "Is a directory (os error 21)"
  | alreadyExists => "File exists (os error 17)"
  | nameTooLong => "File name too long (os error 36)"
  | brokenPath => "file name contained an unexpected NUL byte"
  | other reason => reason

/-- Operations on files, which paths name. -/
structure FileAccess (m : Type → Type) where
  /-- The text of a file. -/
  read : (path : String) → m (Except FileError String)
  /-- Is there a file or a directory at a path. -/
  isPresent : (path : String) → m (Except FileError Bool)
  /-- Make a directory, with those above it. -/
  makeDirectory : (path : String) → m (Except FileError Unit)
  /-- Give a file a text. -/
  write : (path text : String) → m (Except FileError Unit)

end ODataQuery
