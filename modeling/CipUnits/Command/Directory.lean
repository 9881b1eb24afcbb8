import CipUnits.Source.Basic

/-!
# `CipUnits.Command.Directory` — reading a file of a known directory

A model of the file system around a directory whose files are known: a path is followed component by
component, and each way in which that can fail has its own failure. What lies outside of the directory
is known to consist of directories only.

## Contents
- `Directory` — the files by name; `Directory.read` — the content at a path.
-/

namespace CipUnits.Command

/-- The files of a directory, by name. -/
abbrev Directory := List (String × List UInt8)

namespace Directory

/-- Where a path has led. -/
inductive Place where
  /-- The directory itself. -/
  | here
  /-- A directory around it. -/
  | outside
  | file (content : List UInt8)
deriving DecidableEq, Repr

/-- There is nothing of the name. -/
def noSuchFile : Failure := ⟨.notFound, "No such file or directory (os error 2)"⟩

/-- The path goes on behind a file. -/
def notADirectory : Failure := ⟨.other "not a directory", "Not a directory (os error 20)"⟩

/-- The path ends at a directory. -/
def isADirectory : Failure := ⟨.other "is a directory", "Is a directory (os error 21)"⟩

/-- The path or one of its names is longer than any can be. -/
def nameTooLong : Failure := ⟨.other "file name too long", "File name too long (os error 36)"⟩

/-- The path holds the character that ends paths. -/
def holdsNul : Failure := ⟨.other "not a path", "file name contained an unexpected NUL byte"⟩

/-- Follows one component of a path. -/
def enter (directory : Directory) (component : String) : Place → Except Failure Place
  | .file _ => .error notADirectory
  | place =>
      if component = "." then .ok place
      else if component = ".." then .ok .outside
      else if 255 < component.utf8ByteSize then .error nameTooLong
      else match place, directory.find? (·.1 == component) with
        | .here, some (_, content) => .ok (.file content)
        | _, _ => .error noSuchFile

/-- Follows the components of a path. Empty ones, as between two slashes, lead nowhere. -/
def follow (directory : Directory) : List String → Place → Except Failure Place
  | [], place => .ok place
  | "" :: components, place => follow directory components place
  | component :: components, place => do
      follow directory components (← enter directory component place)

/-- The components of a path; one that ends in a slash must lead to a directory. -/
def components (path : String) : List String :=
  path.splitOn "/" ++ (if path.endsWith "/" then ["."] else [])

/-- The content of the file at a path. -/
def read (directory : Directory) (path : String) : Except Failure (List UInt8) :=
  if path.toList.contains '\x00' then .error holdsNul
  else if 4096 ≤ path.utf8ByteSize then .error nameTooLong
  else do
    match ← follow directory (components path) (if path.startsWith "/" then .outside else .here) with
    | .file content => .ok content
    | .here | .outside => .error isADirectory

end Directory

end CipUnits.Command
