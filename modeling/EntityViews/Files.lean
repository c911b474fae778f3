/-! Reading files by their path.
A path may lead to nothing, to what cannot be read or to a text.
-/

namespace EntityViews

/-- Why a file cannot be read. -/
inductive FileError where
  | notFound
  | isDirectory
  /-- The path goes through a file as if it were a directory. -/
  | notDirectory
  | nameTooLong
  /-- The path holds the character that ends a path. -/
  | nulInPath
  | notText
  | other (text : String)
deriving DecidableEq, Repr

namespace FileError

/-- The wording of the operating system. -/
def message : FileError → String
  | .notFound => "No such file or directory (os error 2)"
  | .isDirectory => "Is a directory (os error 21)"
  | .notDirectory => "Not a directory (os error 20)"
  | .nameTooLong => "File name too long (os error 36)"
  | .nulInPath => "file name contained an unexpected NUL byte"
  | .notText => "stream did not contain valid UTF-8"
  | .other text => text

end FileError

/-- What stands at a path. -/
inductive FileContent where
  /-- The system knows of nothing there. -/
  | missing (problem : FileError)
  /-- Something is there, and no text can be read from it. -/
  | unreadable (problem : FileError)
  | text (text : String)
deriving DecidableEq, Repr

namespace FileContent

def isThere : FileContent → Bool
  | .missing _ => false
  | .unreadable _ => true
  | .text _ => true

/-- The text at a path, or the error of reading it. -/
def read : FileContent → Except FileError String
  | .missing problem => .error problem
  | .unreadable problem => .error problem
  | .text content => .ok content

end FileContent

/-- Files as their readers see them. -/
abbrev Files := String → FileContent

/-- The parts of a path, without those that stay in place. -/
def pathParts (path : String) : List String :=
  (path.splitOn "/").filter fun part => part ≠ "" ∧ part ≠ "."

/-- The ending of the last part of a path, behind its last dot; a name has to stand before
the dot.
-/
def pathExtension? (path : String) : Option String :=
  match (pathParts path).getLast? with
  | none => none
  | some name =>
      match (name.splitOn ".").reverse with
      | ending :: stem :: rest =>
          if stem.isEmpty ∧ rest.isEmpty ∨ name = ".." then none else some ending
      | _ => none

end EntityViews
