import GraphProtocol.Text.Unsigned

/-!
# Files

Files are known by their paths. A path without a file is refused for what the path
itself shows before it is looked up: a character that no path may hold, or a name
that is too long. A path of dots alone leads to a directory, and nothing lies
below a file.
-/

set_option autoImplicit false

namespace GraphProtocol

abbrev Files := String → Option String

inductive FileFault where
  | absent
  | isDirectory
  /-- A path that leads through a file. -/
  | notDirectory
  | nameTooLong
  | nulInName
  deriving DecidableEq, Repr

def FileFault.message : FileFault → String
  | .absent => "No such file or directory (os error 2)"
  | .isDirectory => "Is a directory (os error 21)"
  | .notDirectory => "Not a directory (os error 20)"
  | .nameTooLong => "File name too long (os error 36)"
  | .nulInName => "file name contained an unexpected NUL byte"

namespace Files

def maxPathLength : Nat := 4095

def maxNameLength : Nat := 255

def names (path : String) : List String :=
  ((Text.split '/' path.toList).map String.ofList).filter fun name => !name.isEmpty

def parentsFrom (front : List Char) : List Char → List String
  | [] => []
  | '/' :: rest => String.ofList front.reverse :: parentsFrom ('/' :: front) rest
  | c :: rest => parentsFrom (c :: front) rest

def parents (path : String) : List String := parentsFrom [] path.toList

def fault (files : Files) (path : String) : FileFault :=
  if path.toList.contains '\x00' then .nulInName
  else if maxPathLength < path.utf8ByteSize then .nameTooLong
  else if (names path).head?.any fun name => decide (maxNameLength < name.utf8ByteSize) then
    .nameTooLong
  else if (parents path).any fun parent => (files parent).isSome then .notDirectory
  else if path ≠ "" ∧ (names path).all [".", ".."].contains then .isDirectory
  else .absent

def read (files : Files) (path : String) : Except FileFault String :=
  match files path with
  | some content => .ok content
  | none => .error (files.fault path)

end Files

end GraphProtocol
