import TableReconciler.Text.Segments

/-!
# Directories

A working directory with a few files, and what reading a path in it comes to.  Nothing is known of
what lies outside but that the way up never ends.
-/

namespace TableReconciler

/-! ## Paths -/

namespace Path

/-- The segments of a path without the empty ones and without those that stay in place. -/
def segments (path : String) : List (List Char) :=
  (Text.segments '/' path.toList).filter fun segment => !segment.isEmpty && segment ≠ ['.']

/-- Whether a path starts at the root. -/
def isAbsolute (path : String) : Bool :=
  path.toList.head? == some '/'

/-- The path with its segments alone; a path without any stays in place. -/
def clean (path : String) : String :=
  let relative := "/".intercalate ((segments path).map String.ofList)
  if isAbsolute path then "/" ++ relative
  else if relative.isEmpty then "." else relative

/-- The most bytes that a segment may take. -/
def maxSegmentBytes : Nat := 255

/-- The most bytes that a path may take. -/
def maxBytes : Nat := 4095

end Path

/-! ## Files -/

/-- Why a path is not read. -/
inductive FileFault where
  /-- There is no such file. -/
  | missing
  /-- The path leads to a directory. -/
  | isDirectory
  /-- The path leads on from a file. -/
  | notDirectory
  /-- The path or one of its segments is too long. -/
  | nameTooLong
  deriving DecidableEq, Repr

/-- A working directory. -/
structure Directory where
  /-- The files by their names, with their contents. -/
  files : List (String × String) := []
  deriving DecidableEq, Repr

namespace Directory

/-- Where a path leads. -/
inductive Place where
  /-- To the working directory. -/
  | working
  /-- To a directory outside. -/
  | outside
  /-- To a file. -/
  | file (contents : String)
  deriving DecidableEq, Repr

/-- Go on by one segment. -/
def enter (d : Directory) (place : Place) (segment : List Char) : Except FileFault Place :=
  let name := String.ofList segment
  match place with
  | .file _ => .error .notDirectory
  | .working | .outside =>
      if segment = ['.', '.'] then .ok .outside
      else if Path.maxSegmentBytes < name.utf8ByteSize then .error .nameTooLong
      else
        match place, d.files.lookup name with
        | .working, some contents => .ok (.file contents)
        | _, _ => .error .missing

/-- The contents of the file that a path leads to. -/
def read (d : Directory) (path : String) : Except FileFault String := do
  if Path.maxBytes < path.utf8ByteSize then throw .nameTooLong
  let start : Place := if Path.isAbsolute path then .outside else .working
  match ← (Path.segments path).foldlM d.enter start with
  | .file contents => return contents
  | _ => throw .isDirectory

end Directory

end TableReconciler
