/-!
# Paths of log files

The parts of a path, and the path without detours: `.` stays in place and `..` goes one folder
back.
-/

set_option autoImplicit false

namespace SqlComposer.Log

/-- One step further along a path. -/
def pathStep (done : List String) (part : String) : List String :=
  if part == "" || part == "." then done
  else if part == ".." then
    match done with
    | [] => [part]
    | last :: rest => if last == ".." then part :: done else rest
  else part :: done

/-- What a path begins with: a slash if it begins at the root. -/
def pathLead (path : String) : String := if path.startsWith "/" then "/" else ""

/-- A path without detours. -/
def plainPath (path : String) : String :=
  let parts := (path.splitOn "/").foldl pathStep []
  pathLead path ++ "/".intercalate parts.reverse

/-- The parts of a path that lead anywhere. -/
def pathParts (path : String) : List String :=
  (path.splitOn "/").filter fun part => part != "" && part != "."

/-- The parts of a path before its last. -/
def parentParts (path : String) : List String := (pathParts path).dropLast

/-- Whether a path leads to a place inside the working directory. -/
def isInside (path : String) : Bool :=
  !path.isEmpty && !path.startsWith "/" && !(path.splitOn "/").head? == some ".."

/-- Whether a path without detours leads to a folder that is always there: the working directory,
the root, or what lies above. -/
def isGivenFolder (path : String) : Bool :=
  path == "" || path == "/" || (path.splitOn "/").getLast? == some ".."

/-- The most octets that a part of a path can have. -/
def longestPart : Nat := 255

/-- The number of octets from which on a path is too long. -/
def endlessPath : Nat := 4096

/-- Whether a part of a path has too many octets. -/
def isTooLong (part : String) : Bool := longestPart < part.utf8ByteSize

end SqlComposer.Log
