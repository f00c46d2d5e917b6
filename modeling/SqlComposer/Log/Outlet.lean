import SqlComposer.Log.Path
import SqlComposer.Value.Amount

/-!
# Where log lines go

A handler takes lines to one place: to a file, to a file that is rotated, or to the console. The
outlets are the files and the console that handlers write to, together with the files that
handlers hold open.

A file keeps its lines when it gets another name, and a handler that holds it open goes on
writing to it. A handler opens its file with the first line it writes.

A rotated file is full when a line would bring it to its limit. It is then moved to the first
backup name, every backup moves on to the next one, the last backup is lost, and a new file is
begun. Without backups the file just grows.

The limit and the number of backups are kept as they were given. A rotated file loses a line that
it cannot take; a plain file passes the fault on. A record that has no line, since it cannot be
written, opens the files of the handlers and is lost on each of them.
-/

set_option autoImplicit false

namespace SqlComposer.Log

/-- What a handler writes to. -/
inductive Target where
  | file (path : String)
  /-- A file that is moved to a backup name when it reaches its limit. -/
  | rotating (path : String) (maxBytes backupCount : Value)
  | console

/-- A handler. No two handlers have the same number. -/
structure Handler where
  number : Nat
  target : Target

/-- The files, the console, and who holds which file open. -/
structure Outlets where
  /-- The number of the file under each name. -/
  names : List (String × Nat)
  /-- The folders that were made. -/
  folders : List String
  /-- The contents of the files by number. -/
  contents : List String
  /-- The file that each handler holds open. -/
  streams : List (Nat × Nat)
  /-- What the console has shown. -/
  console : String
  /-- How many handlers there have been. -/
  issued : Nat
  /-- The handlers that have been closed. -/
  closed : List Nat

/-- No files and an empty console. -/
def Outlets.empty : Outlets := ⟨[], [], [], [], "", 0, []⟩

namespace Outlets

/-- The contents of the file with a number. -/
def content (o : Outlets) (file : Nat) : String := o.contents.getD file ""

/-- The file that a handler holds open. -/
def stream? (o : Outlets) (handler : Nat) : Option Nat :=
  (o.streams.find? (·.1 == handler)).map (·.2)

/-- The file under a name, which is made if it is not there. -/
def opened (o : Outlets) (name : String) : Nat × Outlets :=
  match lookup? name o.names with
  | some file => (file, o)
  | none =>
    (o.contents.length,
      { o with names := put name o.contents.length o.names, contents := o.contents ++ [""] })

/-- The file that a handler writes to, open from now on. -/
def stream (o : Outlets) (handler : Nat) (name : String) : Nat × Outlets :=
  match o.stream? handler with
  | some file => (file, o)
  | none =>
    let (file, o) := o.opened name
    (file, { o with streams := (handler, file) :: o.streams })

/-- Gives up the file that a handler holds open. -/
def release (o : Outlets) (handler : Nat) : Outlets :=
  { o with streams := o.streams.filter (·.1 != handler) }

/-- Puts text at the end of a file. -/
def append (o : Outlets) (file : Nat) (text : String) : Outlets :=
  { o with contents := o.contents.modify file (· ++ text) }

/-- Gives the file under a name another name. A file that had that name is lost. -/
def rename (o : Outlets) (name new : String) : Outlets :=
  match lookup? name o.names with
  | some file =>
    { o with names := (o.names.filter fun e => e.1 != name && e.1 != new) ++ [(new, file)] }
  | none => o

/-- The name of a backup. -/
def backupName (name : String) (i : Nat) : String := name ++ "." ++ toString i

/-- Moves the backups on, the oldest first. -/
def shiftBackups (o : Outlets) (name : String) : Nat → Outlets
  | 0 => o
  | i + 1 =>
    shiftBackups (o.rename (backupName name (i + 1)) (backupName name (i + 2))) name i

/-- Moves a full file away. -/
def rotate (o : Outlets) (name : String) (backups : Nat) : Outlets :=
  match backups with
  | 0 => o
  | n + 1 =>
    let moved := o.shiftBackups name n
    if (lookup? name moved.names).isSome then moved.rename name (backupName name 1)
    else { moved with names := moved.names.filter (·.1 != backupName name 1) }

/-- Makes the folders of a path part by part, of which `done` leads to the first. -/
def makeParts (lead : String) : (done parts : List String) → Outlets → Except Fault Unit × Outlets
  | _, [], o => (.ok (), o)
  | done, part :: rest, o =>
    let path := plainPath (lead ++ "/".intercalate (done ++ [part]))
    if isTooLong part then (.error ⟨.system, ""⟩, o)
    else if (lookup? path o.names).isSome then
      (.error ⟨if rest.isEmpty then .fileExists else .notFolder, ""⟩, o)
    else makeParts lead (done ++ [part]) rest { o with folders := path :: o.folders }

/-- The fault of a path that holds the end of a text. -/
def endInPath : Fault := ⟨.value, "embedded null byte"⟩

/-- Makes the folders that lead to a file. -/
def makeFolders (o : Outlets) (path : String) : Except Fault Unit × Outlets :=
  let parts := parentParts path
  let parent := pathLead path ++ "/".intercalate parts
  if parent.toList.contains '\x00' then (.error endInPath, o)
  else if endlessPath ≤ parent.utf8ByteSize then (.error ⟨.system, ""⟩, o)
  else makeParts (pathLead path) [] parts o

/-- Whether a file can be opened under a path. -/
def openable (o : Outlets) (path : String) : Except Fault Unit :=
  let name := plainPath path
  if path.toList.contains '\x00' then .error endInPath
  else if isGivenFolder name || o.folders.contains name then .error ⟨.isFolder, ""⟩
  else if (pathParts path).any isTooLong then .error ⟨.system, ""⟩
  else .ok ()

/-- Whether a line would bring a file to its limit. -/
def isFull (limit : Value) (content line : String) : Bool :=
  let size := Value.int (content.utf8ByteSize + line.length + 1 : Nat)
  match limit.isPositive, size.less limit with
  | .ok true, .ok below => !below
  | _, _ => false

/-- How many backups are kept, if that can be told: a number that is not positive means none, and
one that is has to be a whole number. -/
def backupsKept? (backups : Value) : Option Nat :=
  match backups.isPositive, backups with
  | .ok false, _ => some 0
  | .ok true, .int n => some n.toNat
  | .ok true, .bool _ => some 1
  | _, _ => none

/-- Appends a line to the file of a handler. -/
def writeFile (o : Outlets) (handler : Nat) (name line : String) : Outlets :=
  let (file, o) := o.stream handler name
  o.append file (line ++ "\n")

/-- Takes a line to a file that is rotated. -/
def writeRotating (o : Outlets) (handler : Nat) (name : String) (limit backups : Value)
    (line : String) : Outlets :=
  let (file, o) := o.stream handler name
  if isFull limit (o.content file) line then
    let o := o.release handler
    match backupsKept? backups with
    | some n =>
      if 0 < n && (pathParts (backupName name 1)).any isTooLong then o
      else (o.rotate name n).writeFile handler name line
    | none => o
  else o.append file (line ++ "\n")

/-- Takes a line where a handler's target is. -/
def write (o : Outlets) (h : Handler) (line : String) : Except Fault Unit × Outlets :=
  match h.target with
  | .console => (.ok (), { o with console := o.console ++ line ++ "\n" })
  | .file path =>
    match o.openable path with
    | .error f => (.error f, o)
    | .ok () => (.ok (), o.writeFile h.number (plainPath path) line)
  | .rotating path limit backups =>
    match o.openable path with
    | .error _ => (.ok (), o)
    | .ok () => (.ok (), o.writeRotating h.number (plainPath path) limit backups line)

/-- Turns to a handler with a record that has no line: its file is opened, and nothing is
written. -/
def openFor (o : Outlets) (h : Handler) : Except Fault Unit × Outlets :=
  match h.target with
  | .console => (.ok (), o)
  | .file path =>
    match o.openable path with
    | .error f => (.error f, o)
    | .ok () => (.ok (), (o.stream h.number (plainPath path)).2)
  | .rotating path _ _ =>
    match o.openable path with
    | .error _ => (.ok (), o)
    | .ok () => (.ok (), (o.stream h.number (plainPath path)).2)

/-- Turns to one handler after another, until one is at fault. -/
def inTurn (turn : Outlets → Handler → Except Fault Unit × Outlets) :
    List Handler → Outlets → Except Fault Unit × Outlets
  | [], o => (.ok (), o)
  | h :: hs, o =>
    match turn o h with
    | (.error f, o) => (.error f, o)
    | (.ok (), o) => inTurn turn hs o

/-- Takes a line to one handler after another, until one is at fault. -/
def writeAll (line : String) (hs : List Handler) (o : Outlets) : Except Fault Unit × Outlets :=
  inTurn (fun o h => o.write h line) hs o

/-- A new handler for a target. -/
def newHandler (o : Outlets) (target : Target) : Handler × Outlets :=
  (⟨o.issued, target⟩, { o with issued := o.issued + 1 })

/-- Closes a handler. -/
def close (o : Outlets) (h : Handler) : Outlets :=
  { o.release h.number with closed := h.number :: o.closed }

/-- The files in the working directory, by name. -/
def files (o : Outlets) : List (String × String) :=
  (o.names.filter fun e => isInside e.1).map fun e => (e.1, o.content e.2)

end Outlets

end SqlComposer.Log
