import FlowCheck.Workspace.FilePath

/-!
# Workspaces

What a command sees of its surroundings: files, the working directory, and environment variables.  There are no
links, so that a place in the tree of directories is the list of the names that lead to it.  `lookUp` walks a
path through the tree, and `read` gives the text of a file or the reason why there is none.
-/

namespace FlowCheck

/-- What stands at a place in a file system. -/
inductive FileEntry where
  | directory
  | text (content : String)
  /-- A file that is no text. -/
  | bytes
  deriving DecidableEq

/-- Why a file cannot be read or written. -/
inductive FileFault where
  | notFound
  | isDirectory
  | notDirectory
  | exists
  | notText
  | nameTooLong
  | nulInName
  deriving DecidableEq

def FileFault.message : FileFault → String
  | .notFound => "No such file or directory (os error 2)"
  | .isDirectory => "Is a directory (os error 21)"
  | .notDirectory => "Not a directory (os error 20)"
  | .exists => "File exists (os error 17)"
  | .notText => "stream did not contain valid UTF-8"
  | .nameTooLong => "File name too long (os error 36)"
  | .nulInName => "file name contained an unexpected NUL byte"

structure Workspace where
  /-- The place of the working directory. -/
  root : List String
  /-- Files and directories by their places. -/
  entries : List (List String × FileEntry)
  environment : List (String × String)

namespace Workspace

/-- The path of some names from the root of the file system. -/
def absolutePath (names : List String) : String :=
  "/" ++ "/".intercalate names

/-- The working directory. -/
def directory (w : Workspace) : String :=
  absolutePath w.root

/-- The value of an environment variable. -/
def valueOf? (w : Workspace) (name : String) : Option String :=
  w.environment.lookup name

/-- What stands at a place.  The working directory and the directories on the way to a known place are there. -/
def entryAt? (w : Workspace) (place : List String) : Option FileEntry :=
  match w.entries.lookup place with
  | some entry => some entry
  | none =>
    if place.isPrefixOf w.root || w.entries.any fun e => place.isPrefixOf e.1 then some .directory else none

/-- Walks on from a directory.  `mustEnter` holds for paths whose end has to be a directory. -/
def walk (w : Workspace) (mustEnter : Bool) (place : List String) :
    List Component → Except FileFault (List String × FileEntry)
  | [] =>
    match w.entryAt? place with
    | none => .error .notFound
    | some entry => if mustEnter && entry != .directory then .error .notDirectory else .ok (place, entry)
  | component :: rest =>
    match w.entryAt? place with
    | none => .error .notFound
    | some .directory =>
      match component with
      | .root => w.walk mustEnter [] rest
      | .current => w.walk mustEnter place rest
      | .parent => w.walk mustEnter place.dropLast rest
      | .name s =>
        if 255 < s.utf8ByteSize then .error .nameTooLong else w.walk mustEnter (place ++ [s]) rest
    | some _ => .error .notDirectory

/-- A path ends in a slash or a point, so only a directory can stand there. -/
def namesDirectory (path : String) : Bool :=
  match (FilePath.segments path).getLast? with
  | some s => s = "" || s = "."
  | none => false

/-- The place that a path leads to, and what stands there. -/
def lookUp (w : Workspace) (path : String) : Except FileFault (List String × FileEntry) :=
  if path.toList.contains '\x00' then .error .nulInName
  else if path.isEmpty then .error .notFound
  else if 4096 ≤ path.utf8ByteSize then .error .nameTooLong
  else w.walk (namesDirectory path) w.root (FilePath.components path)

def pathExists (w : Workspace) (path : String) : Bool :=
  (w.lookUp path).isOk

/-- The path without detours, if something stands there. -/
def canonical? (w : Workspace) (path : String) : Option String :=
  (w.lookUp path).toOption.map fun found => absolutePath found.1

/-- The text of a file. -/
def read (w : Workspace) (path : String) : Except FileFault String := do
  match ← w.lookUp path with
  | (_, .text content) => return content
  | (_, .bytes) => throw .notText
  | (_, .directory) => throw .isDirectory

/-! ## Changes -/

/-- Puts something at a place. -/
def put (w : Workspace) (place : List String) (entry : FileEntry) : Workspace :=
  { w with entries := (place, entry) :: w.entries.filter (·.1 != place) }

/-- Walks on from a directory and makes the directories that are missing on the way. -/
def makeAlong (w : Workspace) (place : List String) : List Component → Except FileFault Workspace
  | [] => .ok w
  | component :: rest =>
    match component with
    | .root => w.makeAlong [] rest
    | .current => w.makeAlong place rest
    | .parent => w.makeAlong place.dropLast rest
    | .name s =>
      if 255 < s.utf8ByteSize then .error .nameTooLong
      else
        match w.entryAt? (place ++ [s]) with
        | none => (w.put (place ++ [s]) .directory).makeAlong (place ++ [s]) rest
        | some .directory => w.makeAlong (place ++ [s]) rest
        | some _ => .error (if rest.isEmpty then .exists else .notDirectory)

/-- Makes a directory and those above it. -/
def makeDirectories (w : Workspace) (path : String) : Except FileFault Workspace :=
  if path.toList.contains '\x00' then .error .nulInName else w.makeAlong w.root (FilePath.components path)

/-- The place of a file that may be missing. -/
def placeOf (w : Workspace) (path : String) : List String :=
  (FilePath.components path).foldl (fun place component =>
    match component with
    | .root => []
    | .current => place
    | .parent => place.dropLast
    | .name s => place ++ [s])
    w.root

/-- Writes a text at the end of a file; a file that is missing is made. -/
def append (w : Workspace) (path text : String) : Except FileFault Workspace :=
  let place := w.placeOf path
  match w.entryAt? place with
  | some .directory => .error .isDirectory
  | some (.text old) => .ok (w.put place (.text (old ++ text)))
  | some .bytes => .ok w
  | none => .ok (w.put place (.text text))

end Workspace

end FlowCheck
