/-!
# File paths

A path is a text; slashes separate its components.  `components` leaves out what does not matter (doubled and trailing
slashes, a point that is not the first component), while `join` keeps the text as it was written.
-/

namespace FlowCheck

/-- A part of a path. -/
inductive Component where
  | root
  | current
  | parent
  | name (s : String)
  deriving DecidableEq

namespace FilePath

def isAbsolute (path : String) : Bool :=
  path.toList.head? = some '/'

/-- The path taken relative to a base, unless it is absolute. -/
def join (base path : String) : String :=
  if isAbsolute path || base.isEmpty then path
  else if base.toList.getLast? = some '/' then base ++ path
  else base ++ "/" ++ path

/-- The texts between slashes. -/
def segments (path : String) : List String :=
  (path.toList.splitOn '/').map String.ofList

/-- A text between slashes that is not the first component; empty ones and points do not count. -/
def laterComponent? (segment : String) : Option Component :=
  if segment = "" ∨ segment = "." then none
  else if segment = ".." then some .parent
  else some (.name segment)

/-- The components of a path. -/
def components (path : String) : List Component :=
  let rest := (segments path).filterMap laterComponent?
  if isAbsolute path then .root :: rest
  else if (segments path).head? = some "." then .current :: rest
  else rest

/-- A path lies at or under another one, component by component. -/
def isUnder (path base : String) : Bool :=
  (components base).isPrefixOf (components path)

/-- The segments up to the last one that is a name; segments in reverse order. -/
private def dropTrailing : List String → List String
  | [] => []
  | s :: rest => if s = "" ∨ s = "." then dropTrailing rest else s :: rest

/-- The path without its last component, as it is written. -/
def parent (path : String) : String :=
  let above := (dropTrailing (segments path).reverse).tail
  match dropTrailing above with
  | [] => if isAbsolute path then "/" else ""
  | kept => "/".intercalate kept.reverse

end FilePath

end FlowCheck
