import BindingGen.Text.Blank

/-!
# Paths as texts

A path is kept as it was written.  It is cut into segments at its slashes; a segment counts when
it is not empty and, except in front of a relative path, not a single dot.  Joining and going to
the parent work on the text alone and never look at files.
-/

namespace BindingGen
namespace Path

def segments (path : String) : List (List Char) :=
  Text.splitWhere (· == '/') path.toList

def isAbsolute (path : String) : Bool :=
  path.toList.head? == some '/'

/-- The path of something below a directory; an absolute path stands for itself. -/
def join (directory path : String) : String :=
  if isAbsolute path || directory.isEmpty then path
  else if directory.toList.getLast? == some '/' then directory ++ path
  else directory ++ "/" ++ path

/-- Drops the segments at the end of a path that do not count.  The segments are given from the
last to the first. -/
def dropSkipped : List (List Char) → List (List Char)
  | [] => []
  | [segment] => if segment.isEmpty then [] else [segment]
  | segment :: rest =>
    if segment.isEmpty || segment == ['.'] then dropSkipped rest else segment :: rest

/-- The text of segments that are given from the last to the first. -/
def ofReversed (absolute : Bool) (segments : List (List Char)) : String :=
  if segments.isEmpty then if absolute then "/" else ""
  else String.ofList (['/'].intercalate segments.reverse)

/-- The path without its last segment that counts; `none` when there is no such segment. -/
def parent? (path : String) : Option String :=
  match dropSkipped (segments path).reverse with
  | [] => none
  | _ :: rest => some (ofReversed (isAbsolute path) (dropSkipped rest))

/-- The parents of a path from the nearest to the farthest; `fuel` bounds their number. -/
def parentsWithin : (fuel : Nat) → String → List String
  | 0, _ => []
  | fuel + 1, path =>
    match parent? path with
    | none => []
    | some parent => parent :: parentsWithin fuel parent

/-- A path and its parents, from the nearest to the farthest. -/
def ancestors (path : String) : List String :=
  path :: parentsWithin (segments path).length path

/-- The names that a path leads through, without empty ones. -/
def names (path : String) : List String :=
  ((segments path).filter fun segment => !segment.isEmpty).map String.ofList

/-- Whether a path ends in a slash, which only a directory may have. -/
def endsInSlash (path : String) : Bool :=
  path.toList.getLast? == some '/'

end Path
end BindingGen
