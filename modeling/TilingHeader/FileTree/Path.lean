import TilingHeader.FileTree.Content

namespace TilingHeader.FileTree

/-! Paths as they are written: the steps that one stands for, its parents, and
the path of an entry of a directory. -/

inductive Step where
  | stay
  | up
  | down (name : String)
  /-- A slash at the end: what has been reached is to be a directory. -/
  | settle
  deriving DecidableEq, Repr

structure Route where
  absolute : Bool
  steps : List Step
  deriving DecidableEq, Repr

namespace Step

def ofPiece? (piece : List Char) : Option Step :=
  if piece = [] then none
  else if piece = ['.'] then some .stay
  else if piece = ['.', '.'] then some .up
  else some (.down (String.ofList piece))

end Step

def Route.ofText (text : List Char) : Route where
  absolute := text.head? == some '/'
  steps :=
    (text.splitOn '/').filterMap Step.ofPiece? ++
      if text.getLast? = some '/' then [.settle] else []

namespace Path

/-- A piece that does not lengthen a path: nothing between two slashes, or a
dot behind one. -/
def isIdle (piece : List Char) : Bool :=
  piece == [] || piece == ['.']

/-- The text of a path from its first piece and the others in reverse. -/
def ofPieces (first : List Char) (others : List (List Char)) : String :=
  match others.dropWhile isIdle with
  | [] => if first = [] then "/" else String.ofList first
  | last :: rest =>
      String.ofList (['/'].intercalate (first :: (last :: rest).reverse))

def parentsOfPieces (first : List Char) : List (List Char) → List String
  | [] => if first = [] then [] else [""]
  | last :: outer =>
      if isIdle last then parentsOfPieces first outer
      else ofPieces first outer :: parentsOfPieces first outer

/-- The parent of a path, the parent of that, and so on.  The parent of a bare
name is the empty path; the top and the empty path have none. -/
def parents (path : String) : List String :=
  match path.toList.splitOn '/' with
  | [] => []
  | first :: others => parentsOfPieces first others.reverse

def parent? (path : String) : Option String :=
  (parents path).head?

def join (path name : String) : String :=
  if path.toList.getLast? = some '/' then path ++ name
  else path ++ "/" ++ name

/-- The bytes by which paths are ordered. -/
def bytes (path : String) : List UInt8 :=
  Content.ofText path

def le (first second : String) : Bool :=
  decide (bytes first ≤ bytes second)

end Path

end TilingHeader.FileTree
