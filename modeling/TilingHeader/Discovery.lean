import TilingHeader.FileTree.FileSystem
import TilingHeader.Logged
import TilingHeader.Notice
import TilingHeader.Settings

namespace TilingHeader.Discovery

/-! Finding the descriptions below a root.  Directories are searched as they
stand in the tree; a link to one is not followed, a link to a file counts as the
file.  The result is ordered by the bytes of the paths. -/

open FileTree

def HasSuffix (suffix name : String) : Prop :=
  suffix.toList <:+ name.toList

instance (suffix name : String) : Decidable (HasSuffix suffix name) :=
  inferInstanceAs (Decidable (_ <:+ _))

/-- A path that is too long cannot be listed. -/
def IsListable (path : String) : Prop :=
  path.utf8ByteSize < FileTree.pathLimit

instance (path : String) : Decidable (IsListable path) :=
  inferInstanceAs (Decidable (_ < _))

def select (files : FileSystem) (suffix name path : String) : List String :=
  if HasSuffix suffix name ∧ files.isFile path then [path] else []

/-- The descriptions in a directory and below, in the order of its entries. -/
def below (files : FileSystem) (suffix path : String) :
    Directory → List String
  | .empty => []
  | .file name _ others =>
      select files suffix name (Path.join path name) ++
        below files suffix path others
  | .link name _ others =>
      select files suffix name (Path.join path name) ++
        below files suffix path others
  | .folder name inside others =>
      (if IsListable (Path.join path name) then
        below files suffix (Path.join path name) inside
      else []) ++ below files suffix path others

/-- The directories that are passed over. -/
def closedBelow (path : String) : Directory → List Notice
  | .empty => []
  | .file _ _ others => closedBelow path others
  | .link _ _ others => closedBelow path others
  | .folder name inside others =>
      (if IsListable (Path.join path name) then
        closedBelow (Path.join path name) inside
      else [.closedFolder (Path.join path name) .nameTooLong]) ++
        closedBelow path others

/-- The descriptions below a root, each once, in the order of their paths; none
if the root is no directory. -/
def locate (files : FileSystem) (settings : Settings) (root : String) :
    List String :=
  match files.directory? root with
  | none => []
  | some inside =>
      (below files settings.suffix root inside).mergeSort Path.le

def notices (files : FileSystem) (settings : Settings) (root : String) :
    List Notice :=
  match files.directory? root with
  | none => [.noRoot root]
  | some inside =>
      closedBelow root inside ++
        [.found (locate files settings root).length root]

def search (files : FileSystem) (settings : Settings) (root : String) :
    Logged Notice ε (List String) :=
  ⟨notices files settings root, .ok (locate files settings root)⟩

end TilingHeader.Discovery
