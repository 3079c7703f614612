import TilingHeader.FileTree.AccessError
import TilingHeader.Text.Quoted
import TilingHeader.Warning

namespace TilingHeader

/-! What a run tells about itself. -/

open FileTree (AccessError)

inductive Level where
  | debug
  | info
  | warn
  deriving DecidableEq, Repr

def Level.name : Level → String
  | .debug => "DEBUG"
  | .info => "INFO"
  | .warn => "WARN"

inductive Notice where
  | warning (cause : Warning)
  | reading (path : String)
  | missing (path : String)
  | noRoot (path : String)
  | closedFolder (path : String) (cause : AccessError)
  /-- How many descriptions were found below a path. -/
  | found (count : Nat) (path : String)
  | gathered (count : Nat) (path : String)
  | wrote (size : Nat) (path : String)
  | ignoring (arguments : List String)
  | starting (source destination : String)
  | finished (destination : String) (count : Nat)
  deriving DecidableEq, Repr

namespace Notice

def level : Notice → Level
  | .warning _ => .warn
  | .reading _ => .info
  | .missing _ => .warn
  | .noRoot _ => .debug
  | .closedFolder _ _ => .warn
  | .found _ _ => .debug
  | .gathered _ _ => .info
  | .wrote _ _ => .debug
  | .ignoring _ => .warn
  | .starting _ _ => .info
  | .finished _ _ => .info

def message : Notice → String
  | .warning cause => cause.message
  | .reading path => "generating tiling definitions from " ++ path
  | .missing path =>
      "no tiling description file at " ++ path ++ ", skipping"
  | .noRoot path =>
      "Locator: source root " ++ Text.quoted path ++
        " does not exist, skipping"
  | .closedFolder path cause =>
      "Locator: cannot read " ++ Text.quoted path ++ ": " ++ cause.message ++
        ", skipping"
  | .found count path =>
      "Locator: found " ++ count.repr ++ " description files under " ++
        Text.quoted path
  | .gathered count path =>
      "found " ++ count.repr ++ " tiling description files under " ++ path
  | .wrote size path => "wrote " ++ size.repr ++ " bytes to " ++ path
  | .ignoring arguments =>
      "ignoring extra arguments: " ++ " ".intercalate arguments
  | .starting source destination =>
      "source root: " ++ source ++ ", destination: " ++ destination
  | .finished destination count =>
      "wrote " ++ destination ++ " (" ++ count.repr ++ " description files)"

def line (notice : Notice) : String :=
  notice.level.name ++ " " ++ notice.message

end Notice

end TilingHeader
