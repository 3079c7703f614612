import TilingHeader.Notice
import TilingHeader.Text.Terminal

namespace TilingHeader.Command

/-! How much of what a run tells is shown. -/

inductive Verbosity where
  | silent
  | upTo (level : Level)
  deriving DecidableEq, Repr

namespace Verbosity

/-- The level by name, in capitals or small letters.  No notice is an error, and
none is below debug. -/
def ofWord? (word : String) : Option Verbosity :=
  match word.toLower with
  | "off" | "error" => some .silent
  | "warn" => some (.upTo .warn)
  | "info" => some (.upTo .info)
  | "debug" | "trace" => some (.upTo .debug)
  | _ => none

def ofSetting (setting : Option String) : Verbosity :=
  (setting.bind ofWord?).getD (.upTo .info)

def admits : Verbosity → Level → Bool
  | .silent, _ => false
  | .upTo .debug, _ => true
  | .upTo .info, level => level != .debug
  | .upTo .warn, level => level == .warn

/-- The notices that are shown, in order. -/
def filter (verbosity : Verbosity) (notices : List Notice) : List Notice :=
  notices.filter fun notice => verbosity.admits notice.level

/-- The lines of the log. -/
def lines (verbosity : Verbosity) (notices : List Notice) : List String :=
  (verbosity.filter notices).map fun notice => Text.disarmed notice.line

end Verbosity

end TilingHeader.Command
