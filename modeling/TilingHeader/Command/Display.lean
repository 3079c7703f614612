import TilingHeader.Command.Ending
import TilingHeader.Command.Verbosity

namespace TilingHeader.Command

/-! What is seen of a command. -/

structure Display where
  log : List String
  /-- What is said to one who asked. -/
  answer : String
  /-- What is said of a failure, beside the log. -/
  report : String
  status : Nat
  deriving DecidableEq, Repr

/-- The log shows as much of the notices as its setting admits. -/
def Ending.display (setting : Option String) (ending : Ending) : Display where
  log := (Verbosity.ofSetting setting).lines ending.notices
  answer := ending.answer
  report := ending.report
  status := ending.status

end TilingHeader.Command
