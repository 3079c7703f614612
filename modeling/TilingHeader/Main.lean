import TilingHeader.Command.Display
import TilingHeader.Command.Snapshot

/-! The command: words in, a header and a log out. -/

namespace TilingHeader.Command

def runCommand (words : List String) : IO Ending := do
  let arguments := Request.arguments? words
  let before ← snapshot arguments
  let (after, ending) := perform before words
  store arguments before after ending.header?
  return ending

def showDisplay (display : Display) : IO Unit := do
  for line in display.log do
    IO.eprintln line
  IO.print display.answer
  IO.eprint display.report

end TilingHeader.Command

open TilingHeader.Command

def main (words : List String) : IO UInt32 := do
  let ending ← runCommand words
  let display := ending.display (← IO.getEnv "RUST_LOG")
  showDisplay display
  return display.status.toUInt32
