import TilingHeader.Command.Arguments
import TilingHeader.Generation

namespace TilingHeader.Command

/-! Carrying a command out, and how it ends. -/

open FileTree (FileSystem)

/-- What stopped a command that was understood. -/
inductive Stop where
  | config (cause : ConfigError)
  | generation (destination : String) (cause : Failure)
  deriving DecidableEq, Repr

/-- Indents the lines of a text after its first. -/
def hang (indent text : String) : String :=
  String.ofList <| text.toList.flatMap fun c =>
    if c = '\n' then c :: indent.toList else [c]

namespace Stop

/-- The causes of a failure, numbered if there is more than one. -/
def causes (failure : Failure) : String :=
  match failure.source? with
  | none => "    " ++ hang "    " failure.message
  | some source =>
      "    0: " ++ hang "       " failure.message ++ "\n" ++
        "    1: " ++ hang "       " source

def report : Stop → String
  | .config cause => "Error: " ++ (Failure.config cause).message ++ "\n"
  | .generation destination cause =>
      "Error: generating " ++ destination ++ "\n\nCaused by:\n" ++
        causes cause ++ "\n"

end Stop

namespace Arguments

/-- The settings of the command: those of its file, and leniency if asked. -/
def settings (arguments : Arguments) (files : FileSystem) :
    Except ConfigError Settings := do
  let settings ← Settings.load files arguments.config
  pure (if arguments.lenient then { settings with strict := false }
    else settings)

def openingNotices (arguments : Arguments) : List Notice :=
  if arguments.extras = [] then [] else [.ignoring arguments.extras]

def execute (arguments : Arguments) (files : FileSystem) :
    FileSystem × Logged Notice Stop Header :=
  match arguments.settings files with
  | .error cause =>
      (files, do
        .noteAll arguments.openingNotices
        .fail (.config cause))
  | .ok settings =>
      let (after, generated) :=
        Header.generate files settings arguments.source arguments.destination
      (after, do
        .noteAll arguments.openingNotices
        .note (.starting arguments.source arguments.destination)
        let header ← generated.mapFailure (.generation arguments.destination)
        .note (.finished arguments.destination header.sources.length)
        pure header)

end Arguments

inductive Ending where
  | refused (cause : Refusal)
  | helped
  | ran (result : Logged Notice Stop Header)

namespace Ending

def status : Ending → Nat
  | .refused _ => 2
  | .helped => 0
  | .ran result => if result.outcome.isOk then 0 else 1

def notices : Ending → List Notice
  | .ran result => result.notices
  | _ => []

def header? : Ending → Option Header
  | .ran result => result.outcome.toOption
  | _ => none

/-- What is said to one who asked. -/
def answer : Ending → String
  | .helped => help
  | _ => ""

/-- What is said of a failure, beside the notices. -/
def report : Ending → String
  | .refused cause => "error: " ++ cause.message ++ "\n"
  | .helped => ""
  | .ran result =>
      match result.outcome with
      | .ok _ => ""
      | .error stop => stop.report

end Ending

/-- Carries out the words of a command on a tree of files. -/
def perform (files : FileSystem) (words : List String) : FileSystem × Ending :=
  match Request.read words with
  | .error refusal => (files, .refused refusal)
  | .ok .help => (files, .helped)
  | .ok (.run arguments) =>
      let (after, result) := arguments.execute files
      (after, .ran result)

end TilingHeader.Command
