import TilingHeader.Description
import TilingHeader.Discovery
import TilingHeader.Settings.Load

namespace TilingHeader

/-! Making a header: the structs of all descriptions, one after the other,
between the prologue and the epilogue.  The text is complete before the file is
opened, so a failed run leaves no half of one. -/

open FileTree

inductive Failure where
  | config (cause : ConfigError)
  | malformed (path : String) (fault : Fault)
  | read (path : String) (cause : AccessError)
  | persistence (path : String) (cause : AccessError)
  deriving DecidableEq, Repr

namespace Failure

def message : Failure → String
  | .config cause => "configuration error: " ++ cause.message
  | .malformed path fault => path ++ ": " ++ fault.message
  | .read path cause =>
      "failed to read description file " ++ path ++ ": " ++ cause.message
  | .persistence path cause =>
      "failed to write generated header " ++ path ++ ": " ++ cause.message

/-- What lies under the failure. -/
def source? : Failure → Option String
  | .config _ => none
  | .malformed _ fault => some fault.message
  | .read _ cause => some cause.message
  | .persistence _ cause => some cause.message

end Failure

structure Header where
  text : String
  /-- The paths of the descriptions, in the order of their structs. -/
  sources : List String
  deriving DecidableEq, Repr

abbrev Run := Logged Notice Failure

namespace Description

/-- The structs of the description at a path.  None if there is no file. -/
def compileFile (files : FileSystem) (settings : Settings) (path : String) :
    Run String :=
  match files.readText path with
  | .error .noEntry => do
      .note (.missing path)
      pure ""
  | .error cause => .fail (.read path cause)
  | .ok source => do
      .note (.reading path)
      ((compile settings source).mapNotices .warning).mapFailure
        (.malformed path)

def compileFiles (files : FileSystem) (settings : Settings) :
    List String → Run String
  | [] => pure ""
  | path :: rest => do
      let text ← compileFile files settings path
      let others ← compileFiles files settings rest
      pure (text ++ others)

end Description

namespace Header

def validate (settings : Settings) : Run Unit :=
  Logged.ofExcept (settings.check.mapError .config)

def ofSources (files : FileSystem) (settings : Settings)
    (sources : List String) : Run Header := do
  validate settings
  let structs ← Description.compileFiles files settings sources
  pure ⟨settings.prologue ++ structs ++ Settings.epilogue, sources⟩

/-- The header of all descriptions below a root. -/
def assemble (files : FileSystem) (settings : Settings) (root : String) :
    Run Header := do
  validate settings
  let sources ← Discovery.search files settings root
  .note (.gathered sources.length root)
  ofSources files settings sources

/-- The directory that a file is to be in is made first, unless the path is a
bare name. -/
def makeParent (files : FileSystem) (destination : String) :
    FileSystem × Except Failure Unit :=
  match Path.parent? destination with
  | none => (files, .ok ())
  | some parent =>
      if parent = "" then (files, .ok ())
      else
        let (grown, made) := files.makeDirectories parent
        (grown, made.mapError (.persistence parent))

/-- Writes a text to its destination, in place of what is there. -/
def persist (files : FileSystem) (destination text : String) :
    FileSystem × Run Unit :=
  match makeParent files destination with
  | (grown, .error failure) => (grown, .fail failure)
  | (grown, .ok ()) =>
      match grown.writeText destination text with
      | .error cause => (grown, .fail (.persistence destination cause))
      | .ok written => (written, .note (.wrote text.utf8ByteSize destination))

/-- Assembles the header of a root and writes it. -/
def generate (files : FileSystem) (settings : Settings)
    (root destination : String) : FileSystem × Run Header :=
  let assembled := assemble files settings root
  match assembled.outcome with
  | .error _ => (files, assembled)
  | .ok header =>
      let (after, written) := persist files destination header.text
      (after, do
        let header ← assembled
        written
        pure header)

end Header

end TilingHeader
