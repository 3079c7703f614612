import TilingHeader.FileTree.FileSystem
import TilingHeader.Settings.Document

namespace TilingHeader

/-! Settings from a file. -/

open FileTree (AccessError FileSystem)

inductive ConfigError where
  | unreadable (path : String) (cause : AccessError)
  /-- The text is no TOML document. -/
  | unparsable (path : String)
  /-- A key or a value of the document does not fit. -/
  | unfitting (path report : String)
  | unsound (defect : Settings.Defect)
  deriving DecidableEq, Repr

def ConfigError.message : ConfigError → String
  | .unreadable path cause => "cannot read " ++ path ++ ": " ++ cause.message
  | .unparsable path => "cannot parse " ++ path
  | .unfitting path report => "cannot parse " ++ path ++ ": " ++ report
  | .unsound defect => defect.message

namespace Settings

def check (settings : Settings) : Except ConfigError Unit :=
  match settings.defect? with
  | some defect => .error (.unsound defect)
  | none => .ok ()

theorem check_eq_ok_iff (settings : Settings) :
    settings.check = .ok () ↔ settings.Valid := by
  rw [← defect?_eq_none_iff, check]
  cases settings.defect? <;> simp

/-- The settings that a document says, if it fits and they are sound. -/
def ofText (path text : String) : Except ConfigError Settings :=
  match Toml.Document.read? text with
  | none => .error (.unparsable path)
  | some document =>
      match ofDocument document with
      | .error mismatch => .error (.unfitting path (report text mismatch))
      | .ok settings => do
          settings.check
          pure settings

/-- Without a path, the defaults. -/
def load (files : FileSystem) : Option String → Except ConfigError Settings
  | none => .ok {}
  | some path =>
      match files.readText path with
      | .error cause => .error (.unreadable path cause)
      | .ok text => ofText path text

theorem valid_of_ofText {path text : String} {settings : Settings}
    (given : ofText path text = .ok settings) : settings.Valid := by
  rw [ofText] at given
  cases read : Toml.Document.read? text with
  | none =>
      rw [read] at given
      cases given
  | some document =>
      rw [read] at given
      dsimp only at given
      cases fitted : ofDocument document with
      | error mismatch =>
          rw [fitted] at given
          cases given
      | ok found =>
          rw [fitted] at given
          change (found.check.bind fun _ => .ok found) = _ at given
          cases checked : found.check with
          | error cause =>
              rw [checked] at given
              cases given
          | ok done =>
              rw [checked] at given
              cases given
              exact (check_eq_ok_iff _).mp checked

theorem valid_of_load {files : FileSystem} {path : Option String}
    {settings : Settings} (loaded : load files path = .ok settings) :
    settings.Valid := by
  cases path with
  | none =>
      cases loaded
      exact valid_default
  | some path =>
      rw [load] at loaded
      cases read : files.readText path with
      | error cause =>
          rw [read] at loaded
          cases loaded
      | ok text =>
          rw [read] at loaded
          exact valid_of_ofText loaded

end Settings

end TilingHeader
