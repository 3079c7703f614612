import TilingHeader.Command.Display
import TilingHeader.Proofs.Generation.Assembly
import TilingHeader.Proofs.Generation.Failure

namespace TilingHeader

/-! A command and the run it asks for.  The settings of a command are sound, so
that a run does not stop at them, and what is ignored is only told. -/

open FileTree

namespace Header

variable {files : FileSystem} {settings : Settings} {root destination : String}

theorem assemble_failed (valid : settings.Valid) {failure : Failure}
    (failed : (assemble files settings root).outcome = .error failure) :
    ∃ path ∈ Discovery.locate files settings root, failure.At path := by
  rw [outcome_assemble_of_valid valid, outcome_ofSources_of_valid valid,
    Logged.map_eq_error_iff] at failed
  exact Description.compileFiles_failed failed

theorem generate_ne_config (valid : settings.Valid) (cause : ConfigError) :
    (generate files settings root destination).2.outcome ≠
      .error (.config cause) := by
  intro failed
  cases assembled : (assemble files settings root).outcome with
  | error failure =>
      rw [generate_of_error assembled] at failed
      obtain ⟨_, _, there⟩ := assemble_failed valid failed
      cases there
  | ok header =>
      rw [(generate_of_ok assembled).2, Logged.map_eq_error_iff] at failed
      obtain ⟨_, _, other⟩ := (persist_failed failed).1
      cases other

end Header

namespace Command

namespace Arguments

variable {arguments : Arguments} {files : FileSystem}

theorem settings_of_load {settings : Settings}
    (loaded : Settings.load files arguments.config = .ok settings) :
    arguments.settings files =
      .ok (if arguments.lenient then { settings with strict := false }
        else settings) := by
  rw [Arguments.settings, loaded]
  rfl

theorem settings_of_load_error {cause : ConfigError}
    (failed : Settings.load files arguments.config = .error cause) :
    arguments.settings files = .error cause := by
  rw [Arguments.settings, failed]
  rfl

theorem valid_of_settings {settings : Settings}
    (given : arguments.settings files = .ok settings) : settings.Valid := by
  cases loaded : Settings.load files arguments.config with
  | error cause =>
      rw [settings_of_load_error loaded] at given
      cases given
  | ok found =>
      rw [settings_of_load loaded] at given
      have valid := Settings.valid_of_load loaded
      cases given
      split
      · exact valid.setStrict false
      · exact valid

theorem execute_of_error {cause : ConfigError}
    (failed : arguments.settings files = .error cause) :
    (arguments.execute files).1 = files ∧
      (arguments.execute files).2.outcome = .error (.config cause) := by
  rw [execute, failed]
  exact ⟨rfl, rfl⟩

theorem execute_of_ok {settings : Settings}
    (given : arguments.settings files = .ok settings) :
    (arguments.execute files).1 =
        (Header.generate files settings arguments.source
          arguments.destination).1 ∧
      (arguments.execute files).2.outcome =
        (Header.generate files settings arguments.source
          arguments.destination).2.outcome.mapError
            (.generation arguments.destination) := by
  rw [execute, given]
  dsimp only
  cases Header.generate files settings arguments.source
      arguments.destination with
  | mk after generated =>
      cases generated with
      | mk notices outcome =>
          refine ⟨rfl, ?_⟩
          cases outcome with
          | error cause => rfl
          | ok header => rfl

theorem execute_ne_generation_config (destination : String)
    (cause : ConfigError) :
    (arguments.execute files).2.outcome ≠
      .error (.generation destination (.config cause)) := by
  intro failed
  cases given : arguments.settings files with
  | error other =>
      rw [(execute_of_error given).2] at failed
      cases failed
  | ok settings =>
      rw [(execute_of_ok given).2, Logged.mapError_eq_error_iff] at failed
      obtain ⟨other, generated, other_eq⟩ := failed
      cases other_eq
      exact Header.generate_ne_config (valid_of_settings given) cause generated

/-- The arguments less what is ignored. -/
def essential (arguments : Arguments) : Arguments :=
  { arguments with extras := [] }

theorem execute_essential (arguments : Arguments) (files : FileSystem) :
    arguments.execute files =
      ((arguments.essential.execute files).1,
        Logged.noteAll arguments.openingNotices >>= fun _ =>
          (arguments.essential.execute files).2) := by
  have same : arguments.essential.settings files = arguments.settings files :=
    rfl
  rw [execute, execute, same]
  cases arguments.settings files with
  | error cause => rfl
  | ok settings => rfl

end Arguments

theorem Ending.status_ran_eq_zero_iff (result : Logged Notice Stop Header) :
    (Ending.ran result).status = 0 ↔
      ∃ header, result.outcome = .ok header := by
  rw [Ending.status]
  cases result.outcome with
  | error stop => exact iff_of_false nofun nofun
  | ok header => exact iff_of_true rfl ⟨header, rfl⟩

theorem perform_of_read {words : List String} {arguments : Arguments}
    (parsed : Request.read words = .ok (.run arguments)) (files : FileSystem) :
    perform files words =
      ((arguments.execute files).1, .ran (arguments.execute files).2) := by
  rw [perform, parsed]

/-- A command that is understood makes the header with the settings of its file,
or with the defaults, and with leniency if it asks for it.  It succeeds just if
that does and leaves the same tree, and such settings are no cause of failure.
What it ignores and how much of its log is shown are seen in the log only. -/
theorem perform_generates {files : FileSystem} {words : List String}
    {arguments : Arguments}
    (parsed : Request.read words = .ok (.run arguments)) :
    (∀ cause, Settings.load files arguments.config = .error cause →
        (perform files words).1 = files ∧
          (perform files words).2.status ≠ 0) ∧
      (∀ settings effective,
        Settings.load files arguments.config = .ok settings →
        effective = (if arguments.lenient then
          { settings with strict := false } else settings) →
        (perform files words).1 =
            (Header.generate files effective arguments.source
              arguments.destination).1 ∧
          ((perform files words).2.status = 0 ↔
            ∃ header, (Header.generate files effective arguments.source
              arguments.destination).2.outcome = .ok header) ∧
          ∀ cause, (Header.generate files effective arguments.source
            arguments.destination).2.outcome ≠ .error (.config cause)) ∧
      (∀ result destination cause, (perform files words).2 = .ran result →
        result.outcome ≠ .error (.generation destination (.config cause))) ∧
      ∃ told, ∀ setting other_setting other_words extras,
        Request.read other_words =
            .ok (.run { arguments with extras := extras }) →
          (perform files other_words).1 = (perform files words).1 ∧
            (perform files other_words).2.display other_setting =
              { (perform files words).2.display setting with
                log := (Verbosity.ofSetting other_setting).lines
                  (({ arguments with extras := extras } :
                    Arguments).openingNotices ++ told) } := by
  rw [perform_of_read parsed]
  refine ⟨?_, ?_, ?_, ?_⟩
  · intro cause failed
    obtain ⟨unchanged, stopped⟩ :=
      Arguments.execute_of_error (Arguments.settings_of_load_error failed)
    refine ⟨unchanged, (Ending.status_ran_eq_zero_iff _).not.mpr ?_⟩
    rintro ⟨header, succeeded⟩
    rw [stopped] at succeeded
    cases succeeded
  · rintro settings effective loaded rfl
    have given := Arguments.settings_of_load loaded
    obtain ⟨after_eq, outcome_eq⟩ := Arguments.execute_of_ok given
    refine ⟨after_eq, ?_,
      Header.generate_ne_config (Arguments.valid_of_settings given)⟩
    rw [Ending.status_ran_eq_zero_iff, outcome_eq]
    simp only [Logged.mapError_eq_ok_iff]
  · rintro result destination cause ⟨⟩
    exact Arguments.execute_ne_generation_config destination cause
  · refine ⟨(arguments.essential.execute files).2.notices, ?_⟩
    intro setting other_setting other_words extras other_parsed
    -- Both commands come down to the same essential arguments.
    rw [perform_of_read other_parsed, Arguments.execute_essential arguments,
      Arguments.execute_essential { arguments with extras := extras }]
    exact ⟨rfl, rfl⟩

/-- Settings in a file, and a description that only tolerant reading lets pass. -/
def looseTree : FileSystem :=
  ⟨.file "gen.toml" (.ofText "pack-alignment = 4\nstrict = true")
    (.folder "src"
      (.file "a_tilingdata.h" (.ofText "TILING_DATA_FIELD_DEF(T, x)") .empty)
      .empty), []⟩

def looseSettings : Settings := { packAlignment := 4, strict := false }

def looseHeader : Header where
  text := looseSettings.prologue ++ "    T x = 0;\n" ++ Settings.epilogue
  sources := ["src/a_tilingdata.h"]

def looseWords : List String :=
  ["src", "--config=gen.toml", "out.h", "--lenient"]

def looseArguments : Arguments where
  source := "src"
  destination := "out.h"
  config := some "gen.toml"
  lenient := true

theorem perform_generates_loose :
    Request.read looseWords = .ok (.run looseArguments) ∧
      Settings.load looseTree looseArguments.config =
        .ok { looseSettings with strict := true } ∧
      (Header.generate looseTree looseSettings "src" "out.h").2.outcome =
        .ok looseHeader ∧
      (perform looseTree looseWords).2.status = 0 ∧
      (perform looseTree (looseWords ++ ["x", "--help"])).1 =
        (Header.generate looseTree looseSettings "src" "out.h").1 ∧
      ∃ log,
        (perform looseTree (looseWords ++ ["x", "--help"])).2.display
            (some "off") =
          { (perform looseTree looseWords).2.display none with log := log } := by
  have parsed : Request.read looseWords = .ok (.run looseArguments) := by
    decide +kernel
  have parsed_more : Request.read (looseWords ++ ["x", "--help"]) =
      .ok (.run { looseArguments with extras := ["x", "--help"] }) := by
    decide +kernel
  have loaded : Settings.load looseTree looseArguments.config =
      .ok { looseSettings with strict := true } := by
    decide +kernel
  have generated :
      (Header.generate looseTree looseSettings "src" "out.h").2.outcome =
        .ok looseHeader := by
    decide +kernel
  obtain ⟨_, run, _, _, others⟩ :=
    @perform_generates looseTree looseWords looseArguments parsed
  obtain ⟨after_eq, status_iff, _⟩ := run _ looseSettings loaded rfl
  obtain ⟨same_tree, display_eq⟩ := others none (some "off") _ _ parsed_more
  exact ⟨parsed, loaded, generated, status_iff.mpr ⟨looseHeader, generated⟩,
    same_tree.trans after_eq, _, display_eq⟩

end Command

end TilingHeader
