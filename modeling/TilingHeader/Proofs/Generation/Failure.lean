import TilingHeader.Generation
import TilingHeader.Proofs.FileTree.Growth
import TilingHeader.Proofs.Logged

namespace TilingHeader.Header

/-! What a run that fails leaves behind.  Before the header is complete nothing
is touched; after that, what can be left is directories on the way to the
destination, and no file. -/

open FileTree

variable {files : FileSystem}

/-- The directories that a destination asks for, from the inside out. -/
def parentPaths (destination : String) : List String :=
  match Path.parent? destination with
  | none => []
  | some parent => parent :: Path.parents parent

theorem grownAlong_makeParent (files : FileSystem) (destination : String) :
    files.GrownAlong (makeParent files destination).1
      (parentPaths destination) := by
  rw [makeParent, parentPaths]
  cases Path.parent? destination with
  | none => exact .refl files []
  | some parent =>
      dsimp only
      split
      · exact .refl files _
      · exact files.grownAlong_makeDirectories parent

theorem persistence_of_makeParent_error {destination : String}
    {failure : Failure}
    (failed : (makeParent files destination).2 = .error failure) :
    ∃ path cause, failure = .persistence path cause := by
  rw [makeParent] at failed
  cases parent_eq : Path.parent? destination with
  | none =>
      rw [parent_eq] at failed
      cases failed
  | some parent =>
      rw [parent_eq] at failed
      dsimp only at failed
      split at failed
      · cases failed
      · obtain ⟨cause, _, rfl⟩ :=
          (Logged.mapError_eq_error_iff (Failure.persistence parent) _ _).mp
            failed
        exact ⟨parent, cause, rfl⟩

theorem persist_failed {destination text : String} {failure : Failure}
    (failed : (persist files destination text).2.outcome = .error failure) :
    (∃ path cause, failure = .persistence path cause) ∧
      files.GrownAlong (persist files destination text).1
        (parentPaths destination) := by
  have grown_along := grownAlong_makeParent files destination
  rw [persist] at failed ⊢
  cases outcome : makeParent files destination with
  | mk grown made =>
      rw [outcome] at failed grown_along
      cases made with
      | error cause =>
          have parent_failed : (makeParent files destination).2 =
              .error failure := by
            rw [outcome]
            exact failed
          exact ⟨persistence_of_makeParent_error parent_failed, grown_along⟩
      | ok done =>
          dsimp only at failed ⊢
          cases written : grown.writeText destination text with
          | ok after =>
              rw [written] at failed
              cases failed
          | error cause =>
              rw [written] at failed
              cases failed
              exact ⟨⟨destination, cause, rfl⟩, grown_along⟩

variable {settings : Settings} {root destination : String}

theorem generate_of_error {failure : Failure}
    (failed : (assemble files settings root).outcome = .error failure) :
    generate files settings root destination =
      (files, assemble files settings root) := by
  simp only [generate, failed]

theorem generate_of_ok {header : Header}
    (assembled : (assemble files settings root).outcome = .ok header) :
    (generate files settings root destination).1 =
        (persist files destination header.text).1 ∧
      (generate files settings root destination).2.outcome =
        (persist files destination header.text).2.outcome.map
          fun _ => header := by
  constructor
  · simp only [generate, assembled]
  · simp only [generate, assembled]
    rw [Logged.outcome_bind_of_ok assembled, Logged.outcome_bind]
    cases (persist files destination header.text).2.outcome <;> rfl

theorem generate_failed {failure : Failure}
    (failed : (generate files settings root destination).2.outcome =
      .error failure) :
    (generate files settings root destination).1 = files ∨
      (∃ path cause, failure = .persistence path cause) ∧
        files.GrownAlong (generate files settings root destination).1
          (parentPaths destination) := by
  cases assembled : (assemble files settings root).outcome with
  | error cause => exact .inl (congrArg Prod.fst (generate_of_error assembled))
  | ok header =>
      obtain ⟨after_eq, outcome_eq⟩ := generate_of_ok assembled
      rw [outcome_eq, Logged.map_eq_error_iff] at failed
      rw [after_eq]
      exact .inr (persist_failed failed)

/-- A failed run changes nothing if it fails before it writes.  If it fails in
writing, every entry stays as it was, and what is new is directories on the path
of the destination's parent. -/
theorem failed_generate_keeps_files {files : FileSystem} {settings : Settings}
    {root destination : String} {failure : Failure}
    (failed : (generate files settings root destination).2.outcome =
      .error failure) :
    ((∀ path cause, failure ≠ .persistence path cause) →
        (generate files settings root destination).1 = files) ∧
      ((∃ path cause, failure = .persistence path cause) →
        (generate files settings root destination).1.current =
            files.current ∧
          (∀ location node, files.node? location = some node →
            (generate files settings root destination).1.node? location =
              some node) ∧
          ∀ location node, files.node? location = none →
            (generate files settings root destination).1.node? location =
                some node →
              node = .folder ∧
                ∃ path ∈ parentPaths destination,
                  (generate files settings root destination).1.locate .use
                    path = .ok (.taken location)) := by
  rcases generate_failed failed with unchanged | ⟨persistence, grown⟩
  · refine ⟨fun _ => unchanged, fun _ => ?_⟩
    rw [unchanged]
    have grown := FileSystem.GrownAlong.refl files (parentPaths destination)
    exact ⟨grown.current_eq, grown.kept, grown.added⟩
  · constructor
    · intro before_writing
      obtain ⟨path, cause, failure_eq⟩ := persistence
      exact absurd failure_eq (before_writing path cause)
    · exact fun _ => ⟨grown.current_eq, grown.kept, grown.added⟩

/-- A file where a directory is asked for. -/
def blockedTree : FileSystem :=
  ⟨.file "f" [] .empty, []⟩

theorem failed_generate_keeps_files_blocked :
    (generate blockedTree {} "src" "n/../f/sub/out.h").2.outcome =
        .error (.persistence "n/../f/sub" .alreadyExists) ∧
      (generate blockedTree {} "src" "n/../f/sub/out.h").1.node? ["f"] =
        some (.file []) ∧
      ∃ path ∈ parentPaths "n/../f/sub/out.h",
        (generate blockedTree {} "src" "n/../f/sub/out.h").1.locate .use path =
          .ok (.taken ["n"]) := by
  have failed : (generate blockedTree {} "src" "n/../f/sub/out.h").2.outcome =
      .error (.persistence "n/../f/sub" .alreadyExists) := by
    decide +kernel
  obtain ⟨_, kept, added⟩ :=
    (failed_generate_keeps_files failed).2 ⟨_, _, rfl⟩
  exact ⟨failed, kept ["f"] (.file []) rfl,
    (added ["n"] .folder rfl (by decide +kernel)).2⟩

end TilingHeader.Header
