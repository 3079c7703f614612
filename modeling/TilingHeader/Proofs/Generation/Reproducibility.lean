import TilingHeader.Generation
import TilingHeader.Proofs.Discovery.Relative
import TilingHeader.Proofs.Logged

namespace TilingHeader

/-! Headers of two roots, in one tree or in two.  If the same descriptions are
found below both, the same happens to both headers. -/

open FileTree Discovery

/-- Failures that are the same but for the root that a path starts from. -/
inductive Failure.Matches (root other_root : String)
    (places : List (List String)) : Failure → Failure → Prop
  | config (cause : ConfigError) :
      Matches root other_root places (.config cause) (.config cause)
  | malformed {names : List String} (listed : names ∈ places) (fault : Fault) :
      Matches root other_root places
        (.malformed (Path.descend root names) fault)
        (.malformed (Path.descend other_root names) fault)
  | read {names : List String} (listed : names ∈ places)
      (cause : AccessError) :
      Matches root other_root places
        (.read (Path.descend root names) cause)
        (.read (Path.descend other_root names) cause)

/-- The same value, or failures that are related. -/
inductive Agree {α ε : Type} (related : ε → ε → Prop) :
    Except ε α → Except ε α → Prop
  | ok (value : α) : Agree related (.ok value) (.ok value)
  | error {failure other : ε} (alike : related failure other) :
      Agree related (.error failure) (.error other)

theorem Agree.bind {α β ε : Type} {related : ε → ε → Prop}
    {first other_first : Except ε α} {next other_next : α → Except ε β}
    (here : Agree related first other_first)
    (onward : ∀ value, Agree related (next value) (other_next value)) :
    Agree related (first.bind next) (other_first.bind other_next) := by
  cases here with
  | ok value => exact onward value
  | error alike => exact .error alike

theorem Agree.cases {α ε : Type} {related : ε → ε → Prop}
    {first other : Except ε α} (agree : Agree related first other) :
    (∃ value, first = .ok value ∧ other = .ok value) ∨
      ∃ failure other_failure, first = .error failure ∧
        other = .error other_failure ∧ related failure other_failure := by
  cases agree with
  | ok value => exact .inl ⟨value, rfl, rfl⟩
  | error alike => exact .inr ⟨_, _, rfl, rfl, alike⟩

namespace Description

theorem outcome_compileFile_of_finds {files : FileSystem} {suffix root : String}
    {names : List String} {content : Content}
    (finds : Finds files suffix root names content) (settings : Settings) :
    (compileFile files settings (Path.descend root names)).outcome =
      match content.text? with
      | some source =>
          (compile settings source).outcome.mapError
            (.malformed (Path.descend root names))
      | none => .error (.read (Path.descend root names) .notText) := by
  have text_eq : files.readText (Path.descend root names) =
      match content.text? with
      | some text => .ok text
      | none => .error .notText := by
    rw [FileSystem.readText, finds.readBytes_eq]
    rfl
  rw [compileFile, text_eq]
  cases content.text? with
  | none => rfl
  | some source =>
      rw [Logged.outcome_bind_of_ok (Logged.outcome_note _)]
      rfl

variable {files other : FileSystem} {root other_root suffix : String}
  {places : List (List String)}

theorem compileFile_agree {names : List String} {content : Content}
    (finds : Finds files suffix root names content)
    (other_finds : Finds other suffix other_root names content)
    (listed : names ∈ places) (settings : Settings) :
    Agree (Failure.Matches root other_root places)
      (compileFile files settings (Path.descend root names)).outcome
      (compileFile other settings (Path.descend other_root names)).outcome := by
  rw [outcome_compileFile_of_finds finds,
    outcome_compileFile_of_finds other_finds]
  cases content.text? with
  | none => exact .error (.read listed .notText)
  | some source =>
      dsimp only
      cases (compile settings source).outcome with
      | error fault => exact .error (.malformed listed fault)
      | ok text => exact .ok text

theorem compileFiles_agree
    (found : ∀ names ∈ places, ∃ content,
      Finds files suffix root names content ∧
        Finds other suffix other_root names content)
    (settings : Settings) {some_places : List (List String)}
    (within : some_places ⊆ places) :
    Agree (Failure.Matches root other_root places)
      (compileFiles files settings
        (some_places.map (Path.descend root))).outcome
      (compileFiles other settings
        (some_places.map (Path.descend other_root))).outcome := by
  induction some_places with
  | nil => exact .ok ""
  | cons names rest induction =>
      obtain ⟨listed, rest_within⟩ := List.cons_subset.mp within
      obtain ⟨content, finds, other_finds⟩ := found names listed
      rw [List.map_cons, List.map_cons, compileFiles, compileFiles,
        Logged.outcome_bind, Logged.outcome_bind]
      apply (compileFile_agree finds other_finds listed settings).bind
      intro text
      rw [Logged.outcome_bind, Logged.outcome_bind]
      apply (induction rest_within).bind
      intro others
      exact .ok (text ++ others)

end Description

namespace Header

theorem outcome_assemble (files : FileSystem) (settings : Settings)
    (root : String) :
    (assemble files settings root).outcome =
      (settings.check.mapError Failure.config).bind fun _ =>
        (Description.compileFiles files settings
          (locate files settings root)).outcome.map fun structs =>
            ⟨settings.prologue ++ structs ++ Settings.epilogue,
              locate files settings root⟩ := by
  have searched : (search files settings root : Run (List String)).outcome =
      .ok (locate files settings root) := rfl
  have validated : (validate settings).outcome =
      settings.check.mapError Failure.config := rfl
  rw [assemble, Logged.outcome_bind, validated]
  cases checked : settings.check with
  | error cause => rfl
  | ok done =>
      have passed : (validate settings).outcome = .ok () := by
        rw [validated, checked]
        rfl
      change (search files settings root >>= _ : Run Header).outcome = _
      rw [Logged.outcome_bind_of_ok searched,
        Logged.outcome_bind_of_ok (Logged.outcome_note _), ofSources,
        Logged.outcome_bind_of_ok passed, Logged.outcome_bind]
      rfl

/-- Trees in which the same names lead from the roots to descriptions with the
same content give headers with the same text, from the same places below the
roots and in the same order, or else the same failure, at the same place. -/
theorem assemble_reproducible {files other : FileSystem}
    (wellFormed : files.WellFormed) (other_wellFormed : other.WellFormed)
    (settings : Settings) {root other_root : String}
    (same : ∀ names content,
      Finds files settings.suffix root names content ↔
        Finds other settings.suffix other_root names content) :
    ∃ places : List (List String),
      (∀ names, names ∈ places ↔
        ∃ content, Finds files settings.suffix root names content) ∧
      ((∃ text,
          (assemble files settings root).outcome =
              .ok ⟨text, places.map (Path.descend root)⟩ ∧
            (assemble other settings other_root).outcome =
              .ok ⟨text, places.map (Path.descend other_root)⟩) ∨
        ∃ failure other_failure,
          (assemble files settings root).outcome = .error failure ∧
            (assemble other settings other_root).outcome =
              .error other_failure ∧
            Failure.Matches root other_root places failure other_failure) := by
  obtain ⟨places, places_iff, listed, other_listed⟩ :=
    exists_common_places wellFormed other_wellFormed settings same
  refine ⟨places, places_iff, ?_⟩
  rw [outcome_assemble, outcome_assemble, listed, other_listed]
  cases settings.check with
  | error cause => exact .inr ⟨_, _, rfl, rfl, .config cause⟩
  | ok done =>
      have found : ∀ names ∈ places, ∃ content,
          Finds files settings.suffix root names content ∧
            Finds other settings.suffix other_root names content := by
        intro names member
        obtain ⟨content, finds⟩ := (places_iff names).mp member
        exact ⟨content, finds, (same names content).mp finds⟩
      have agree := Description.compileFiles_agree found settings
        (List.Subset.refl places)
      rcases agree.cases with ⟨structs, compiled, other_compiled⟩ |
        ⟨failure, other_failure, failed, other_failed, alike⟩
      · rw [compiled, other_compiled]
        exact .inl ⟨_, rfl, rfl⟩
      · rw [failed, other_failed]
        exact .inr ⟨failure, other_failure, rfl, rfl, alike⟩

/-- Two descriptions, one of which is no text. -/
def plainFolder : Directory :=
  .file "a_tilingdata.h" []
    (.folder "z" (.file "b_tilingdata.h" [255] .empty) .empty)

def plainTree : FileSystem :=
  ⟨.folder "src" plainFolder .empty, []⟩

/-- The same descriptions in another order, one of them behind a link, and
more. -/
def mixedFolder : Directory :=
  .folder "none" .empty
    (.folder "z" (.file "b_tilingdata.h" [255] (.file "b.h" [1] .empty))
      (.link "a_tilingdata.h" "../a.txt" .empty))

def aliasTree : FileSystem :=
  ⟨.folder "deep" (.link "alias" "real"
    (.file "a.txt" [] (.folder "real" mixedFolder .empty))) .empty, ["deep"]⟩

theorem locate_plainTree :
    locate plainTree {} "src/" =
      ["src/a_tilingdata.h", "src/z/b_tilingdata.h"] := by
  have wellFormed : plainTree.WellFormed := by decide
  have reached : plainTree.directory? "src/" = some plainFolder := by
    decide +kernel
  exact locate_eq_of_below wellFormed {} reached (by decide +kernel)
    (by decide +kernel)

theorem locate_aliasTree :
    locate aliasTree {} "./alias" =
      ["./alias/a_tilingdata.h", "./alias/z/b_tilingdata.h"] := by
  have wellFormed : aliasTree.WellFormed := by decide
  have reached : aliasTree.directory? "./alias" = some mixedFolder := by
    decide +kernel
  exact locate_eq_of_below wellFormed {} reached (by decide +kernel)
    (by decide +kernel)

theorem finds_plainTree_iff (names : List String) (content : Content) :
    Finds plainTree ({} : Settings).suffix "src/" names content ↔
      Finds aliasTree ({} : Settings).suffix "./alias" names content := by
  let places := [["a_tilingdata.h"], ["z", "b_tilingdata.h"]]
  have named : ∀ names ∈ places, ∀ name ∈ names, IsName name := by decide
  have listed : locate plainTree {} "src/" =
      places.map (Path.descend "src/") :=
    locate_plainTree.trans (by decide +kernel)
  have other_listed : locate aliasTree {} "./alias" =
      places.map (Path.descend "./alias") :=
    locate_aliasTree.trans (by decide +kernel)
  have held : ∀ names ∈ places,
      plainTree.readBytes (Path.descend "src/" names) =
        aliasTree.readBytes (Path.descend "./alias" names) := by
    decide +kernel
  rw [finds_iff_of_locate (by decide) {} "src/" listed named,
    finds_iff_of_locate (by decide) {} "./alias" other_listed named]
  apply and_congr_right
  intro member
  rw [held names member]

theorem assemble_reproducible_alias :
    plainTree.WellFormed ∧ aliasTree.WellFormed ∧
      (∀ names content,
        Finds plainTree ({} : Settings).suffix "src/" names content ↔
          Finds aliasTree ({} : Settings).suffix "./alias" names content) ∧
      (assemble plainTree {} "src/").outcome =
        .error (.read "src/z/b_tilingdata.h" .notText) ∧
      (assemble aliasTree {} "./alias").outcome =
        .error (.read "./alias/z/b_tilingdata.h" .notText) := by
  have wellFormed : plainTree.WellFormed := by decide
  have other_wellFormed : aliasTree.WellFormed := by decide
  have assembled : (assemble plainTree {} "src/").outcome =
      .error (.read "src/z/b_tilingdata.h" .notText) := by
    rw [outcome_assemble, locate_plainTree]
    decide +kernel
  refine ⟨wellFormed, other_wellFormed, finds_plainTree_iff, assembled, ?_⟩
  obtain ⟨places, places_iff, both⟩ := assemble_reproducible wellFormed
    other_wellFormed {} finds_plainTree_iff
  rcases both with ⟨text, succeeded, _⟩ |
    ⟨failure, other_failure, failed, other_failed, alike⟩
  · rw [assembled] at succeeded
    cases succeeded
  · rw [assembled] at failed
    rw [other_failed]
    generalize path_eq : "src/z/b_tilingdata.h" = path at failed
    cases failed
    cases alike with
    | @read names listed cause =>
        obtain ⟨content, finds⟩ := (places_iff names).mp listed
        have named : ∀ name ∈ ["z", "b_tilingdata.h"], IsName name := by decide
        have names_eq := Path.descend_injective "src/" named finds.named path_eq
        subst names_eq
        rfl

end Header

end TilingHeader
