import TilingHeader.Generation
import TilingHeader.Proofs.Description.Texts

namespace TilingHeader

/-! When a header comes about, and from what: the settings are valid, and every
description found gives a text. -/

open FileTree

/-- What can go wrong with the description at a path. -/
inductive Failure.At (path : String) : Failure → Prop
  | malformed (fault : Fault) : At path (.malformed path fault)
  | read (cause : AccessError) : At path (.read path cause)

namespace Description

variable (files : FileSystem) (settings : Settings)

/-- The fragments of the description at a path, none where nothing is. -/
inductive Yields (path : String) : List Fragment → Prop
  | missing (absent : files.readText path = .error .noEntry) : Yields path []
  | read {source : String} {pieces : List Fragment}
      (text : files.readText path = .ok source)
      (built : (fragments settings source).outcome = .ok pieces) :
      Yields path pieces

def Contributes (path text : String) : Prop :=
  (compileFile files settings path).outcome = .ok text

instance (path text : String) :
    Decidable (Contributes files settings path text) :=
  inferInstanceAs (Decidable (_ = _))

variable {files settings}

theorem Yields.of_readText_eq {after : FileSystem} {path : String}
    {pieces : List Fragment} (yields : Yields files settings path pieces)
    (same : after.readText path = files.readText path) :
    Yields after settings path pieces := by
  cases yields with
  | missing absent => exact .missing (same.trans absent)
  | read text built => exact .read (same.trans text) built

theorem Contributes.right_unique :
    Relator.RightUnique (Contributes files settings) :=
  fun _ _ _ given other_given =>
    Except.ok.inj (given.symm.trans other_given)

theorem contributes_iff (path text : String) :
    Contributes files settings path text ↔
      ∃ pieces, Yields files settings path pieces ∧
        layoutText pieces = text := by
  rw [Contributes, compileFile]
  cases found : files.readText path with
  | error cause =>
      constructor
      · intro contributed
        cases cause with
        | noEntry =>
            cases contributed
            exact ⟨[], .missing found, rfl⟩
        | _ => cases contributed
      · rintro ⟨pieces, yields, rfl⟩
        cases yields with
        | missing absent =>
            rw [found] at absent
            cases absent
            rfl
        | read text built =>
            rw [found] at text
            cases text
  | ok source =>
      rw [Logged.outcome_bind_of_ok (Logged.outcome_note _)]
      rw [Logged.outcome_mapFailure_eq_ok_iff]
      change (compile settings source).outcome = .ok text ↔ _
      rw [compile_eq_ok_iff]
      constructor
      · rintro ⟨pieces, built, text_eq⟩
        exact ⟨pieces, .read found built, text_eq⟩
      · rintro ⟨pieces, yields, text_eq⟩
        cases yields with
        | missing absent =>
            rw [found] at absent
            cases absent
        | read text built =>
            rw [found] at text
            cases text
            exact ⟨pieces, built, text_eq⟩

theorem Contributes.of_readText_eq {after : FileSystem} {path text : String}
    (contributes : Contributes files settings path text)
    (same : after.readText path = files.readText path) :
    Contributes after settings path text := by
  obtain ⟨pieces, yields, text_eq⟩ := (contributes_iff path text).mp contributes
  exact (contributes_iff path text).mpr
    ⟨pieces, yields.of_readText_eq same, text_eq⟩

theorem compileFiles_eq_ok_iff (paths : List String) (text : String) :
    (compileFiles files settings paths).outcome = .ok text ↔
      ∃ texts, List.Forall₂ (Contributes files settings) paths texts ∧
        String.join texts = text := by
  induction paths generalizing text with
  | nil =>
      rw [compileFiles, Logged.outcome_pure, Except.ok.injEq]
      simp only [List.forall₂_nil_left_iff, exists_eq_left]
      rfl
  | cons path rest induction =>
      rw [compileFiles, Logged.outcome_bind_eq_ok_iff]
      simp only [Logged.outcome_bind_eq_ok_iff, induction, Logged.outcome_pure,
        Except.ok.injEq, List.forall₂_cons_left_iff]
      constructor
      · rintro ⟨first, contributed, _, ⟨texts, others, rfl⟩, rfl⟩
        exact ⟨first :: texts, ⟨first, texts, contributed, others, rfl⟩,
          String.join_cons⟩
      · rintro ⟨_, ⟨first, texts, contributed, others, rfl⟩, rfl⟩
        exact ⟨first, contributed, _, ⟨texts, others, rfl⟩,
          String.join_cons.symm⟩

theorem compileFile_failed {path : String} {failure : Failure}
    (failed : (compileFile files settings path).outcome = .error failure) :
    failure.At path := by
  rw [compileFile] at failed
  cases found : files.readText path with
  | error cause =>
      rw [found] at failed
      cases cause with
      | noEntry => cases failed
      | _ =>
          cases failed
          exact .read _
  | ok source =>
      rw [found] at failed
      dsimp only at failed
      rw [Logged.outcome_bind_of_ok (Logged.outcome_note _)] at failed
      obtain ⟨fault, _, rfl⟩ :=
        (Logged.mapError_eq_error_iff (Failure.malformed path) _ _).mp failed
      exact .malformed fault

theorem compileFiles_failed {paths : List String} {failure : Failure}
    (failed : (compileFiles files settings paths).outcome = .error failure) :
    ∃ path ∈ paths, failure.At path := by
  induction paths with
  | nil => cases failed
  | cons path rest induction =>
      rcases Logged.outcome_bind_eq_error_iff.mp failed with
        here | ⟨text, _, onward⟩
      · exact ⟨path, List.mem_cons_self, compileFile_failed here⟩
      · rcases Logged.outcome_bind_eq_error_iff.mp onward with
          others | ⟨structs, _, impossible⟩
        · obtain ⟨other, listed, there⟩ := induction others
          exact ⟨other, List.mem_cons_of_mem path listed, there⟩
        · cases impossible

end Description

namespace Header

variable {files : FileSystem} {settings : Settings}

theorem validate_eq_ok_iff (settings : Settings) :
    (validate settings).outcome = .ok () ↔ settings.Valid :=
  (Logged.mapError_eq_ok_iff Failure.config _ ()).trans
    settings.check_eq_ok_iff

theorem validate_bind_eq_ok_iff {α : Type} (next : Unit → Run α) (value : α) :
    (validate settings >>= next).outcome = .ok value ↔
      settings.Valid ∧ (next ()).outcome = .ok value := by
  rw [Logged.outcome_bind_eq_ok_iff, ← validate_eq_ok_iff]
  exact ⟨fun ⟨_, valid, given⟩ => ⟨valid, given⟩, fun both => ⟨(), both⟩⟩

theorem outcome_ofSources_of_valid (valid : settings.Valid)
    (sources : List String) :
    (ofSources files settings sources).outcome =
      (Description.compileFiles files settings sources).outcome.map
        fun structs =>
          ⟨settings.prologue ++ structs ++ Settings.epilogue, sources⟩ := by
  rw [ofSources, Logged.outcome_bind_of_ok ((validate_eq_ok_iff _).mpr valid),
    Logged.outcome_bind]
  rfl

theorem outcome_assemble_of_valid (valid : settings.Valid) (root : String) :
    (assemble files settings root).outcome =
      (ofSources files settings
        (Discovery.locate files settings root)).outcome := by
  have searched : (Discovery.search files settings root :
      Run (List String)).outcome =
        .ok (Discovery.locate files settings root) := rfl
  rw [assemble, Logged.outcome_bind_of_ok ((validate_eq_ok_iff _).mpr valid),
    Logged.outcome_bind_of_ok searched,
    Logged.outcome_bind_of_ok (Logged.outcome_note _)]

theorem ofSources_eq_ok_iff (sources : List String) (header : Header) :
    (ofSources files settings sources).outcome = .ok header ↔
      settings.Valid ∧
        ∃ texts,
          List.Forall₂ (Description.Contributes files settings) sources texts ∧
          ⟨settings.prologue ++ String.join texts ++ Settings.epilogue,
            sources⟩ = header := by
  rw [ofSources, validate_bind_eq_ok_iff, Logged.outcome_bind_eq_ok_iff]
  simp only [Description.compileFiles_eq_ok_iff, Logged.outcome_pure,
    Except.ok.injEq]
  constructor
  · rintro ⟨valid, _, ⟨texts, contributed, rfl⟩, header_eq⟩
    exact ⟨valid, texts, contributed, header_eq⟩
  · rintro ⟨valid, texts, contributed, header_eq⟩
    exact ⟨valid, _, ⟨texts, contributed, rfl⟩, header_eq⟩

theorem assemble_eq_ok_iff (root : String) (header : Header) :
    (assemble files settings root).outcome = .ok header ↔
      settings.Valid ∧
        ∃ texts,
          List.Forall₂ (Description.Contributes files settings)
            (Discovery.locate files settings root) texts ∧
          ⟨settings.prologue ++ String.join texts ++ Settings.epilogue,
            Discovery.locate files settings root⟩ = header := by
  have searched : (Discovery.search files settings root :
      Run (List String)).outcome =
        .ok (Discovery.locate files settings root) := rfl
  rw [assemble, validate_bind_eq_ok_iff, Logged.outcome_bind_of_ok searched,
    Logged.outcome_bind_of_ok (Logged.outcome_note _), ofSources_eq_ok_iff,
    and_self_left]

end Header

end TilingHeader
