import TilingHeader.Proofs.FileTree.Reading
import TilingHeader.Proofs.Generation.Assembly

namespace TilingHeader

/-! Descriptions are compiled one after the other, up to the first that fails.
The texts, the failure and the notices of a header are those of its
descriptions, in the order of their paths. -/

open FileTree

namespace Description

variable {files : FileSystem} {settings : Settings}

/-- The notices of one description. -/
def log (files : FileSystem) (settings : Settings) (path : String) :
    List Notice :=
  (compileFile files settings path).notices

/-- What the description at a path gives, by what reading the path gives. -/
inductive Gives (files : FileSystem) (settings : Settings) (path : String) :
    Run String → Prop
  | missing (absent : files.readText path = .error .noEntry) :
      Gives files settings path ⟨[.missing path], .ok ""⟩
  | unread {cause : AccessError} (failed : files.readText path = .error cause)
      (other : cause ≠ .noEntry) :
      Gives files settings path ⟨[], .error (.read path cause)⟩
  | malformed {source : String} {fault : Fault}
      (read : files.readText path = .ok source)
      (refused : (compile settings source).outcome = .error fault) :
      Gives files settings path
        ⟨.reading path :: (compile settings source).notices.map .warning,
          .error (.malformed path fault)⟩
  | compiled {source text : String}
      (read : files.readText path = .ok source)
      (accepted : (compile settings source).outcome = .ok text) :
      Gives files settings path
        ⟨.reading path :: (compile settings source).notices.map .warning,
          .ok text⟩

theorem gives_compileFile (files : FileSystem) (settings : Settings)
    (path : String) :
    Gives files settings path (compileFile files settings path) := by
  rw [compileFile]
  cases read : files.readText path with
  | error cause =>
      cases cause with
      | noEntry => exact .missing read
      | _ => exact .unread read (by decide)
  | ok source =>
      dsimp only
      rw [Logged.bind_of_ok (Logged.outcome_note _), Logged.mapFailure,
        Logged.mapNotices]
      cases outcome : (compile settings source).outcome with
      | error fault => exact .malformed read outcome
      | ok text => exact .compiled read outcome

/-- Behind paths that give their texts, the others go on as by themselves. -/
theorem compileFiles_append {earlier texts : List String}
    (contributed : List.Forall₂ (Contributes files settings) earlier texts)
    (later : List String) :
    compileFiles files settings (earlier ++ later) =
      ⟨earlier.flatMap (log files settings) ++
          (compileFiles files settings later).notices,
        (compileFiles files settings later).outcome.map
          (String.join texts ++ ·)⟩ := by
  induction contributed with
  | nil =>
      simp only [List.nil_append, List.flatMap_nil, String.join_nil,
        String.empty_append]
      cases compileFiles files settings later with
      | mk notices outcome => cases outcome <;> rfl
  | @cons path text rest texts contributes _ induction =>
      rw [List.cons_append, compileFiles, Logged.bind_of_ok contributes,
        Logged.bind_pure_eq, induction, List.flatMap_cons, List.append_assoc]
      dsimp only
      cases (compileFiles files settings later).outcome with
      | error failure => rfl
      | ok structs => simp [log, Except.map, String.append_assoc]

theorem compileFiles_of_contributes {paths texts : List String}
    (contributed : List.Forall₂ (Contributes files settings) paths texts) :
    compileFiles files settings paths =
      ⟨paths.flatMap (log files settings), .ok (String.join texts)⟩ := by
  have alone := compileFiles_append contributed []
  simpa [compileFiles, Except.map] using alone

theorem compileFiles_of_failure {earlier texts : List String}
    (contributed : List.Forall₂ (Contributes files settings) earlier texts)
    {path : String} {failure : Failure}
    (failed : (compileFile files settings path).outcome = .error failure)
    (later : List String) :
    compileFiles files settings (earlier ++ path :: later) =
      ⟨(earlier ++ [path]).flatMap (log files settings), .error failure⟩ := by
  rw [compileFiles_append contributed, compileFiles,
    Logged.bind_of_error failed, List.flatMap_append, List.flatMap_singleton]
  rfl

/-- Either all give their texts, or there is a first that fails. -/
theorem exists_texts_or_exists_failure (files : FileSystem)
    (settings : Settings) (paths : List String) :
    (∃ texts, List.Forall₂ (Contributes files settings) paths texts) ∨
      ∃ earlier texts path later failure, paths = earlier ++ path :: later ∧
        List.Forall₂ (Contributes files settings) earlier texts ∧
        (compileFile files settings path).outcome = .error failure := by
  induction paths with
  | nil => exact .inl ⟨[], .nil⟩
  | cons first rest induction =>
      cases outcome : (compileFile files settings first).outcome with
      | error failure =>
          exact .inr ⟨[], [], first, rest, failure, rfl, .nil, outcome⟩
      | ok text =>
          rcases induction with ⟨texts, contributed⟩ |
            ⟨earlier, texts, path, later, failure, rfl, before, failed⟩
          · exact .inl ⟨text :: texts, .cons outcome contributed⟩
          · exact .inr ⟨first :: earlier, text :: texts, path, later, failure,
              rfl, .cons outcome before, failed⟩

end Description

namespace Header

open Description

theorem ofSources_of_valid {settings : Settings} (valid : settings.Valid)
    (files : FileSystem) (sources : List String) :
    ofSources files settings sources =
      ⟨(compileFiles files settings sources).notices,
        (compileFiles files settings sources).outcome.map fun structs =>
          ⟨settings.prologue ++ structs ++ Settings.epilogue, sources⟩⟩ := by
  have checked : validate settings = pure () :=
    (Logged.eq_pure_iff _ _).mpr ⟨rfl, (validate_eq_ok_iff settings).mpr valid⟩
  rw [ofSources, checked, Logged.pure_bind, Logged.bind_pure_eq]

theorem ofSources_of_defect {settings : Settings} {defect : Settings.Defect}
    (found : settings.defect? = some defect) (files : FileSystem)
    (sources : List String) :
    ofSources files settings sources = .fail (.config (.unsound defect)) := by
  rw [ofSources, validate, Settings.check, found]
  rfl

/-- The descriptions of a header are compiled in their order, up to the first
that fails: its failure is that of the header, whatever comes behind it.  With
unsound settings none of them is read. -/
theorem ofSources_in_order (settings : Settings) :
    (∀ defect, settings.defect? = some defect →
      ∀ files sources, ofSources files settings sources =
        .fail (.config (.unsound defect))) ∧
    (settings.defect? = none → ∀ files,
      (∀ sources texts,
        List.Forall₂ (Contributes files settings) sources texts →
          ofSources files settings sources =
            ⟨sources.flatMap (log files settings),
              .ok ⟨settings.prologue ++ String.join texts ++
                Settings.epilogue, sources⟩⟩) ∧
      (∀ earlier texts path later failure,
        List.Forall₂ (Contributes files settings) earlier texts →
        (compileFile files settings path).outcome = .error failure →
          ofSources files settings (earlier ++ path :: later) =
            ⟨(earlier ++ [path]).flatMap (log files settings),
              .error failure⟩) ∧
      ∀ sources,
        (∃ texts, List.Forall₂ (Contributes files settings) sources texts) ∨
          ∃ earlier texts path later failure,
            sources = earlier ++ path :: later ∧
            List.Forall₂ (Contributes files settings) earlier texts ∧
            (compileFile files settings path).outcome = .error failure) ∧
    ∀ files path,
      Gives files settings path (compileFile files settings path) ∧
        ∀ cause, files.Unreadable path cause →
          files.readText path = .error cause := by
  refine ⟨fun defect found => ofSources_of_defect found, ?_, ?_⟩
  · intro sound files
    have valid := (Settings.defect?_eq_none_iff settings).mp sound
    refine ⟨?_, ?_, exists_texts_or_exists_failure files settings⟩
    · intro sources texts contributed
      rw [ofSources_of_valid valid, compileFiles_of_contributes contributed]
      rfl
    · intro earlier texts path later failure contributed failed
      rw [ofSources_of_valid valid,
        compileFiles_of_failure contributed failed later]
      rfl
  · intro files path
    exact ⟨gives_compileFile files settings path,
      fun cause unreadable => unreadable.readText_eq⟩

def memberlessSource : String :=
  written ["BEGIN_TILING_DATA_DEF(A)", "END_TILING_DATA_DEF"]

def memberlessText : String :=
  written ["#pragma pack(push, 8)", "struct A \x7b", "\x7d;",
    "#pragma pack(pop)"]

/-- A link to nothing, a description, and two links that lead to each other. -/
def ringTree : FileSystem :=
  ⟨.link "gone" "away/none"
    (.file "a" (.ofText memberlessSource)
      (.link "one" "two" (.link "two" "./one" .empty))), []⟩

/-- From one link of the ring the steps lead to the other. -/
inductive OnRing : Location → List Step → Prop
  | one : OnRing [] [.down "one"]
  | two : OnRing [] [.down "two"]
  | back : OnRing [] [.stay, .down "one"]

theorem turns_onRing (here : Location) (steps : List Step)
    (within : OnRing here steps) :
    ∃ there later, ringTree.Turns here steps there later ∧
      OnRing there later := by
  have folder : ringTree.node? [] = some .folder := rfl
  have one_link : ringTree.node? ([] ++ ["one"]) = some (.link "two") := by
    decide
  have two_link : ringTree.node? ([] ++ ["two"]) = some (.link "./one") := by
    decide
  cases within with
  | one =>
      exact ⟨_, _, .link folder ⟨by decide, by decide⟩ one_link, .two⟩
  | two =>
      exact ⟨_, _, .link folder ⟨by decide, by decide⟩ two_link, .back⟩
  | back =>
      exact ⟨_, _, .stay folder (.link folder ⟨by decide, by decide⟩ one_link),
        .two⟩

theorem ofSources_in_order_ring :
    ({} : Settings).defect? = none ∧
      ringTree.Unreadable "two" .tooManyLinks ∧
      List.Forall₂ (Contributes ringTree {}) ["gone", "a", "a"]
        ["", memberlessText, memberlessText] ∧
      ringTree.readText "two" = .error .tooManyLinks ∧
      ofSources ringTree {} ["gone", "a", "a", "two", "a"] =
        ⟨[.missing "gone", .reading "a", .reading "a"],
          .error (.read "two" .tooManyLinks)⟩ := by
  obtain ⟨_, ordered, read⟩ := ofSources_in_order {}
  have sound : ({} : Settings).defect? = none := by decide
  have routed : FileSystem.route "two" = .ok ⟨false, [.down "two"]⟩ := by
    decide
  have unreadable : ringTree.Unreadable "two" .tooManyLinks :=
    .ring routed turns_onRing .two
  have contributed : List.Forall₂ (Contributes ringTree {})
      ["gone", "a", "a"] ["", memberlessText, memberlessText] :=
    .cons (by decide +kernel)
      (.cons (by decide +kernel) (.cons (by decide +kernel) .nil))
  have failed : (compileFile ringTree {} "two").outcome =
      .error (.read "two" .tooManyLinks) := by
    decide +kernel
  have logged : (["gone", "a", "a"] ++ ["two"]).flatMap (log ringTree {}) =
      [.missing "gone", .reading "a", .reading "a"] := by
    decide +kernel
  have stopped :=
    (ordered sound ringTree).2.1 _ _ "two" ["a"] _ contributed failed
  rw [logged] at stopped
  exact ⟨sound, unreadable, contributed,
    (read ringTree "two").2 _ unreadable, stopped⟩

end Header

end TilingHeader
