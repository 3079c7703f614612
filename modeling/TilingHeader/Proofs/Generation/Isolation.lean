import TilingHeader.Proofs.Discovery.NewFile
import TilingHeader.Proofs.Generation.Reproducibility
import TilingHeader.Proofs.Generation.Succession

namespace TilingHeader

/-! A header when one file has come.  Each description gives its text by itself,
so the new one puts its own text or its own failure between those of the others,
at its position in the order of the paths. -/

open FileTree Discovery

namespace Description

variable {files after : FileSystem} {settings : Settings}

theorem outcome_compileFiles_between {earlier later : List String}
    {earlier_texts later_texts : List String}
    (before : List.Forall₂ (Contributes files settings) earlier earlier_texts)
    (behind : List.Forall₂ (Contributes files settings) later later_texts)
    (path : String) :
    (compileFiles files settings (earlier ++ path :: later)).outcome =
      (compileFile files settings path).outcome.map fun text =>
        String.join earlier_texts ++ text ++ String.join later_texts := by
  rw [compileFiles_append before, compileFiles]
  dsimp only
  cases here : (compileFile files settings path).outcome with
  | error failure =>
      rw [Logged.outcome_bind_of_error here]
      rfl
  | ok text =>
      rw [Logged.outcome_bind_of_ok here, compileFiles_of_contributes behind,
        Logged.outcome_bind_of_ok rfl, Logged.outcome_pure]
      simp only [Except.map, String.append_assoc]

theorem contributes_of_adds {root name : String} {location : Location}
    {above : List String} {content : Content} {texts : List String}
    (wellFormed : files.WellFormed)
    (adds : Adds files after root location above name content)
    (contributed : List.Forall₂ (Contributes files settings)
      (locate files settings root) texts) :
    List.Forall₂ (Contributes after settings) (locate files settings root)
      texts := by
  obtain ⟨length_eq, paired⟩ := List.forall₂_iff_zip.mp contributed
  refine List.forall₂_iff_zip.mpr ⟨length_eq, fun {path text} pair => ?_⟩
  apply (paired pair).of_readText_eq
  apply adds.receives.readText_eq_of_apart
    (isFile_of_mem_locate wellFormed (List.of_mem_zip pair).1)
  -- No old path leads to where nothing was.
  intro located
  obtain ⟨node, found, _⟩ := FileSystem.isSettled_of_locate located
  rw [adds.absent] at found
  cases found

end Description

namespace Header

/-- A file that comes below the root changes nothing unless it is named as a
description.  If it is, its text stands at the position of its path between the
texts of the others; and if it cannot be read or compiled, that is the failure
of the whole. -/
theorem assemble_adds_description {files after : FileSystem}
    {settings : Settings} {root name : String} {location : Location}
    {above : List String} {content : Content} {header : Header}
    (wellFormed : files.WellFormed) (after_wellFormed : after.WellFormed)
    (linkless : files.Linkless)
    (assembled : (assemble files settings root).outcome = .ok header)
    (adds : Adds files after root location above name content) :
    (¬ HasSuffix settings.suffix name →
        (assemble after settings root).outcome = .ok header) ∧
      (HasSuffix settings.suffix name →
        ∃ texts position,
          List.Forall₂ (Description.Contributes files settings) header.sources
              texts ∧
            header.text =
              settings.prologue ++ String.join texts ++ Settings.epilogue ∧
            (∀ other, IsPosition (Path.descend root (above ++ [name]))
              header.sources other ↔ other = position) ∧
            (assemble after settings root).outcome =
              match content.text? with
              | none =>
                  .error (.read (Path.descend root (above ++ [name])) .notText)
              | some source =>
                  match (Description.compile settings source).outcome with
                  | .error fault =>
                      .error (.malformed
                        (Path.descend root (above ++ [name])) fault)
                  | .ok text =>
                      .ok ⟨settings.prologue ++
                          String.join (texts.take position) ++ text ++
                          String.join (texts.drop position) ++
                          Settings.epilogue,
                        header.sources.take position ++
                          Path.descend root (above ++ [name]) ::
                            header.sources.drop position⟩) := by
  obtain ⟨valid, texts, contributed, rfl⟩ :=
    (assemble_eq_ok_iff root header).mp assembled
  have contributed_after :=
    Description.contributes_of_adds wellFormed adds contributed
  constructor
  · intro no_suffix
    have same := adds.locate_of_not_hasSuffix wellFormed after_wellFormed
      linkless no_suffix
    rw [← same] at contributed_after ⊢
    exact (assemble_eq_ok_iff root _).mpr
      ⟨valid, texts, contributed_after, rfl⟩
  · intro has_suffix
    have unlisted : Path.descend root (above ++ [name]) ∉
        locate files settings root :=
      adds.not_mem_locate wellFormed
    obtain ⟨position, here⟩ := existsUnique_position
      (pairwise_locate wellFormed settings root) unlisted
    refine ⟨texts, position, contributed, rfl, here, ?_⟩
    have listed := adds.locate_of_isPosition wellFormed after_wellFormed
      linkless has_suffix ((here position).mpr rfl)
    rw [outcome_assemble_of_valid valid, outcome_ofSources_of_valid valid,
      listed,
      Description.outcome_compileFiles_between
        (List.forall₂_take position contributed_after)
        (List.forall₂_drop position contributed_after),
      Description.outcome_compileFile_of_finds
        (adds.finds after_wellFormed has_suffix)]
    cases content.text? with
    | none => rfl
    | some source =>
        dsimp only
        cases (Description.compile settings source).outcome with
        | error fault => rfl
        | ok text =>
            apply congrArg Except.ok
            simp only [String.append_assoc]

def tolerant : Settings := { strict := false }

def openSource : String :=
  written ["BEGIN_TILING_DATA_DEF(A)", "TILING_DATA_FIELD_DEF(T, x)"]

def straySource : String :=
  written ["TILING_DATA_FIELD_DEF(T, y)", "END_TILING_DATA_DEF"]

def closedSource : String :=
  written ["BEGIN_TILING_DATA_DEF(C)", "END_TILING_DATA_DEF"]

/-- A struct that is left open, another description, and room between them. -/
def openFolder : Directory :=
  .file "a_tilingdata.h" (.ofText openSource)
    (.folder "m" .empty
      (.file "z_tilingdata.h" (.ofText closedSource) .empty))

def openTree : FileSystem :=
  ⟨.folder "src" openFolder .empty, []⟩

def strayTree : FileSystem :=
  ⟨.folder "src"
    (.file "a_tilingdata.h" (.ofText openSource)
      (.folder "m" (.file "b_tilingdata.h" (.ofText straySource) .empty)
        (.file "z_tilingdata.h" (.ofText closedSource) .empty))) .empty, []⟩

def openTexts : List String :=
  [written ["#pragma pack(push, 8)", "struct A \x7b", "    T x = 0;"],
    written ["#pragma pack(push, 8)", "struct C \x7b", "\x7d;",
      "#pragma pack(pop)"]]

def openHeader : Header where
  text := tolerant.prologue ++ String.join openTexts ++ Settings.epilogue
  sources := ["src/a_tilingdata.h", "src/z_tilingdata.h"]

def strayHeader : Header where
  text := tolerant.prologue ++
    written ["#pragma pack(push, 8)", "struct A \x7b", "    T x = 0;",
      "    T y = 0;", "\x7d;", "#pragma pack(pop)",
      "#pragma pack(push, 8)", "struct C \x7b", "\x7d;",
      "#pragma pack(pop)"] ++ Settings.epilogue
  sources :=
    ["src/a_tilingdata.h", "src/m/b_tilingdata.h", "src/z_tilingdata.h"]

theorem locate_openTree :
    locate openTree tolerant "src" = openHeader.sources := by
  have wellFormed : openTree.WellFormed := by decide
  have reached : openTree.directory? "src" = some openFolder := by
    decide +kernel
  exact locate_eq_of_below wellFormed tolerant reached (by decide +kernel)
    (by decide +kernel)

theorem contributes_openTree :
    List.Forall₂ (Description.Contributes openTree tolerant)
      openHeader.sources openTexts :=
  .cons (by decide +kernel) (.cons (by decide +kernel) .nil)

theorem assemble_openTree :
    (assemble openTree tolerant "src").outcome = .ok openHeader := by
  have valid : tolerant.Valid := (Settings.defect?_eq_none_iff _).mp (by decide)
  refine (assemble_eq_ok_iff "src" openHeader).mpr ⟨valid, openTexts, ?_, ?_⟩
  · rw [locate_openTree]
    exact contributes_openTree
  · rw [locate_openTree]
    rfl

theorem adds_strayTree :
    Adds openTree strayTree "src" ["src"] ["m"] "b_tilingdata.h"
      (.ofText straySource) := by
  apply adds_of_writeBytes <;> decide +kernel

theorem assemble_adds_description_between :
    openTree.WellFormed ∧ strayTree.WellFormed ∧ openTree.Linkless ∧
      (assemble openTree tolerant "src").outcome = .ok openHeader ∧
      Adds openTree strayTree "src" ["src"] ["m"] "b_tilingdata.h"
        (.ofText straySource) ∧
      (assemble strayTree tolerant "src").outcome = .ok strayHeader := by
  have wellFormed : openTree.WellFormed := by decide
  have after_wellFormed : strayTree.WellFormed := by decide
  have linkless := FileSystem.linkless_of_leaves wellFormed (by decide)
  refine ⟨wellFormed, after_wellFormed, linkless, assemble_openTree,
    adds_strayTree, ?_⟩
  obtain ⟨_, added⟩ := assemble_adds_description wellFormed after_wellFormed
    linkless assemble_openTree adds_strayTree
  obtain ⟨texts, position, contributed, _, here, assembled⟩ :=
    added (by decide +kernel)
  obtain rfl := (here 1).mp ⟨by decide, by decide, by decide⟩
  have texts_eq : texts = openTexts :=
    List.right_unique_forall₂' Description.Contributes.right_unique contributed
      contributes_openTree
  rw [assembled, texts_eq]
  decide +kernel

end Header

end TilingHeader
