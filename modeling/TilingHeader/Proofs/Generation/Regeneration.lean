import TilingHeader.Proofs.Discovery.NewFile
import TilingHeader.Proofs.Generation.Silence
import TilingHeader.Proofs.Generation.Success

namespace TilingHeader

/-! Making a header once more.  The second run finds what the first one found
and, it may be, the header itself, under its own path or behind links that were
dangling.  The header says nothing as a description, so the text is the same. -/

open FileTree

namespace Description

variable {files after : FileSystem} {settings : Settings}

/-- Paths that add nothing may stand anywhere between the others. -/
theorem exists_yields_of_filter (kept : String → Bool) {paths : List String}
    {blocks : List (List Fragment)}
    (yields : List.Forall₂ (Yields files settings) (paths.filter kept) blocks)
    (again : ∀ path ∈ paths, kept path = true → ∀ pieces,
      Yields files settings path pieces → Yields after settings path pieces)
    (silent : ∀ path ∈ paths, kept path = false →
      Yields after settings path []) :
    ∃ others, List.Forall₂ (Yields after settings) paths others ∧
      others.flatten = blocks.flatten := by
  induction paths generalizing blocks with
  | nil =>
      cases yields
      exact ⟨[], .nil, rfl⟩
  | cons path rest induction =>
      obtain ⟨path_again, rest_again⟩ := List.forall_mem_cons.mp again
      obtain ⟨path_silent, rest_silent⟩ := List.forall_mem_cons.mp silent
      cases chosen : kept path with
      | true =>
          rw [List.filter_cons_of_pos chosen] at yields
          cases yields with
          | @cons _ pieces _ blocks here yields =>
              obtain ⟨others, rest_yields, flatten_eq⟩ :=
                induction yields rest_again rest_silent
              refine ⟨pieces :: others,
                .cons (path_again chosen pieces here) rest_yields, ?_⟩
              rw [List.flatten_cons, List.flatten_cons, flatten_eq]
      | false =>
          rw [List.filter_cons_of_neg (by simp [chosen])] at yields
          obtain ⟨others, rest_yields, flatten_eq⟩ :=
            induction yields rest_again rest_silent
          exact ⟨[] :: others, .cons (path_silent chosen) rest_yields,
            flatten_eq⟩

end Description

namespace Header

variable {files after : FileSystem} {settings : Settings}
  {root destination : String}

theorem generate_eq_ok_iff (parents : HasParent files destination)
    (header : Header) :
    (generate files settings root destination).1 = after ∧
        (generate files settings root destination).2.outcome = .ok header ↔
      (assemble files settings root).outcome = .ok header ∧
        files.writeText destination header.text = .ok after := by
  constructor
  · rintro ⟨rfl, generated⟩
    obtain ⟨assembled, after_eq, persisted⟩ := generate_eq_ok generated
    obtain ⟨grown, made, written⟩ := exists_of_persist persisted
    rw [makeParent_of_hasParent parents] at made
    cases made
    rw [after_eq]
    exact ⟨assembled, written⟩
  · rintro ⟨assembled, written⟩
    have run := @generate_of_ok files settings root destination header assembled
    have persisted := persist_of_hasParent parents header.text
    rw [written] at persisted
    rw [run.1, run.2, persisted]
    exact ⟨rfl, rfl⟩

theorem assemble_again {header : Header} {place : Location}
    (wellFormed : files.WellFormed) (after_wellFormed : after.WellFormed)
    (assembled : (assemble files settings root).outcome = .ok header)
    (receives : files.Receives after place (.ofText header.text))
    (apart : ∀ source ∈ Discovery.locate files settings root,
      files.locate .use source ≠ .ok (.taken place))
    (unbroken : settings.Unbroken)
    (unled : Unled files settings (Discovery.locate files settings root)) :
    ∃ again, (assemble after settings root).outcome = .ok again ∧
      again.text = header.text := by
  obtain ⟨valid, blocks, yields, rfl⟩ :=
    (assemble_eq_ok_iff_lines root header).mp assembled
  have header_fragments := congrArg Logged.outcome
    (Description.fragments_of_scan_nil
      ((scan_headerLines_iff valid unbroken yields).mpr unled) settings)
  rw [← Discovery.filter_locate_of_extends wellFormed after_wellFormed
    receives.toExtends] at yields
  obtain ⟨others, again, flatten_eq⟩ :=
    Description.exists_yields_of_filter _ yields
      (by
        intro path _ kept pieces yielded
        have listed := of_decide_eq_true kept
        exact yielded.of_readText_eq (receives.readText_eq_of_apart
          (Discovery.isFile_of_mem_locate wellFormed listed)
          (apart path listed)))
      (by
        -- Only the header itself is found anew.
        intro path path_listed dropped
        have located :=
          (Discovery.mem_locate_of_receives receives wellFormed
            after_wellFormed path_listed).resolve_left
              (of_decide_eq_false dropped)
        refine .read ?_ header_fragments
        rw [FileSystem.readText_eq located receives.file,
          Content.text?_ofText])
  refine ⟨_, (assemble_eq_ok_iff_lines root _).mpr
    ⟨valid, others, again, rfl⟩, ?_⟩
  rw [flatten_eq]

/-- To make a header again, with the same arguments, on the tree that the first
run left: the text is the same and so is the tree. -/
theorem generate_again {header : Header} (wellFormed : files.WellFormed)
    (generated : (generate files settings root destination).2.outcome =
      .ok header)
    (parents : HasParent files destination)
    (apart : ∀ source ∈ Discovery.locate files settings root,
      ∀ location, files.locate .use source = .ok (.taken location) →
        files.locate .use destination ≠ .ok (.taken location))
    (unbroken : settings.Unbroken)
    (unled : Unled files settings (Discovery.locate files settings root)) :
    (generate (generate files settings root destination).1 settings root
          destination).1 =
        (generate files settings root destination).1 ∧
      ∃ again,
        (generate (generate files settings root destination).1 settings root
            destination).2.outcome = .ok again ∧
          again.text = header.text := by
  generalize after_eq : (generate files settings root destination).1 = after
  obtain ⟨assembled, written⟩ :=
    (generate_eq_ok_iff parents header).mp ⟨after_eq, generated⟩
  obtain ⟨spot, created, receives⟩ :=
    FileSystem.receives_of_writeBytes written
  have after_wellFormed :=
    FileSystem.wellFormed_of_writeBytes wellFormed written
  have sources_apart : ∀ source ∈ Discovery.locate files settings root,
      files.locate .use source ≠ .ok (.taken spot.location) := by
    intro source listed located
    cases spot with
    | taken location =>
        obtain ⟨nonempty, short, leads⟩ :=
          FileSystem.locate_eq_ok_iff.mp created
        exact apart source listed location located
          (FileSystem.locate_eq_ok_iff.mpr ⟨nonempty, short, leads.use⟩)
    | vacant parent name =>
        -- No source led to where nothing was.
        obtain ⟨node, found, _⟩ := FileSystem.isSettled_of_locate located
        rw [Spot.location, (FileSystem.vacant_of_locate created).2.1] at found
        cases found
  obtain ⟨again, again_assembled, text_eq⟩ := assemble_again wellFormed
    after_wellFormed assembled receives sources_apart unbroken unled
  have parents_after : HasParent after destination := fun parent parent_eq =>
    (parents parent parent_eq).imp_right receives.toExtends.isDirectory
  have written_again : after.writeText destination again.text = .ok after := by
    rw [text_eq]
    exact FileSystem.writeBytes_again written
  obtain ⟨unchanged, succeeded⟩ :=
    (generate_eq_ok_iff parents_after again).mpr
      ⟨again_assembled, written_again⟩
  exact ⟨unchanged, again, succeeded, text_eq⟩

def danglingSource : String :=
  written ["BEGIN_TILING_DATA_DEF(A)", "TILING_DATA_FIELD_DEF(T, x)",
    "END_TILING_DATA_DEF"]

/-- A description, and a link to a header that is not there yet. -/
def danglingTree : FileSystem :=
  ⟨.folder "src"
    (.file "a_tilingdata.h" (.ofText danglingSource)
      (.link "z_tilingdata.h" "../out.h" .empty)) .empty, []⟩

def danglingHeader : Header where
  text := written
    ["#ifndef __TIKCFW_KERNEL_TILING_H_", "#define __TIKCFW_KERNEL_TILING_H_",
      "", "#if defined(ASCENDC_CPU_DEBUG)", "#include <cstdint>",
      "#include <cstring>", "#endif", "", "#pragma pack(push, 8)",
      "struct A \x7b", "    T x = 0;", "\x7d;", "#pragma pack(pop)", "#endif"]
  sources := ["src/a_tilingdata.h"]

/-- The tree after the first run: the link leads to the header. -/
def linkedHeaderTree : FileSystem :=
  ⟨.folder "src"
    (.file "a_tilingdata.h" (.ofText danglingSource)
      (.link "z_tilingdata.h" "../out.h" .empty))
    (.file "out.h" (.ofText danglingHeader.text) .empty), []⟩

theorem locate_danglingTree :
    Discovery.locate danglingTree {} "src" = ["src/a_tilingdata.h"] := by
  decide +kernel

theorem unled_danglingTree :
    Unled danglingTree {} (Discovery.locate danglingTree {} "src") := by
  intro source listed pieces yields member said kind
  rw [locate_danglingTree, List.mem_singleton] at listed
  subst listed
  have text_eq : danglingTree.readText "src/a_tilingdata.h" =
      .ok danglingSource := by
    decide +kernel
  have pieces_eq : (Description.fragments {} danglingSource).outcome =
      .ok [.whole ⟨"A", 8, [.scalar "T" "x"]⟩] := by
    decide +kernel
  cases yields with
  | missing absent =>
      rw [text_eq] at absent
      cases absent
  | read text built =>
      rw [text_eq] at text
      cases text
      rw [pieces_eq] at built
      cases built
      obtain rfl : member = .scalar "T" "x" := by
        simpa [Fragment.events] using said
      cases kind <;> decide

theorem mem_locate_linkedHeaderTree :
    "src/z_tilingdata.h" ∈ Discovery.locate linkedHeaderTree {} "src" := by
  have located : linkedHeaderTree.locate .use "src" = .ok (.taken ["src"]) := by
    decide +kernel
  have folder : linkedHeaderTree.node? ["src"] = some .folder := rfl
  refine (Discovery.mem_locate_iff (by decide) {} located folder _).mpr
    ⟨[], "z_tilingdata.h", by decide +kernel, by decide +kernel, ?_,
      by decide +kernel, by decide +kernel⟩
  intro above leading
  obtain rfl := List.prefix_nil.mp leading
  exact folder

theorem generate_again_dangling :
    (generate danglingTree {} "src" "out.h").1 = linkedHeaderTree ∧
      (generate danglingTree {} "src" "out.h").2.outcome =
        .ok danglingHeader ∧
      "src/z_tilingdata.h" ∈ Discovery.locate linkedHeaderTree {} "src" ∧
      (generate linkedHeaderTree {} "src" "out.h").1 = linkedHeaderTree ∧
      ∃ again,
        (generate linkedHeaderTree {} "src" "out.h").2.outcome = .ok again ∧
          again.text = danglingHeader.text := by
  obtain ⟨after_eq, generated⟩ :
      (generate danglingTree {} "src" "out.h").1 = linkedHeaderTree ∧
        (generate danglingTree {} "src" "out.h").2.outcome =
          .ok danglingHeader := by
    decide +kernel
  have vacant : danglingTree.locate .use "out.h" = .ok (.vacant [] "out.h") := by
    decide +kernel
  have bare : Path.parent? "out.h" = some "" := by decide +kernel
  have parents : HasParent danglingTree "out.h" := by
    intro parent parent_eq
    rw [bare] at parent_eq
    exact .inl (Option.some.inj parent_eq).symm
  have apart : ∀ source ∈ Discovery.locate danglingTree {} "src",
      ∀ location, danglingTree.locate .use source = .ok (.taken location) →
        danglingTree.locate .use "out.h" ≠ .ok (.taken location) := by
    intro source _ location _
    rw [vacant]
    nofun
  have again := generate_again (by decide) generated parents apart
    ⟨by decide, by decide, by decide⟩ unled_danglingTree
  rw [after_eq] at again
  exact ⟨after_eq, generated, mem_locate_linkedHeaderTree, again⟩

end Header

end TilingHeader
