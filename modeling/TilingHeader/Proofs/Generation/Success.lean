import TilingHeader.Proofs.FileTree.Writing
import TilingHeader.Proofs.Generation.Failure

namespace TilingHeader.Header

/-! What a run that succeeds leaves behind.  The directories on the way to the
destination are made first and the file is written then; either step keeps all
that it does not make. -/

open FileTree

variable {files after : FileSystem} {destination : String}

/-- The directory that the destination is to be in is there, or none is asked
for. -/
def HasParent (files : FileSystem) (destination : String) : Prop :=
  ∀ parent, Path.parent? destination = some parent →
    parent = "" ∨ files.isDirectory parent = true

theorem makeParent_of_hasParent (parents : HasParent files destination) :
    makeParent files destination = (files, .ok ()) := by
  rw [makeParent]
  cases parent_eq : Path.parent? destination with
  | none => rfl
  | some parent =>
      rcases parents parent parent_eq with rfl | there
      · rfl
      · simp only [FileSystem.makeDirectories_of_isDirectory there]
        exact ite_self _

theorem persist_of_hasParent (parents : HasParent files destination)
    (text : String) :
    persist files destination text =
      match files.writeText destination text with
      | .error cause => (files, .fail (.persistence destination cause))
      | .ok written =>
          (written, .note (.wrote text.utf8ByteSize destination)) := by
  have no_parent := makeParent_of_hasParent parents
  cases written : files.writeText destination text <;>
    simp only [persist, no_parent, written]

theorem HasParent.mono (parents : HasParent files destination)
    (grown : files.Extends after) : HasParent after destination :=
  fun parent parent_eq => (parents parent parent_eq).imp_right grown.isDirectory

theorem hasParent_of_makeParent
    (made : makeParent files destination = (after, .ok ())) :
    HasParent after destination := by
  intro parent parent_eq
  rw [makeParent, parent_eq] at made
  by_cases empty : parent = ""
  · exact .inl empty
  · right
    simp only [if_neg empty] at made
    cases outcome : files.makeDirectories parent with
    | mk grown result =>
        rw [outcome] at made
        cases result with
        | error cause => cases made
        | ok done =>
            cases made
            exact FileSystem.isDirectory_of_makeDirectories empty outcome

theorem exists_of_persist {text : String}
    (succeeded : (persist files destination text).2.outcome = .ok ()) :
    ∃ grown, makeParent files destination = (grown, .ok ()) ∧
      grown.writeText destination text =
        .ok (persist files destination text).1 := by
  rw [persist] at succeeded ⊢
  cases outcome : makeParent files destination with
  | mk grown made =>
      rw [outcome] at succeeded
      cases made with
      | error cause => cases succeeded
      | ok done =>
          refine ⟨grown, rfl, ?_⟩
          dsimp only at succeeded ⊢
          cases written : grown.writeText destination text with
          | error cause =>
              rw [written] at succeeded
              cases succeeded
          | ok result => rfl

/-- The destination leads to a file with the text.  All else that was there is
there as it was, and all else that is new is directories on the path of the
destination's parent. -/
structure Delivers (files after : FileSystem) (destination text : String)
    (place : Location) : Prop where
  current_eq : after.current = files.current
  leads : after.locate .use destination = .ok (.taken place)
  file : after.node? place = some (.file (.ofText text))
  replaced : ∀ node, files.node? place = some node → ∃ old, node = .file old
  kept : ∀ location node, location ≠ place →
    files.node? location = some node → after.node? location = some node
  added : ∀ location node, location ≠ place →
    files.node? location = none → after.node? location = some node →
      node = .folder ∧ ∃ path ∈ parentPaths destination,
        after.locate .use path = .ok (.taken location)

theorem Delivers.readText_eq {text : String} {place : Location}
    (delivers : Delivers files after destination text place) :
    after.readText destination = .ok text := by
  rw [FileSystem.readText_eq delivers.leads delivers.file,
    Content.text?_ofText]

theorem delivers_of_writeText {grown : FileSystem} {text : String}
    (growth : files.GrownAlong grown (parentPaths destination))
    (written : grown.writeText destination text = .ok after) :
    ∃ place, Delivers files after destination text place := by
  obtain ⟨spot, located, receives⟩ := FileSystem.receives_of_writeBytes written
  refine ⟨spot.location, ?_, ?_, receives.file, ?_, ?_, ?_⟩
  · exact receives.current_eq.trans growth.current_eq
  · exact receives.locate_written (FileSystem.locate_use located)
  · exact fun node found => receives.free node (growth.kept _ _ found)
  · exact fun location node apart found =>
      (receives.kept location apart).trans (growth.kept _ _ found)
  · intro location node apart absent found
    rw [receives.kept location apart] at found
    obtain ⟨folder, path, listed, path_located⟩ :=
      growth.added location node absent found
    exact ⟨folder, path, listed,
      receives.toExtends.locate_taken path_located⟩

theorem persist_again {grown : FileSystem} {text : String}
    (parents : HasParent grown destination)
    (written : grown.writeText destination text = .ok after) :
    persist after destination text =
      (after, .note (.wrote text.utf8ByteSize destination)) := by
  obtain ⟨_, _, receives⟩ := FileSystem.receives_of_writeBytes written
  have written_again : after.writeText destination text = .ok after :=
    FileSystem.writeBytes_again written
  rw [persist_of_hasParent (parents.mono receives.toExtends), written_again]

variable {settings : Settings} {root : String} {header : Header}

theorem generate_eq_ok
    (generated : (generate files settings root destination).2.outcome =
      .ok header) :
    (assemble files settings root).outcome = .ok header ∧
      (generate files settings root destination).1 =
        (persist files destination header.text).1 ∧
      (persist files destination header.text).2.outcome = .ok () := by
  cases assembled : (assemble files settings root).outcome with
  | error failure =>
      rw [generate_of_error assembled, assembled] at generated
      cases generated
  | ok made =>
      obtain ⟨after_eq, outcome_eq⟩ :=
        @generate_of_ok files settings root destination made assembled
      rw [outcome_eq] at generated
      cases persisted : (persist files destination made.text).2.outcome with
      | error cause =>
          rw [persisted] at generated
          cases generated
      | ok done =>
          rw [persisted] at generated
          cases generated
          exact ⟨rfl, after_eq, persisted⟩

/-- A run that succeeds gives the header of the tree as it was, and the
destination then reads as its text.  Nothing else that was there has changed,
and what else is new is directories on the way.  To write the header once more
changes nothing. -/
theorem generate_changes_only_destination {files : FileSystem}
    {settings : Settings} {root destination : String} {header : Header}
    (generated : (generate files settings root destination).2.outcome =
      .ok header) :
    (assemble files settings root).outcome = .ok header ∧
      (generate files settings root destination).1.readText destination =
        .ok header.text ∧
      (∃ place, Delivers files
        (generate files settings root destination).1 destination header.text
          place) ∧
      persist (generate files settings root destination).1 destination
          header.text =
        ((generate files settings root destination).1,
          .note (.wrote header.text.utf8ByteSize destination)) := by
  obtain ⟨assembled, after_eq, persisted⟩ := generate_eq_ok generated
  rw [after_eq]
  obtain ⟨grown, made, written⟩ := exists_of_persist persisted
  have growth := grownAlong_makeParent files destination
  rw [made] at growth
  obtain ⟨place, delivers⟩ := delivers_of_writeText growth written
  exact ⟨assembled, delivers.readText_eq, ⟨place, delivers⟩,
    persist_again (hasParent_of_makeParent made) written⟩

/-- The destination is a link to the only description, which says nothing. -/
def sharedTree : FileSystem :=
  ⟨.folder "src" (.file "a_tilingdata.h" [] .empty)
    (.link "out.h" "src/a_tilingdata.h" .empty), []⟩

def bareHeader : Header :=
  ⟨({} : Settings).prologue ++ Settings.epilogue, ["src/a_tilingdata.h"]⟩

theorem generate_changes_only_destination_shared :
    (generate sharedTree {} "src" "n/../out.h").2.outcome = .ok bareHeader ∧
      (generate sharedTree {} "src" "n/../out.h").1.node?
          ["src", "a_tilingdata.h"] =
        some (.file (.ofText bareHeader.text)) ∧
      (generate sharedTree {} "src" "n/../out.h").1.node? ["out.h"] =
        some (.link "src/a_tilingdata.h") := by
  have generated : (generate sharedTree {} "src" "n/../out.h").2.outcome =
      .ok bareHeader := by
    decide +kernel
  have leads : (generate sharedTree {} "src" "n/../out.h").1.locate .use
      "n/../out.h" = .ok (.taken ["src", "a_tilingdata.h"]) := by
    decide +kernel
  obtain ⟨_, _, ⟨place, delivers⟩, _⟩ :=
    generate_changes_only_destination generated
  have place_eq := leads.symm.trans delivers.leads
  cases place_eq
  exact ⟨generated, delivers.file,
    delivers.kept ["out.h"] (.link "src/a_tilingdata.h") (by decide) rfl⟩

end TilingHeader.Header
