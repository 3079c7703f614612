import TilingHeader.Proofs.Command.Execution
import TilingHeader.Proofs.Settings.Properties
import TilingHeader.Proofs.Toml.Names

namespace TilingHeader.Settings

/-! Settings from a file.  A document that fits overrides the defaults where it
names a property, in whatever order it does so, and the result has to be sound.
One that does not fit is refused for its first field that is wrong, before
anything is said about soundness. -/

open FileTree (AccessError FileSystem)
open Toml (Document Field Located)

def entries (document : Document) : List Entry :=
  document.map entry

/-- A property that is named has the datum of its key, and the others are as
they were. -/
structure Overrides (base : Settings) (entries : List Entry)
    (settings : Settings) : Prop where
  named : ∀ entry ∈ entries, ∀ property : Property,
    entry.key = property.key → entry.datum? = some (settings.get property)
  unnamed : ∀ property : Property, property.key ∉ entries.map Entry.key →
    settings.get property = base.get property

theorem overrides_iff (base : Settings) (entries : List Entry)
    (settings : Settings) :
    Overrides base entries settings ↔
      (∀ entry ∈ entries, ∀ property ∈ Property.all,
        entry.key = property.key →
          entry.datum? = some (settings.get property)) ∧
      ∀ property ∈ Property.all, property.key ∉ entries.map Entry.key →
        settings.get property = base.get property := by
  simp only [Property.mem_all, forall_const]
  constructor
  · intro overrides
    exact ⟨overrides.named, overrides.unnamed⟩
  · intro parts
    exact ⟨parts.1, parts.2⟩

instance (base : Settings) (entries : List Entry) (settings : Settings) :
    Decidable (Overrides base entries settings) :=
  decidable_of_iff' _ (overrides_iff base entries settings)

section Overrides

variable {base settings other : Settings} {listed others : List Entry}

theorem Overrides.eq (overrides : Overrides base listed settings)
    (other_overrides : Overrides base listed other) : settings = other := by
  refine eq_of_get fun property => ?_
  by_cases mentioned : property.key ∈ listed.map Entry.key
  · obtain ⟨entry, member, key_eq⟩ := List.mem_map.mp mentioned
    have said := overrides.named entry member property key_eq
    rw [other_overrides.named entry member property key_eq] at said
    exact (Option.some.inj said).symm
  · rw [overrides.unnamed property mentioned,
      other_overrides.unnamed property mentioned]

theorem Overrides.of_perm (overrides : Overrides base listed settings)
    (reordered : listed.Perm others) : Overrides base others settings := by
  refine ⟨fun entry member => ?_, fun property unmentioned => ?_⟩
  · exact overrides.named entry (reordered.mem_iff.mpr member)
  · refine overrides.unnamed property fun mentioned => unmentioned ?_
    exact (reordered.map Entry.key).mem_iff.mp mentioned

theorem overrides_iff_of_perm (reordered : listed.Perm others) :
    Overrides base listed settings ↔ Overrides base others settings :=
  ⟨fun overrides => overrides.of_perm reordered,
    fun overrides => overrides.of_perm reordered.symm⟩

theorem forall_fits_iff_of_perm (reordered : listed.Perm others) :
    (∀ entry ∈ listed, Fits entry) ↔ ∀ entry ∈ others, Fits entry := by
  simp only [reordered.mem_iff]

end Overrides

/-! All fields of a document. -/

section Fold

variable {base settings : Settings} {document : Document}
  {mismatch : Located Mismatch}

/-- A field that is set overrides what was there, and the fields behind it have
other names. -/
theorem Overrides.cons {field : Field} {middle : Settings}
    (set : setField base field = .ok middle)
    (absent : field.key.name ∉ document.names)
    (overrides : Overrides middle (entries document) settings) :
    Overrides base (entries (field :: document)) settings := by
  obtain ⟨property, named⟩ := known_of_setField set
  obtain ⟨datum, means, get_eq⟩ := get_of_setField named set
  have names_eq : (entries document).map Entry.key = document.names :=
    List.map_map
  have kept : settings.get property = datum := by
    rw [named, ← names_eq] at absent
    rw [overrides.unnamed property absent, get_eq, Function.update_self]
  constructor
  · intro said member other other_named
    rcases List.mem_cons.mp member with rfl | later
    · have same : property = other :=
        Property.key_injective (named.symm.trans other_named)
      rw [← same, kept]
      exact means
    · exact overrides.named said later other other_named
  · intro other unmentioned
    rw [entries, List.map_cons, List.map_cons, List.mem_cons, not_or]
      at unmentioned
    have apart : other ≠ property := by
      rintro rfl
      exact unmentioned.1 named.symm
    rw [overrides.unnamed other unmentioned.2, get_eq,
      Function.update_of_ne apart]

theorem overrides_of_foldlM (distinct : document.names.Nodup)
    (folded : document.foldlM setField base = .ok settings) :
    (∀ entry ∈ entries document, Fits entry) ∧
      Overrides base (entries document) settings := by
  induction document generalizing base with
  | nil =>
      cases folded
      exact ⟨nofun, nofun, fun _ _ => rfl⟩
  | cons field rest induction =>
      rw [List.foldlM_cons] at folded
      obtain ⟨absent, rest_distinct⟩ := List.nodup_cons.mp distinct
      cases set : setField base field with
      | error mismatch =>
          rw [set] at folded
          cases folded
      | ok middle =>
          rw [set] at folded
          obtain ⟨rest_fits, overrides⟩ := induction rest_distinct folded
          exact ⟨List.forall_mem_cons.mpr ⟨fits_of_setField set, rest_fits⟩,
            overrides.cons set absent⟩

theorem misfits_of_foldlM
    (failed : document.foldlM setField base = .error mismatch) :
    ∃ before field after, document = before ++ field :: after ∧
      (∀ entry ∈ entries before, Fits entry) ∧ Misfits field mismatch := by
  induction document generalizing base with
  | nil => cases failed
  | cons field rest induction =>
      rw [List.foldlM_cons] at failed
      cases set : setField base field with
      | error found =>
          rw [set] at failed
          cases failed
          exact ⟨[], field, rest, rfl, nofun, misfits_of_setField set⟩
      | ok middle =>
          rw [set] at failed
          obtain ⟨before, wrong, after, rfl, before_fits, misfits⟩ :=
            induction failed
          exact ⟨field :: before, wrong, after, rfl,
            List.forall_mem_cons.mpr ⟨fits_of_setField set, before_fits⟩,
            misfits⟩

theorem exists_ofDocument_of_fits
    (fits : ∀ entry ∈ entries document, Fits entry) :
    ∃ settings, ofDocument document = .ok settings := by
  cases outcome : ofDocument document with
  | ok settings => exact ⟨settings, rfl⟩
  | error mismatch =>
      obtain ⟨before, field, after, rfl, _, misfits⟩ :=
        misfits_of_foldlM outcome
      have member : entry field ∈ entries (before ++ field :: after) :=
        List.mem_map_of_mem (by simp)
      exact absurd (fits _ member) misfits.not_fits

theorem ofDocument_eq_ok_iff (distinct : document.names.Nodup)
    (settings : Settings) :
    ofDocument document = .ok settings ↔
      (∀ entry ∈ entries document, Fits entry) ∧
        Overrides {} (entries document) settings := by
  constructor
  · exact overrides_of_foldlM distinct
  · rintro ⟨fits, overrides⟩
    obtain ⟨found, given⟩ := exists_ofDocument_of_fits fits
    rw [given, (overrides_of_foldlM distinct given).2.eq overrides]

end Fold

/-! Files. -/

/-- The file at the path has a text, and the text is a document. -/
structure Reads (files : FileSystem) (path text : String)
    (document : Document) : Prop where
  text_eq : files.readText path = .ok text
  document_eq : Document.read? text = some document

section File

variable {files : FileSystem} {path text : String} {document : Document}

theorem Reads.distinct (reads : Reads files path text document) :
    document.names.Nodup :=
  Document.nodup_names_of_read? reads.document_eq

theorem load_of_unreadable {cause : AccessError}
    (refused : files.readText path = .error cause) :
    load files (some path) = .error (.unreadable path cause) := by
  rw [load, refused]

theorem load_of_unparsable (text_eq : files.readText path = .ok text)
    (refused : Document.read? text = none) :
    load files (some path) = .error (.unparsable path) := by
  rw [load, text_eq]
  dsimp only
  rw [ofText, refused]

theorem load_of_misfit (reads : Reads files path text document)
    {mismatch : Located Mismatch}
    (refused : ofDocument document = .error mismatch) :
    load files (some path) = .error (.unfitting path (report text mismatch)) := by
  rw [load, reads.text_eq]
  dsimp only
  rw [ofText, reads.document_eq]
  dsimp only
  rw [refused]

theorem load_of_fit (reads : Reads files path text document)
    {settings : Settings} (given : ofDocument document = .ok settings) :
    load files (some path) = settings.check.map fun _ => settings := by
  rw [load, reads.text_eq]
  dsimp only
  rw [ofText, reads.document_eq]
  dsimp only
  rw [given]
  dsimp only
  cases settings.check <;> rfl

theorem load_eq_ok_iff (reads : Reads files path text document)
    (settings : Settings) :
    load files (some path) = .ok settings ↔
      (∀ entry ∈ entries document, Fits entry) ∧
        Overrides {} (entries document) settings ∧
        settings.check = .ok () := by
  rw [← and_assoc, ← ofDocument_eq_ok_iff reads.distinct]
  cases outcome : ofDocument document with
  | error mismatch =>
      rw [load_of_misfit reads outcome]
      simp
  | ok found =>
      rw [load_of_fit reads outcome, Except.ok.injEq]
      constructor
      · intro loaded
        cases checked : found.check with
        | error cause =>
            rw [checked] at loaded
            cases loaded
        | ok done =>
            rw [checked] at loaded
            cases loaded
            exact ⟨rfl, checked⟩
      · rintro ⟨rfl, checked⟩
        rw [checked]
        rfl

theorem load_eq_unsound_iff (reads : Reads files path text document)
    (defect : Defect) :
    load files (some path) = .error (.unsound defect) ↔
      (∀ entry ∈ entries document, Fits entry) ∧
        ∃ settings, Overrides {} (entries document) settings ∧
          settings.defect? = some defect := by
  have given_iff (settings : Settings) :=
    ofDocument_eq_ok_iff reads.distinct settings
  simp only [← exists_and_left, ← and_assoc, ← given_iff]
  cases outcome : ofDocument document with
  | error mismatch =>
      rw [load_of_misfit reads outcome]
      simp
  | ok found =>
      rw [load_of_fit reads outcome, check]
      simp only [Except.ok.injEq, exists_eq_left']
      cases found.defect? <;> simp [Except.map]

theorem load_of_not_fits (reads : Reads files path text document)
    (misfit : ¬ ∀ entry ∈ entries document, Fits entry) :
    ∃ before field after mismatch, document = before ++ field :: after ∧
      (∀ entry ∈ entries before, Fits entry) ∧ Misfits field mismatch ∧
      load files (some path) =
        .error (.unfitting path (report text mismatch)) := by
  cases outcome : ofDocument document with
  | error mismatch =>
      obtain ⟨before, field, after, document_eq, before_fits, misfits⟩ :=
        misfits_of_foldlM outcome
      exact ⟨before, field, after, mismatch, document_eq, before_fits, misfits,
        load_of_misfit reads outcome⟩
  | ok settings =>
      exact absurd (overrides_of_foldlM reads.distinct outcome).1 misfit

theorem load_eq_unfitting_iff (reads : Reads files path text document) :
    (∃ said, load files (some path) = .error (.unfitting path said)) ↔
      ¬ ∀ entry ∈ entries document, Fits entry := by
  constructor
  · rintro ⟨said, refused⟩ fits
    obtain ⟨settings, given⟩ := exists_ofDocument_of_fits fits
    rw [load_of_fit reads given, check] at refused
    cases defective : settings.defect? <;> rw [defective] at refused <;>
      cases refused
  · intro misfit
    obtain ⟨_, _, _, mismatch, _, _, _, refused⟩ := load_of_not_fits reads misfit
    exact ⟨report text mismatch, refused⟩

end File

/-- What a file says is taken over the defaults, if all of it fits and the
result is sound.  It is no matter in which order the file says it, and what is
wrong with a field comes before what is wrong with the result. -/
theorem load_overrides_defaults (files : FileSystem) :
    (∀ path cause, files.readText path = .error cause →
      load files (some path) = .error (.unreadable path cause)) ∧
    (∀ path text, files.readText path = .ok text →
      Document.read? text = none →
        load files (some path) = .error (.unparsable path)) ∧
    (∀ path text document, Reads files path text document →
      document.names.Nodup ∧
      (∀ settings, load files (some path) = .ok settings ↔
        (∀ entry ∈ entries document, Fits entry) ∧
          Overrides {} (entries document) settings ∧
          settings.check = .ok ()) ∧
      ((∀ entry ∈ entries document, Fits entry) →
        ∃! settings, Overrides {} (entries document) settings) ∧
      (∀ defect, load files (some path) = .error (.unsound defect) ↔
        (∀ entry ∈ entries document, Fits entry) ∧
          ∃ settings, Overrides {} (entries document) settings ∧
            settings.defect? = some defect) ∧
      ((¬ ∀ entry ∈ entries document, Fits entry) →
        ∃ before field after mismatch, document = before ++ field :: after ∧
          (∀ entry ∈ entries before, Fits entry) ∧ Misfits field mismatch ∧
          load files (some path) =
            .error (.unfitting path (report text mismatch))) ∧
      ∀ other_path other_text other,
        Reads files other_path other_text other →
        (entries document).Perm (entries other) →
          (∀ settings, load files (some path) = .ok settings ↔
            load files (some other_path) = .ok settings) ∧
          (∀ defect, load files (some path) = .error (.unsound defect) ↔
            load files (some other_path) = .error (.unsound defect)) ∧
          ((∃ said, load files (some path) = .error (.unfitting path said)) ↔
            ∃ said, load files (some other_path) =
              .error (.unfitting other_path said))) ∧
    ∀ given settings, load files given = .ok settings →
      ∀ others root destination cause,
        (Header.generate others settings root destination).2.outcome ≠
          .error (.config cause) := by
  refine ⟨fun _ _ => load_of_unreadable, fun _ _ => load_of_unparsable,
    fun path text document reads => ?_, fun given settings loaded => ?_⟩
  · refine ⟨reads.distinct, load_eq_ok_iff reads, fun fits => ?_,
      load_eq_unsound_iff reads, load_of_not_fits reads, ?_⟩
    · obtain ⟨settings, given⟩ := exists_ofDocument_of_fits fits
      have overrides := (overrides_of_foldlM reads.distinct given).2
      exact ⟨settings, overrides, fun _ others => others.eq overrides⟩
    · intro other_path other_text other other_reads reordered
      have fits_iff := forall_fits_iff_of_perm reordered
      refine ⟨fun settings => ?_, fun defect => ?_, ?_⟩
      · rw [load_eq_ok_iff reads, load_eq_ok_iff other_reads, fits_iff,
          overrides_iff_of_perm reordered]
      · rw [load_eq_unsound_iff reads, load_eq_unsound_iff other_reads, fits_iff]
        simp only [overrides_iff_of_perm reordered]
      · rw [load_eq_unfitting_iff reads, load_eq_unfitting_iff other_reads,
          fits_iff]
  · intro others root destination cause
    exact Header.generate_ne_config (valid_of_load loaded) cause

/-- One document in two orders, one with an unknown key behind an empty suffix,
one that fits and is not sound, a text that is no document, and bytes that are
no text. -/
def documentTree : FileSystem :=
  ⟨.file "a" (.ofText "strict = false\npack-alignment = 4\n")
    (.file "b" (.ofText "pack-alignment = 4\nstrict = false\n")
      (.file "c" (.ofText "suffix = \"\"\ncolour = 1\n")
        (.file "d" (.ofText "pack-alignment = 6\n")
          (.file "e" (.ofText "strict\n") (.file "f" [255] .empty))))), []⟩

def textAt (path : String) : String :=
  (documentTree.readText path).toOption.getD ""

def documentAt (path : String) : Document :=
  (Document.read? (textAt path)).getD []

theorem reads_documentAt {path : String}
    (readable : (documentTree.readText path).toOption.isSome = true)
    (parsable : (Document.read? (textAt path)).isSome = true) :
    Reads documentTree path (textAt path) (documentAt path) := by
  obtain ⟨text, text_eq⟩ := Option.isSome_iff_exists.mp readable
  obtain ⟨document, document_eq⟩ := Option.isSome_iff_exists.mp parsable
  constructor
  · rw [eq_ok_iff_toOption, textAt, text_eq, Option.getD_some]
  · rw [documentAt, document_eq, Option.getD_some]

theorem load_overrides_defaults_of_tree :
    (entries (documentAt "a")).Perm (entries (documentAt "b")) ∧
      load documentTree (some "a") =
        .ok { packAlignment := 4, strict := false } ∧
      load documentTree (some "b") =
        .ok { packAlignment := 4, strict := false } ∧
      (∃ field mismatch, Misfits field mismatch ∧
        load documentTree (some "c") =
          .error (.unfitting "c" (report (textAt "c") mismatch))) ∧
      load documentTree (some "d") = .error (.unsound (.alignment 6)) ∧
      load documentTree (some "e") = .error (.unparsable "e") ∧
      load documentTree (some "f") = .error (.unreadable "f" .notText) ∧
      ∀ cause, (Header.generate documentTree
        { packAlignment := 4, strict := false } "." "h").2.outcome ≠
          .error (.config cause) := by
  obtain ⟨unreadable, unparsable, readable, sound⟩ :=
    load_overrides_defaults documentTree
  have reordered :
      (entries (documentAt "a")).Perm (entries (documentAt "b")) := by
    decide +kernel
  have reads_a : Reads documentTree "a" (textAt "a") (documentAt "a") :=
    reads_documentAt (by decide +kernel) (by decide +kernel)
  have reads_b : Reads documentTree "b" (textAt "b") (documentAt "b") :=
    reads_documentAt (by decide +kernel) (by decide +kernel)
  have reads_c : Reads documentTree "c" (textAt "c") (documentAt "c") :=
    reads_documentAt (by decide +kernel) (by decide +kernel)
  have reads_d : Reads documentTree "d" (textAt "d") (documentAt "d") :=
    reads_documentAt (by decide +kernel) (by decide +kernel)
  obtain ⟨_, loads_a_iff, _, _, _, in_any_order⟩ := readable _ _ _ reads_a
  have loads_a : load documentTree (some "a") =
      .ok { packAlignment := 4, strict := false } :=
    (loads_a_iff _).mpr
      ⟨by decide +kernel, by decide +kernel, by decide +kernel⟩
  have loads_b := ((in_any_order _ _ _ reads_b reordered).1 _).mp loads_a
  obtain ⟨_, _, _, _, refuses_c, _⟩ := readable _ _ _ reads_c
  obtain ⟨_, field, _, mismatch, _, _, misfits, refused⟩ :=
    refuses_c (by decide +kernel)
  obtain ⟨_, _, _, unsound_d_iff, _, _⟩ := readable _ _ _ reads_d
  have unsound_d := (unsound_d_iff (.alignment 6)).mpr
    ⟨by decide +kernel, { packAlignment := 6 }, by decide +kernel,
      by decide +kernel⟩
  have no_document : Document.read? "strict\n" = none := by
    rw [← Option.isNone_iff_eq_none]
    decide +kernel
  exact ⟨reordered, loads_a, loads_b, ⟨field, mismatch, misfits, refused⟩,
    unsound_d, unparsable "e" _ (by decide +kernel) no_document,
    unreadable "f" _ (by decide +kernel), sound _ _ loads_a _ _ _⟩

end TilingHeader.Settings
