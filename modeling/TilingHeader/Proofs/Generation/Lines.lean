import TilingHeader.Proofs.Generation.Assembly

namespace TilingHeader

/-! A header line by line.  No text that goes into one can break a line: the
settings are taken to be unbroken, and the texts of a description are tidy. -/

namespace Settings

/-- No text that the settings give for a header has a line break in it. -/
structure Unbroken (settings : Settings) : Prop where
  guard_one_line : '\n' ∉ settings.includeGuard.toList
  debugMacro_one_line : '\n' ∉ settings.debugMacro.toList
  debugIncludes_one_line :
    ∀ file ∈ settings.debugIncludes, '\n' ∉ file.toList

def includeLine (file : String) : String :=
  "#include <" ++ file ++ ">"

def debugLines (settings : Settings) : List String :=
  if settings.debugIncludes = [] then []
  else
    ("#if defined(" ++ settings.debugMacro ++ ")") ::
      settings.debugIncludes.map includeLine ++ ["#endif", ""]

def prologueLines (settings : Settings) : List String :=
  ("#ifndef " ++ settings.includeGuard) ::
    ("#define " ++ settings.includeGuard) :: "" :: settings.debugLines

theorem written_includeLines (files : List String) :
    written (files.map includeLine) = String.join (files.map includeText) := by
  rw [written, List.map_map]
  have line_text : (fun line => line ++ "\n") ∘ includeLine = includeText := by
    funext file
    simp [includeLine, includeText, String.append_assoc]
  rw [line_text]

theorem written_debugLines (settings : Settings) :
    written settings.debugLines = settings.debugBlock := by
  rw [debugLines, debugBlock]
  split
  · rfl
  · have macro_end : ")\n" = ")" ++ "\n" := by simp
    have block_end : "#endif\n\n" = "#endif" ++ "\n" ++ ("" ++ "\n") := by simp
    rw [List.cons_append, written_cons, written_append, written_includeLines,
      macro_end, block_end]
    simp [String.append_assoc]

theorem written_prologueLines (settings : Settings) :
    written settings.prologueLines = settings.prologue := by
  have define_end : "\n\n" = "\n" ++ ("" ++ "\n") := by simp
  rw [prologueLines, prologue, written_cons, written_cons, written_cons,
    written_debugLines, define_end]
  simp only [String.append_assoc]

theorem written_epilogue : written ["#endif"] = epilogue := by
  simp [epilogue]

theorem Unbroken.prologueLines_one_line {settings : Settings}
    (unbroken : settings.Unbroken) :
    ∀ line ∈ settings.prologueLines, '\n' ∉ line.toList := by
  have guard := unbroken.guard_one_line
  have debug := unbroken.debugMacro_one_line
  have includes : ∀ file ∈ settings.debugIncludes,
      '\n' ∉ (includeLine file).toList := by
    intro file listed
    simp [includeLine, unbroken.debugIncludes_one_line file listed]
  rw [prologueLines, debugLines]
  split
  · simp [guard]
  · simp only [List.cons_append, List.forall_mem_cons, List.forall_mem_append,
      List.forall_mem_map]
    exact ⟨by simp [guard], by simp [guard], by simp, by simp [debug],
      includes, by simp⟩

end Settings

namespace Event

theorem lines_one_line {settings : Settings} (valid : settings.Valid)
    {event : Event} (tidy : ∀ text ∈ event.arguments, Text.Tidy text) :
    ∀ line ∈ event.lines settings.packAlignment, '\n' ∉ line.toList := by
  have digits : ∀ packing ∈ Settings.alignments,
      '\n' ∉ Nat.toDigits 10 packing := by decide
  have alignment := digits _ valid.alignment_mem
  cases event with
  | opening name =>
      have name_one := (tidy name List.mem_cons_self).one_line
      simp [lines, alignment, name_one]
  | member member =>
      cases member with
      | scalar type name =>
          have type_one := (tidy type (by simp [arguments])).one_line
          have name_one := (tidy name (by simp [arguments])).one_line
          simp [lines, Member.line, type_one, name_one]
      | array type length name =>
          have type_one := (tidy type (by simp [arguments])).one_line
          have length_one := (tidy length (by simp [arguments])).one_line
          have name_one := (tidy name (by simp [arguments])).one_line
          simp [lines, Member.line, type_one, length_one, name_one]
      | nested type name =>
          have type_one := (tidy type (by simp [arguments])).one_line
          have name_one := (tidy name (by simp [arguments])).one_line
          simp [lines, Member.line, type_one, name_one]
  | closing => simp [lines]

end Event

namespace Description

open FileTree

variable {files : FileSystem} {settings : Settings}

def addedLines (settings : Settings) (pieces : List Fragment) : List String :=
  (pieces.flatMap Fragment.events).flatMap
    (Event.lines settings.packAlignment)

theorem Yields.text_eq {path : String} {pieces : List Fragment}
    (yields : Yields files settings path pieces) :
    layoutText pieces = written (addedLines settings pieces) := by
  cases yields with
  | missing absent => rfl
  | read text built =>
      exact Fragment.layoutText_eq_written (packed_of_fragments built)

theorem Yields.tidy {path : String} {pieces : List Fragment}
    (yields : Yields files settings path pieces) :
    ∀ event ∈ pieces.flatMap Fragment.events, ∀ text ∈ event.arguments,
      Text.Tidy text := by
  cases yields with
  | missing absent => exact nofun
  | read text built => exact tidy_of_fragments built

theorem Yields.unique {path : String} {pieces others : List Fragment}
    (yields : Yields files settings path pieces)
    (other_yields : Yields files settings path others) : pieces = others := by
  cases yields with
  | missing absent =>
      cases other_yields with
      | missing _ => rfl
      | read other_text _ =>
          rw [absent] at other_text
          cases other_text
  | read text built =>
      cases other_yields with
      | missing absent =>
          rw [absent] at text
          cases text
      | read other_text other_built =>
          rw [text] at other_text
          cases other_text
          rw [built] at other_built
          exact Except.ok.inj other_built

theorem Yields.structs (strict : settings.strict = true) {path : String}
    {pieces : List Fragment} (yields : Yields files settings path pieces) :
    ∃ structs : List PackedStruct,
      (∀ body ∈ structs, body.packAlignment = settings.packAlignment) ∧
        addedLines settings pieces = structs.flatMap PackedStruct.lines := by
  cases yields with
  | missing absent => exact ⟨[], nofun, rfl⟩
  | read text built =>
      obtain ⟨structs, packed, rfl⟩ := structs_of_fragments strict built
      refine ⟨structs, packed, ?_⟩
      rw [addedLines, List.flatMap_map, List.flatMap_assoc]
      refine List.flatMap_congr fun body listed => ?_
      rw [← packed body listed]
      exact Fragment.whole_lines body

theorem addedLines_append (settings : Settings)
    (first second : List Fragment) :
    addedLines settings (first ++ second) =
      addedLines settings first ++ addedLines settings second := by
  simp [addedLines]

theorem written_addedLines_flatten (settings : Settings)
    (blocks : List (List Fragment)) :
    written (addedLines settings blocks.flatten) =
      String.join (blocks.map fun pieces =>
        written (addedLines settings pieces)) := by
  induction blocks with
  | nil => rfl
  | cons pieces rest induction =>
      rw [List.flatten_cons, addedLines_append, written_append, induction,
        List.map_cons, String.join_cons]

section Sources

variable {sources : List String} {blocks : List (List Fragment)}

theorem forall₂_contributes_iff (texts : List String) :
    List.Forall₂ (Contributes files settings) sources texts ↔
      ∃ blocks, List.Forall₂ (Yields files settings) sources blocks ∧
        texts = blocks.map fun pieces =>
          written (addedLines settings pieces) := by
  constructor
  · intro contributed
    induction contributed with
    | nil => exact ⟨[], .nil, rfl⟩
    | @cons path text sources texts contributed _ induction =>
        obtain ⟨pieces, yielded, rfl⟩ :=
          (contributes_iff path text).mp contributed
        obtain ⟨blocks, yields, rfl⟩ := induction
        exact ⟨pieces :: blocks, .cons yielded yields,
          by rw [yielded.text_eq, List.map_cons]⟩
  · rintro ⟨blocks, yields, rfl⟩
    induction yields with
    | nil => exact .nil
    | @cons path pieces sources blocks yielded _ induction =>
        exact .cons
          ((contributes_iff path _).mpr ⟨pieces, yielded, yielded.text_eq⟩)
          induction

theorem exists_source_of_mem
    (yields : List.Forall₂ (Yields files settings) sources blocks) :
    ∀ event ∈ blocks.flatten.flatMap Fragment.events,
      ∃ source ∈ sources, ∃ pieces, Yields files settings source pieces ∧
        event ∈ pieces.flatMap Fragment.events := by
  intro event listed
  obtain ⟨fragment, fragment_listed, within⟩ := List.mem_flatMap.mp listed
  obtain ⟨pieces, pieces_listed, here⟩ := List.mem_flatten.mp fragment_listed
  obtain ⟨source, source_listed, yielded⟩ :=
    exists_mem_of_forall₂ yields pieces pieces_listed
  exact ⟨source, source_listed, pieces, yielded,
    List.mem_flatMap.mpr ⟨fragment, here, within⟩⟩

theorem addedLines_one_line (valid : settings.Valid)
    (yields : List.Forall₂ (Yields files settings) sources blocks) :
    ∀ line ∈ addedLines settings blocks.flatten, '\n' ∉ line.toList := by
  intro line listed
  obtain ⟨event, event_listed, line_listed⟩ := List.mem_flatMap.mp listed
  obtain ⟨source, _, pieces, yielded, within⟩ :=
    exists_source_of_mem yields event event_listed
  exact event.lines_one_line valid (yielded.tidy event within) line line_listed

end Sources

end Description

namespace Header

open FileTree

variable {files : FileSystem} {settings : Settings}

def headerLines (settings : Settings) (pieces : List Fragment) : List String :=
  settings.prologueLines ++ Description.addedLines settings pieces ++ ["#endif"]

theorem written_headerLines (settings : Settings)
    (blocks : List (List Fragment)) :
    written (headerLines settings blocks.flatten) =
      settings.prologue ++
        String.join (blocks.map fun pieces =>
          written (Description.addedLines settings pieces)) ++
        Settings.epilogue := by
  rw [headerLines, written_append, written_append,
    Description.written_addedLines_flatten, Settings.written_prologueLines,
    Settings.written_epilogue]

theorem ofSources_eq_ok_iff_lines (sources : List String) (header : Header) :
    (ofSources files settings sources).outcome = .ok header ↔
      settings.Valid ∧
        ∃ blocks,
          List.Forall₂ (Description.Yields files settings) sources blocks ∧
          ⟨written (headerLines settings blocks.flatten), sources⟩ =
            header := by
  rw [ofSources_eq_ok_iff]
  simp only [Description.forall₂_contributes_iff, written_headerLines]
  refine and_congr_right fun _ => ?_
  constructor
  · rintro ⟨_, ⟨blocks, yields, rfl⟩, header_eq⟩
    exact ⟨blocks, yields, header_eq⟩
  · rintro ⟨blocks, yields, header_eq⟩
    exact ⟨_, ⟨blocks, yields, rfl⟩, header_eq⟩

theorem assemble_eq_ok_iff_lines (root : String) (header : Header) :
    (assemble files settings root).outcome = .ok header ↔
      settings.Valid ∧
        ∃ blocks,
          List.Forall₂ (Description.Yields files settings)
            (Discovery.locate files settings root) blocks ∧
          ⟨written (headerLines settings blocks.flatten),
            Discovery.locate files settings root⟩ = header := by
  rw [assemble_eq_ok_iff, ← ofSources_eq_ok_iff, ofSources_eq_ok_iff_lines]

theorem lines_headerLines (valid : settings.Valid)
    (unbroken : settings.Unbroken) {sources : List String}
    {blocks : List (List Fragment)}
    (yields : List.Forall₂ (Description.Yields files settings) sources blocks) :
    Text.lines (written (headerLines settings blocks.flatten)) =
      headerLines settings blocks.flatten ++ [""] := by
  refine Text.lines_written ?_
  simp only [headerLines, List.forall_mem_append]
  exact ⟨⟨unbroken.prologueLines_one_line,
    Description.addedLines_one_line valid yields⟩, by decide⟩

end Header

end TilingHeader
