import TilingHeader.Proofs.Generation.Lines

namespace TilingHeader

/-! A header read as a description says nothing.  Its lines begin with marks
that no directive begins with; the one text of a description that stands at the
beginning of a line is the lead of a member. -/

namespace Text

theorem trimStart_append_of_tidy {text : String} (tidy : Tidy text)
    (filled : text ≠ "") (rest : List Char) :
    trimStart (text.toList ++ rest) = text.toList ++ rest := by
  have unindented := tidy.unindented
  cases text_eq : text.toList with
  | nil => exact absurd (String.toList_eq_nil_iff.mp text_eq) filled
  | cons first others =>
      rw [text_eq] at unindented
      rw [List.cons_append, trimStart, List.dropWhile_cons_of_neg]
      simp [unindented first rfl]

end Text

theorem Kind.isWordCharacter_of_mem_keyword (kind : Kind) :
    ∀ character ∈ kind.keyword.toList, isWordCharacter character = true := by
  rw [← List.all_eq_true]
  cases kind <;> decide

namespace Line

def Silent (line : List Char) : Prop :=
  kind? line = none

theorem keyword_begins_trimStart {line : List Char} {kind : Kind}
    (recognised : kind? line = some kind) :
    kind.keyword.toList <+: Text.trimStart line := by
  have word_begins : word line <+: Text.trim line := List.takeWhile_prefix _
  exact (Kind.begins_of_ofWord? recognised).trans
    (word_begins.trans (Text.trim_begins_trimStart line))

theorem silent_iff {line : List Char} :
    Silent line ↔ ∀ kind : Kind, ¬ kind.Begins (Text.trimStart line) := by
  constructor
  · intro silent kind begins
    have in_word := kind.isWordCharacter_of_mem_keyword
    have begins_trim : kind.keyword.toList <+: Text.trim line := by
      apply Text.begins_trim_of_unblank _ begins
      intro character member
      exact isBlank_of_isWordCharacter (in_word character member)
    have begins_word : kind.Begins (word line) := by
      obtain ⟨rest, trim_eq⟩ := begins_trim
      rw [Kind.Begins, word, ← trim_eq, List.takeWhile_append_of_pos in_word]
      exact List.prefix_append _ _
    have unresolved := List.find?_eq_none.mp silent kind kind.mem_precedence
    exact unresolved (decide_eq_true begins_word)
  · intro unbegun
    cases recognised : kind? line with
    | none => exact recognised
    | some kind =>
        exact absurd (keyword_begins_trimStart recognised) (unbegun kind)

end Line

/-- A keyword does not reach beyond a character that no word has. -/
theorem Kind.begins_of_begins_append {kind : Kind} {lead rest : List Char}
    {separator : Char} (separates : isWordCharacter separator = false)
    (begins : kind.Begins (lead ++ separator :: rest)) : kind.Begins lead := by
  have unlisted : separator ∉ kind.keyword.toList := by
    intro listed
    have in_word := kind.isWordCharacter_of_mem_keyword separator listed
    rw [separates] at in_word
    cases in_word
  have reaches : lead ++ [separator] <+: lead ++ separator :: rest :=
    ⟨rest, by simp⟩
  rcases List.prefix_or_prefix_of_prefix begins reaches with within | beyond
  · rcases List.prefix_concat_iff.mp within with whole | proper
    · exact absurd (by rw [whole]; simp) unlisted
    · exact proper
  · exact absurd (beyond.subset (by simp)) unlisted

namespace Member

/-- The text that the line of a member begins with: its type, or its name if
there is no type. -/
def lead (member : Member) : String :=
  if member.type = "" then member.name else member.type

theorem exists_separator_ending (member : Member) :
    (∃ separator rest, isWordCharacter separator = false ∧
        member.ending = separator :: rest) ∧
      ∃ separator rest, isWordCharacter separator = false ∧
        Text.trimStart member.ending = separator :: rest := by
  cases member with
  | scalar type name => exact ⟨⟨' ', _, rfl, rfl⟩, ⟨'=', _, rfl, rfl⟩⟩
  | array type length name => exact ⟨⟨'[', _, rfl, rfl⟩, ⟨'[', _, rfl, rfl⟩⟩
  | nested type name => exact ⟨⟨';', _, rfl, rfl⟩, ⟨';', _, rfl, rfl⟩⟩

/-- The line of a member, without its indent, is its lead and then something
that belongs to no word. -/
theorem exists_trimStart_line {member : Member}
    (tidy : ∀ text ∈ (Event.member member).arguments, Text.Tidy text) :
    ∃ separator rest, isWordCharacter separator = false ∧
      Text.trimStart member.line.toList =
        member.lead.toList ++ separator :: rest := by
  have type_tidy : Text.Tidy member.type := by
    cases member <;> exact tidy _ (by simp [type, Event.arguments])
  have name_tidy : Text.Tidy member.name := by
    cases member <;> exact tidy _ (by simp [name, Event.arguments])
  obtain ⟨⟨behind, rest, behind_separates, ending_eq⟩,
    last, others, last_separates, trimmed⟩ := member.exists_separator_ending
  have indent : Text.trimStart member.line.toList =
      Text.trimStart
        (member.type.toList ++ ' ' :: (member.name.toList ++ member.ending)) := by
    rw [toList_line]
    rfl
  rw [indent, lead]
  by_cases no_type : member.type = ""
  · have blank : Text.trimStart ("".toList ++
        ' ' :: (member.name.toList ++ member.ending)) =
          Text.trimStart (member.name.toList ++ member.ending) := rfl
    rw [if_pos no_type, no_type, blank]
    by_cases no_name : member.name = ""
    · rw [no_name]
      exact ⟨last, others, last_separates, trimmed⟩
    · rw [Text.trimStart_append_of_tidy name_tidy no_name, ending_eq]
      exact ⟨behind, rest, behind_separates, rfl⟩
  · rw [if_neg no_type, Text.trimStart_append_of_tidy type_tidy no_type]
    exact ⟨' ', _, rfl, rfl⟩

theorem silent_line_iff {member : Member}
    (tidy : ∀ text ∈ (Event.member member).arguments, Text.Tidy text) :
    Line.Silent member.line.toList ↔
      ∀ kind : Kind, ¬ kind.Begins member.lead.toList := by
  obtain ⟨separator, rest, separates, trimmed⟩ := exists_trimStart_line tidy
  rw [Line.silent_iff, trimmed]
  apply forall_congr'
  intro kind
  apply not_congr
  constructor
  · exact Kind.begins_of_begins_append separates
  · intro begins
    exact begins.trans (List.prefix_append _ _)

end Member

namespace Line

/-- The characters that the other lines of a header begin with. -/
def marks : List Char := ['#', 's', '\x7d']

theorem silent_append {beginning : String}
    (marked : beginning.toList.head? ∈ marks.map some) (rest : String) :
    Silent (beginning ++ rest).toList := by
  obtain ⟨mark, mark_listed, first_eq⟩ := List.mem_map.mp marked
  obtain ⟨others, beginning_eq⟩ := List.head?_eq_some_iff.mp first_eq.symm
  have apart : ∀ mark ∈ marks, Text.isBlank mark = false ∧
      ∀ kind : Kind, kind.keyword.toList.head? ≠ some mark := by
    simp only [marks, List.forall_mem_cons]
    refine ⟨⟨by decide, ?_⟩, ⟨by decide, ?_⟩, ⟨by decide, ?_⟩, nofun⟩ <;>
      intro kind <;> cases kind <;> decide
  obtain ⟨unblank, unbegun⟩ := apart mark mark_listed
  refine silent_iff.mpr fun kind begins => unbegun kind ?_
  rw [String.toList_append, beginning_eq, List.cons_append, Text.trimStart,
    List.dropWhile_cons_of_neg (by simp [unblank])] at begins
  rcases List.prefix_cons_iff.mp begins with empty | ⟨tail, keyword_eq, _⟩
  · exact absurd empty (by cases kind <;> decide)
  · rw [keyword_eq, List.head?_cons]

theorem silent_of_marked {line : String}
    (marked : line.toList.head? ∈ marks.map some) : Silent line.toList := by
  have silent := silent_append marked ""
  rwa [String.append_empty] at silent

end Line

namespace Event

theorem silent_lines {packAlignment : Nat} {event : Event}
    (tidy : ∀ text ∈ event.arguments, Text.Tidy text)
    (unbegun : ∀ member, event = .member member →
      ∀ kind : Kind, ¬ kind.Begins member.lead.toList) :
    ∀ line ∈ event.lines packAlignment, Line.Silent line.toList := by
  cases event with
  | opening name =>
      simp only [lines, List.forall_mem_cons, String.append_assoc]
      exact ⟨Line.silent_append (by decide) _, Line.silent_append (by decide) _,
        List.forall_mem_nil _⟩
  | member member =>
      exact List.forall_mem_singleton.mpr
        ((Member.silent_line_iff tidy).mpr (unbegun member rfl))
  | closing =>
      simp only [lines, List.forall_mem_cons]
      exact ⟨Line.silent_of_marked (by decide),
        Line.silent_of_marked (by decide), List.forall_mem_nil _⟩

end Event

theorem Settings.silent_prologueLines (settings : Settings) :
    ∀ line ∈ settings.prologueLines, Line.Silent line.toList := by
  have empty : Line.Silent "".toList := rfl
  have closing : Line.Silent "#endif".toList :=
    Line.silent_of_marked (by decide)
  rw [prologueLines, debugLines]
  split
  · simp only [List.forall_mem_cons]
    exact ⟨Line.silent_append (by decide) _, Line.silent_append (by decide) _,
      empty, List.forall_mem_nil _⟩
  · simp only [List.cons_append, List.forall_mem_cons, List.forall_mem_append,
      List.forall_mem_map, includeLine, String.append_assoc]
    exact ⟨Line.silent_append (by decide) _, Line.silent_append (by decide) _,
      empty, Line.silent_append (by decide) _,
      fun file _ => Line.silent_append (by decide) _, closing, empty,
      List.forall_mem_nil _⟩

namespace Description

theorem scan_eq_nil_iff (text : String) :
    Directive.scan text = .ok [] ↔
      ∀ line ∈ Text.lines text, Line.Silent line.toList := by
  have lines_iff : (∀ line ∈ Text.lines text, Line.Silent line.toList) ↔
      ∀ line ∈ Line.numbered text, Line.kind? line.1 = none := by
    rw [Text.lines, ← Line.map_fst_numbered, List.map_map, List.forall_mem_map]
    simp only [Line.Silent, Function.comp_apply, String.toList_ofList]
  rw [lines_iff, Directive.scan_eq]
  constructor
  · intro scanned
    split at scanned
    · cases scanned
    · have undirected := List.filterMap_eq_nil_iff.mp (Except.ok.inj scanned)
      exact fun line listed => Option.map_eq_none_iff.mp (undirected line listed)
  · intro silent
    have faultless : (Line.numbered text).findSome? Line.bareFault? = none := by
      refine List.findSome?_eq_none_iff.mpr fun line listed => ?_
      simp only [Line.bareFault?, silent line listed]
    have undirected : (Line.numbered text).filterMap Line.directive? = [] := by
      refine List.filterMap_eq_nil_iff.mpr fun line listed => ?_
      simp only [Line.directive?, silent line listed, Option.map_none]
    rw [faultless, undirected]

theorem fragments_of_scan_nil {text : String}
    (scanned : Directive.scan text = .ok []) (settings : Settings) :
    fragments settings text = pure [] := by
  rw [fragments, scanned]
  rfl

end Description

namespace Header

open FileTree

variable {files : FileSystem} {settings : Settings} {sources : List String}

/-- No member that the sources give leads with a keyword. -/
def Unled (files : FileSystem) (settings : Settings) (sources : List String) :
    Prop :=
  ∀ source ∈ sources, ∀ pieces,
    Description.Yields files settings source pieces →
      ∀ member, Event.member member ∈ pieces.flatMap Fragment.events →
        ∀ kind : Kind, ¬ kind.Begins member.lead.toList

theorem silent_addedLines_iff {blocks : List (List Fragment)}
    (yields : List.Forall₂ (Description.Yields files settings) sources blocks) :
    (∀ line ∈ Description.addedLines settings blocks.flatten,
        Line.Silent line.toList) ↔ Unled files settings sources := by
  constructor
  · intro silent source source_listed pieces yielded member said
    have by_pieces : List.Forall₂
        (fun block path => Description.Yields files settings path block)
        blocks sources := yields.flip
    obtain ⟨block, block_listed, block_yielded⟩ :=
      exists_mem_of_forall₂ by_pieces source source_listed
    obtain rfl := yielded.unique block_yielded
    obtain ⟨fragment, fragment_listed, within⟩ := List.mem_flatMap.mp said
    have event_listed :
        Event.member member ∈ blocks.flatten.flatMap Fragment.events :=
      List.mem_flatMap.mpr ⟨fragment,
        List.mem_flatten.mpr ⟨pieces, block_listed, fragment_listed⟩, within⟩
    have line_listed :
        member.line ∈ Description.addedLines settings blocks.flatten :=
      List.mem_flatMap.mpr ⟨_, event_listed, List.mem_singleton_self _⟩
    exact (Member.silent_line_iff (yielded.tidy _ said)).mp
      (silent _ line_listed)
  · intro unled line listed
    obtain ⟨event, event_listed, line_listed⟩ := List.mem_flatMap.mp listed
    obtain ⟨source, source_listed, pieces, yielded, within⟩ :=
      Description.exists_source_of_mem yields event event_listed
    refine event.silent_lines (yielded.tidy event within) ?_ line line_listed
    rintro member rfl
    exact unled source source_listed pieces yielded member within

theorem silent_headerLines_iff {blocks : List (List Fragment)}
    (yields : List.Forall₂ (Description.Yields files settings) sources blocks) :
    (∀ line ∈ headerLines settings blocks.flatten ++ [""],
        Line.Silent line.toList) ↔ Unled files settings sources := by
  have ending : Line.Silent "#endif".toList :=
    Line.silent_of_marked (by decide)
  have empty : Line.Silent "".toList := rfl
  rw [← silent_addedLines_iff yields]
  simp only [headerLines, List.forall_mem_append, List.forall_mem_singleton,
    iff_true_intro settings.silent_prologueLines, ending, empty, and_true,
    true_and]

theorem scan_headerLines_iff (valid : settings.Valid)
    (unbroken : settings.Unbroken) {blocks : List (List Fragment)}
    (yields :
      List.Forall₂ (Description.Yields files settings) sources blocks) :
    Directive.scan (written (headerLines settings blocks.flatten)) = .ok [] ↔
      Unled files settings sources := by
  rw [Description.scan_eq_nil_iff, lines_headerLines valid unbroken yields,
    silent_headerLines_iff yields]

/-- A header is scanned as a description without directives exactly if none of
its members leads with a keyword, whatever its structs are called and its
arrays are long.  Then every reading of it, strict or tolerant, gives no text
and no warning. -/
theorem header_silent_iff {files : FileSystem} {settings : Settings}
    {sources : List String} {header : Header}
    (made : (ofSources files settings sources).outcome = .ok header)
    (unbroken : settings.Unbroken) :
    (Directive.scan header.text = .ok [] ↔ Unled files settings sources) ∧
      (Unled files settings sources → ∀ reading : Settings,
        Description.compile reading header.text = pure "") := by
  obtain ⟨valid, blocks, yields, rfl⟩ :=
    (ofSources_eq_ok_iff_lines sources header).mp made
  have scanned_iff := scan_headerLines_iff valid unbroken yields
  refine ⟨scanned_iff, ?_⟩
  intro unled reading
  have fragments_eq :=
    Description.fragments_of_scan_nil (scanned_iff.mpr unled) reading
  rw [Description.compile, fragments_eq]
  rfl

/-- Keywords where they do no harm, and a member without a type. -/
def keywordSource : String :=
  written ["BEGIN_TILING_DATA_DEF(END_TILING_DATA_DEF)",
    "TILING_DATA_FIELD_DEF_ARR(T, BEGIN_TILING_DATA_DEF, y)",
    "TILING_DATA_FIELD_DEF(, x)"]

def keywordTree : FileSystem :=
  ⟨.file "k.h" (.ofText keywordSource) .empty, []⟩

def keywordSettings : Settings :=
  { includeGuard := "K", debugIncludes := [], strict := false }

def keywordHeader : Header where
  text := keywordSettings.prologue ++
    written ["#pragma pack(push, 8)", "struct END_TILING_DATA_DEF \x7b",
      "    T y[BEGIN_TILING_DATA_DEF] = \x7b\x7d;", "     x = 0;"] ++
    Settings.epilogue
  sources := ["k.h"]

theorem header_silent_iff_keywords :
    (ofSources keywordTree keywordSettings ["k.h"]).outcome =
        .ok keywordHeader ∧
      Unled keywordTree keywordSettings ["k.h"] ∧
      ∀ reading : Settings,
        Description.compile reading keywordHeader.text = pure "" := by
  have made : (ofSources keywordTree keywordSettings ["k.h"]).outcome =
      .ok keywordHeader := by
    decide +kernel
  have scanned : Directive.scan keywordHeader.text = .ok [] := by
    decide +kernel
  obtain ⟨scanned_iff, silent⟩ :=
    header_silent_iff made ⟨by decide, by decide, by decide⟩
  have unled := scanned_iff.mp scanned
  exact ⟨made, unled, silent unled⟩

end Header

end TilingHeader
