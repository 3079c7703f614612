import Mathlib.Algebra.Group.Nat.Defs
import TilingHeader.Proofs.Generation.Lines
import TilingHeader.Proofs.Text.Brackets

namespace TilingHeader

/-! What a strict header does to the packing and to the conditionals around it.
Each line is looked at by itself and from where it stands, whatever the
descriptions say. -/

open FileTree Text

def packing : Brackets :=
  ⟨"#pragma pack(push,", "#pragma pack(pop)", by decide, by decide⟩

def conditionals : Brackets :=
  ⟨"#if", "#endif", by decide, by decide⟩

def pushLine (packAlignment : Nat) : String :=
  "#pragma pack(push, " ++ packAlignment.repr ++ ")"

def structLine (name : String) : String :=
  "struct " ++ name ++ " \x7b"

def Indented (line : String) : Prop :=
  Starts "    " line

instance (line : String) : Decidable (Indented line) :=
  inferInstanceAs (Decidable (Starts _ _))

/-- The packing is changed for one struct at a time and restored behind it, and
members stand within a struct. -/
structure Packing.Sound (packAlignment : Nat) (lines : List String) : Prop where
  push_line : ∀ before line after, lines = before ++ line :: after →
    packing.Opens line →
      packing.level before = 0 ∧ line = pushLine packAlignment ∧
        ∃ name rest, after = structLine name :: rest
  pop_line : ∀ before line after, lines = before ++ line :: after →
    packing.Closes line →
      packing.level before = 1 ∧ line = "#pragma pack(pop)" ∧
        before.getLast? = some "\x7d;"
  member_line : ∀ before line after, lines = before ++ line :: after →
    Indented line →
      ∃ outer name inner later rest,
        before =
            outer ++ pushLine packAlignment :: structLine name :: inner ∧
          after = later ++ "\x7d;" :: rest ∧
          ∀ member ∈ inner ++ later, Indented member
  level_eq : packing.level lines = 0

structure Packing.Plain (line : String) : Prop where
  not_opens : ¬ packing.Opens line
  not_closes : ¬ packing.Closes line
  not_indented : ¬ Indented line

theorem Packing.Plain.weight {line : String} (plain : Plain line) :
    packing.weight line = 0 :=
  Brackets.weight_of_plain plain.not_opens plain.not_closes

theorem Packing.Plain.of_starts {line : String} (beginning : String)
    (starts : Starts beginning line)
    (apart : ∀ mark ∈ [packing.opening, packing.closing, "    "],
      ¬ Starts mark beginning ∧ ¬ Starts beginning mark) : Plain line := by
  have unstarted := not_starts_of_starts beginning starts _ apart
  exact ⟨unstarted _ (by simp), unstarted _ (by simp), unstarted _ (by simp)⟩

theorem append_eq_append_cons {first second before after : List String}
    {line : String} (split : first ++ second = before ++ line :: after) :
    (∃ more, first = before ++ line :: more ∧ after = more ++ second) ∨
      ∃ more, before = first ++ more ∧ second = more ++ line :: after := by
  rcases List.append_eq_append_iff.mp split with
    ⟨more, before_eq, second_eq⟩ | ⟨_ | ⟨head, more⟩, first_eq, after_eq⟩
  · exact .inr ⟨more, before_eq, second_eq⟩
  · rw [List.append_nil] at first_eq
    exact .inr ⟨[], by rw [first_eq, List.append_nil], after_eq.symm⟩
  · obtain ⟨rfl, rfl⟩ := List.cons.inj after_eq
    exact .inl ⟨more, first_eq, rfl⟩

namespace Packing.Sound

variable {packAlignment : Nat}

theorem append {first second : List String}
    (sound : Sound packAlignment first) (others : Sound packAlignment second) :
    Sound packAlignment (first ++ second) := by
  refine ⟨?_, ?_, ?_, ?_⟩
  · intro before line after split opens
    rcases append_eq_append_cons split with
      ⟨more, first_eq, rfl⟩ | ⟨more, rfl, second_eq⟩
    · obtain ⟨level_eq, line_eq, name, rest, rfl⟩ :=
        sound.push_line before line more first_eq opens
      exact ⟨level_eq, line_eq, name, rest ++ second, rfl⟩
    · rw [Brackets.level_append, sound.level_eq, Int.zero_add]
      exact others.push_line more line after second_eq opens
  · intro before line after split closes
    rcases append_eq_append_cons split with
      ⟨more, first_eq, _⟩ | ⟨more, rfl, second_eq⟩
    · exact sound.pop_line before line more first_eq closes
    · obtain ⟨level_eq, line_eq, last_eq⟩ :=
        others.pop_line more line after second_eq closes
      rw [Brackets.level_append, sound.level_eq, Int.zero_add,
        List.getLast?_append, last_eq]
      exact ⟨level_eq, line_eq, rfl⟩
  · intro before line after split indented
    rcases append_eq_append_cons split with
      ⟨more, first_eq, rfl⟩ | ⟨more, rfl, second_eq⟩
    · obtain ⟨outer, name, inner, later, rest, before_eq, rfl, members⟩ :=
        sound.member_line before line more first_eq indented
      exact ⟨outer, name, inner, later, rest ++ second, before_eq,
        by simp, members⟩
    · obtain ⟨outer, name, inner, later, rest, rfl, after_eq, members⟩ :=
        others.member_line more line after second_eq indented
      exact ⟨first ++ outer, name, inner, later, rest,
        by rw [List.append_assoc], after_eq, members⟩
  · rw [Brackets.level_append, sound.level_eq, others.level_eq, Int.zero_add]

theorem of_plain {lines : List String}
    (plain : ∀ line ∈ lines, Plain line) : Sound packAlignment lines := by
  have plain_at : ∀ before line after, lines = before ++ line :: after →
      Plain line := by
    intro before line after split
    exact plain line (split ▸ List.mem_append_right _ List.mem_cons_self)
  refine ⟨?_, ?_, ?_, ?_⟩
  · intro before line after split opens
    exact absurd opens (plain_at before line after split).not_opens
  · intro before line after split closes
    exact absurd closes (plain_at before line after split).not_closes
  · intro before line after split indented
    exact absurd indented (plain_at before line after split).not_indented
  · exact Brackets.level_of_plain fun line listed => (plain line listed).weight

theorem flatten {blocks : List (List String)}
    (sound : ∀ block ∈ blocks, Sound packAlignment block) :
    Sound packAlignment blocks.flatten := by
  induction blocks with
  | nil => exact of_plain nofun
  | cons block rest induction =>
      obtain ⟨block_sound, rest_sound⟩ := List.forall_mem_cons.mp sound
      exact block_sound.append (induction rest_sound)

end Packing.Sound

theorem Member.line_indented (member : Member) : Indented member.line := by
  cases member <;> simp only [line, String.append_assoc] <;>
    exact starts_append _ _

namespace Packing

theorem opens_pushLine (packAlignment : Nat) :
    packing.Opens (pushLine packAlignment) := by
  have beginning : "#pragma pack(push, " = "#pragma pack(push," ++ " " := by
    simp
  have starts := starts_append "#pragma pack(push,"
    (" " ++ (packAlignment.repr ++ ")"))
  rw [← String.append_assoc, ← beginning, ← String.append_assoc] at starts
  exact starts

theorem starts_structLine (name : String) :
    Starts "struct " (structLine name) := by
  rw [structLine, String.append_assoc]
  exact starts_append "struct " _

theorem plain_structLine (name : String) : Plain (structLine name) :=
  .of_starts "struct " (starts_structLine name) (by decide)

theorem plain_endLine : Plain "\x7d;" :=
  ⟨by decide, by decide, by decide⟩

theorem closes_popLine : packing.Closes "#pragma pack(pop)" :=
  List.prefix_rfl

theorem not_packing_of_indented {line : String} (indented : Indented line) :
    ¬ packing.Opens line ∧ ¬ packing.Closes line := by
  have unstarted := not_starts_of_starts "    " indented
    [packing.opening, packing.closing] (by decide)
  exact ⟨unstarted packing.opening (by simp),
    unstarted packing.closing (by simp)⟩

/-- The lines of one struct, with `inner` for its members. -/
def structLines (packAlignment : Nat) (name : String) (inner : List String) :
    List String :=
  pushLine packAlignment ::
    (structLine name :: (inner ++ ["\x7d;", "#pragma pack(pop)"]))

theorem structLines_eq_concat (packAlignment : Nat) (name : String)
    (inner : List String) :
    structLines packAlignment name inner =
      (pushLine packAlignment :: structLine name :: inner ++ ["\x7d;"]) ++
        ["#pragma pack(pop)"] := by
  simp [structLines]

theorem level_before_popLine (packAlignment : Nat) (name : String)
    {inner : List String} (indented : ∀ member ∈ inner, Indented member) :
    packing.level
      (pushLine packAlignment :: structLine name :: inner ++ ["\x7d;"]) =
        1 := by
  have inner_level : packing.level inner = 0 := by
    refine Brackets.level_of_plain fun member listed => ?_
    obtain ⟨unopened, unclosed⟩ := not_packing_of_indented
      (indented member listed)
    exact Brackets.weight_of_plain unopened unclosed
  simp [Brackets.weight_of_opens (opens_pushLine packAlignment),
    (plain_structLine name).weight, inner_level, plain_endLine.weight]

section

variable (packAlignment : Nat) (name : String) {inner before after : List String}
  {line : String} (indented : ∀ member ∈ inner, Indented member)
  (split : structLines packAlignment name inner = before ++ line :: after)

include indented split

theorem push_line_structLines (opens : packing.Opens line) :
    packing.level before = 0 ∧ line = pushLine packAlignment ∧
      ∃ name rest, after = structLine name :: rest := by
  rcases List.cons_eq_append_iff.mp split with
    ⟨rfl, line_eq⟩ | ⟨more, rfl, rest_eq⟩
  · obtain ⟨rfl, rfl⟩ := List.cons.inj line_eq
    exact ⟨rfl, rfl, name, _, rfl⟩
  · have unopened : ∀ other ∈ structLine name ::
        (inner ++ ["\x7d;", "#pragma pack(pop)"]), ¬ packing.Opens other := by
      simp only [List.forall_mem_cons, List.forall_mem_append]
      exact ⟨(plain_structLine name).not_opens,
        fun member listed => (not_packing_of_indented (indented _ listed)).1,
        plain_endLine.not_opens, Brackets.not_opens_of_closes closes_popLine,
        nofun⟩
    have listed : line ∈ more ++ line :: after := by simp
    exact absurd opens (unopened line (rest_eq ▸ listed))

theorem pop_line_structLines (closes : packing.Closes line) :
    packing.level before = 1 ∧ line = "#pragma pack(pop)" ∧
      before.getLast? = some "\x7d;" := by
  rw [structLines_eq_concat] at split
  rcases append_eq_append_cons split with
    ⟨more, front_eq, _⟩ | ⟨more, rfl, last_eq⟩
  · have unclosed : ∀ other ∈ pushLine packAlignment :: structLine name ::
        inner ++ ["\x7d;"], ¬ packing.Closes other := by
      simp only [List.cons_append, List.forall_mem_cons,
        List.forall_mem_append]
      exact ⟨fun both => Brackets.not_opens_of_closes both
          (opens_pushLine packAlignment), (plain_structLine name).not_closes,
        fun member listed => (not_packing_of_indented (indented _ listed)).2,
        plain_endLine.not_closes, nofun⟩
    have listed : line ∈ before ++ line :: more := by simp
    exact absurd closes (unclosed line (front_eq ▸ listed))
  · obtain ⟨rfl, line_eq⟩ | ⟨_, impossible⟩ :=
      List.singleton_eq_append_iff.mp last_eq
    · obtain ⟨rfl, _⟩ := List.cons.inj line_eq
      rw [List.append_nil]
      exact ⟨level_before_popLine packAlignment name indented, rfl,
        List.getLast?_concat⟩
    · cases impossible

theorem member_line_structLines (within : Indented line) :
    ∃ outer name inner later rest,
      before = outer ++ pushLine packAlignment :: structLine name :: inner ∧
        after = later ++ "\x7d;" :: rest ∧
        ∀ member ∈ inner ++ later, Indented member := by
  have parts : structLines packAlignment name inner =
      [pushLine packAlignment, structLine name] ++
        (inner ++ ["\x7d;", "#pragma pack(pop)"]) := rfl
  rw [parts] at split
  rcases append_eq_append_cons split with
    ⟨more, front_eq, _⟩ | ⟨more, rfl, behind_eq⟩
  · have listed : line ∈ before ++ line :: more := by simp
    rw [← front_eq, List.mem_pair] at listed
    rcases listed with rfl | rfl
    · exact absurd (opens_pushLine packAlignment)
        (not_packing_of_indented within).1
    · exact absurd within (plain_structLine name).not_indented
  · rcases append_eq_append_cons behind_eq with
      ⟨later, inner_eq, rfl⟩ | ⟨others, _, end_eq⟩
    · refine ⟨[], name, more, later, ["#pragma pack(pop)"], rfl, rfl, ?_⟩
      intro member listed
      refine indented member (inner_eq ▸ ?_)
      rcases List.mem_append.mp listed with earlier | behind
      · exact List.mem_append_left _ earlier
      · exact List.mem_append_right _ (List.mem_cons_of_mem _ behind)
    · have listed : line ∈ others ++ line :: after := by simp
      rw [← end_eq, List.mem_pair] at listed
      rcases listed with rfl | rfl
      · exact absurd within plain_endLine.not_indented
      · exact absurd closes_popLine (not_packing_of_indented within).2

end

theorem sound_lines (body : PackedStruct) :
    Sound body.packAlignment body.lines := by
  have indented : ∀ line ∈ body.members.map Member.line, Indented line :=
    List.forall_mem_map.mpr fun member _ => member.line_indented
  have lines_eq : body.lines = structLines body.packAlignment body.name
      (body.members.map Member.line) := rfl
  rw [lines_eq]
  refine ⟨?_, ?_, ?_, ?_⟩
  · exact fun _ _ _ => push_line_structLines _ _ indented
  · exact fun _ _ _ => pop_line_structLines _ _ indented
  · exact fun _ _ _ => member_line_structLines _ _ indented
  · rw [structLines_eq_concat, Brackets.level_append,
      level_before_popLine _ _ indented, Brackets.level_cons,
      Brackets.weight_of_closes closes_popLine]
    rfl

theorem plain_prologueLines (settings : Settings) :
    ∀ line ∈ settings.prologueLines, Plain line := by
  have guard : Plain ("#ifndef " ++ settings.includeGuard) :=
    .of_starts "#ifndef " (starts_append _ _) (by decide)
  have define : Plain ("#define " ++ settings.includeGuard) :=
    .of_starts "#define " (starts_append _ _) (by decide)
  have empty : Plain "" := ⟨by decide, by decide, by decide⟩
  have debug : Plain ("#if defined(" ++ settings.debugMacro ++ ")") := by
    rw [String.append_assoc]
    exact .of_starts "#if defined(" (starts_append _ _) (by decide)
  have includes : ∀ file, Plain (Settings.includeLine file) := by
    intro file
    rw [Settings.includeLine, String.append_assoc]
    exact .of_starts "#include <" (starts_append _ _) (by decide)
  have closing : Plain "#endif" := ⟨by decide, by decide, by decide⟩
  rw [Settings.prologueLines, Settings.debugLines]
  split
  · simp only [List.forall_mem_cons]
    exact ⟨guard, define, empty, List.forall_mem_nil _⟩
  · simp only [List.cons_append, List.forall_mem_cons, List.forall_mem_append,
      List.forall_mem_map]
    exact ⟨guard, define, empty, debug, fun file _ => includes file, closing,
      empty, List.forall_mem_nil _⟩

end Packing

theorem Event.conditionals_weight {packAlignment : Nat} (event : Event) :
    ∀ line ∈ event.lines packAlignment, conditionals.weight line = 0 := by
  cases event with
  | opening name =>
      have push : Starts "#pragma " (pushLine packAlignment) := by
        have beginning : "#pragma pack(push, " =
            "#pragma " ++ "pack(push, " := by simp
        unfold pushLine
        rw [beginning, String.append_assoc, String.append_assoc]
        exact starts_append "#pragma " _
      simp only [lines, List.forall_mem_cons]
      exact ⟨Brackets.weight_of_starts "#pragma " push (by decide),
        Brackets.weight_of_starts "struct " (Packing.starts_structLine name)
          (by decide), List.forall_mem_nil _⟩
  | member member =>
      exact List.forall_mem_singleton.mpr
        (Brackets.weight_of_starts "    " member.line_indented (by decide))
  | closing =>
      simp only [lines]
      decide

theorem Settings.balanced_debugLines (settings : Settings) :
    conditionals.Balanced settings.debugLines := by
  have includes : ∀ line ∈ settings.debugIncludes.map includeLine,
      conditionals.weight line = 0 := by
    refine List.forall_mem_map.mpr fun file _ => ?_
    rw [includeLine, String.append_assoc]
    exact Brackets.weight_of_starts "#include <" (starts_append _ _)
      (by decide)
  have opens : conditionals.Opens
      ("#if defined(" ++ settings.debugMacro ++ ")") := by
    have beginning : "#if defined(" = "#if" ++ " defined(" := by simp
    rw [beginning, String.append_assoc, String.append_assoc]
    exact starts_append "#if" _
  have closes : conditionals.Closes "#endif" := List.prefix_rfl
  have block := Brackets.Balanced.enclose opens (.of_plain includes) closes
  have blank : conditionals.Balanced [""] := .of_plain (by decide)
  rw [debugLines]
  split
  · exact .of_plain (List.forall_mem_nil _)
  · have joined := block.append blank
    rw [List.append_assoc] at joined
    exact joined

namespace Header

open FileTree

variable {files : FileSystem} {settings : Settings} {sources : List String}
  {blocks : List (List Fragment)}

theorem sound_addedLines (strict : settings.strict = true)
    (yields : List.Forall₂ (Description.Yields files settings) sources blocks) :
    Packing.Sound settings.packAlignment
      (Description.addedLines settings blocks.flatten) := by
  induction yields with
  | nil => exact .of_plain nofun
  | cons yielded _ induction =>
      obtain ⟨structs, packed, lines_eq⟩ := yielded.structs strict
      rw [List.flatten_cons, Description.addedLines_append, lines_eq,
        List.flatMap_def]
      refine Packing.Sound.append (.flatten ?_) induction
      refine List.forall_mem_map.mpr fun body listed => ?_
      rw [← packed body listed]
      exact Packing.sound_lines body

theorem exists_balanced_headerLines (settings : Settings)
    (pieces : List Fragment) :
    ∃ inner, headerLines settings pieces =
        ("#ifndef " ++ settings.includeGuard) :: inner ++ ["#endif"] ∧
      conditionals.Balanced inner := by
  have define : conditionals.weight ("#define " ++ settings.includeGuard) = 0 :=
    Brackets.weight_of_starts "#define " (starts_append _ _) (by decide)
  have start : conditionals.Balanced
      ["#define " ++ settings.includeGuard, ""] :=
    .of_plain (by simpa using ⟨define, by decide⟩)
  have added : conditionals.Balanced
      (Description.addedLines settings pieces) := by
    refine .of_plain fun line listed => ?_
    obtain ⟨event, _, line_listed⟩ := List.mem_flatMap.mp listed
    exact event.conditionals_weight line line_listed
  refine ⟨_, ?_, (start.append settings.balanced_debugLines).append added⟩
  simp [headerLines, Settings.prologueLines]

theorem opens_guard (settings : Settings) :
    conditionals.Opens ("#ifndef " ++ settings.includeGuard) := by
  have beginning : "#ifndef " = "#if" ++ "ndef " := by simp
  rw [beginning, String.append_assoc]
  exact starts_append "#if" _

theorem exists_power_of_valid (valid : settings.Valid) :
    ∃ power ≤ 4, settings.packAlignment = 2 ^ power := by
  have powers : ∀ packing ∈ Settings.alignments,
      ∃ power ≤ 4, packing = 2 ^ power := by decide
  exact powers _ valid.alignment_mem

theorem sound_headerLines (strict : settings.strict = true)
    (yields : List.Forall₂ (Description.Yields files settings) sources blocks) :
    Packing.Sound settings.packAlignment
      (headerLines settings blocks.flatten ++ [""]) := by
  have prologue : Packing.Sound settings.packAlignment settings.prologueLines :=
    .of_plain (Packing.plain_prologueLines settings)
  have last : Packing.Sound settings.packAlignment ["#endif", ""] :=
    .of_plain (by simpa using ⟨⟨by decide, by decide, by decide⟩,
      by decide, by decide, by decide⟩)
  have joined := (prologue.append (sound_addedLines strict yields)).append last
  rw [headerLines, List.append_assoc _ ["#endif"]]
  exact joined

theorem level_of_done (valid : settings.Valid) (strict : settings.strict = true)
    (unbroken : settings.Unbroken)
    (yields : List.Forall₂ (Description.Yields files settings) sources blocks) :
    packing.level
      (Text.lines (settings.prologue ++ String.join (blocks.map fun pieces =>
        written (Description.addedLines settings pieces)))) = 0 := by
  have one_line := List.forall_mem_append.mpr
    ⟨unbroken.prologueLines_one_line,
      Description.addedLines_one_line valid yields⟩
  rw [← Settings.written_prologueLines,
    ← Description.written_addedLines_flatten, ← written_append,
    Text.lines_written one_line, Brackets.level_append, Brackets.level_append,
    (sound_addedLines strict yields).level_eq, Brackets.level_of_plain
      fun line listed => (Packing.plain_prologueLines settings line listed).weight]
  rfl

/-- A strict header sets the packing for one struct at a time, to the alignment
of the settings, and restores it; no description leaves it changed.  Every
conditional is closed by one line, that of the guard by the last. -/
theorem strict_header_restores_packing {root : String} {header : Header}
    (strict : settings.strict = true) (unbroken : settings.Unbroken)
    (assembled : (assemble files settings root).outcome = .ok header) :
    Packing.Sound settings.packAlignment (Text.lines header.text) ∧
      (∃ power ≤ 4, settings.packAlignment = 2 ^ power) ∧
      (∃ texts,
        List.Forall₂ (Description.Contributes files settings)
            (Discovery.locate files settings root) texts ∧
          header.text =
            settings.prologue ++ String.join texts ++ Settings.epilogue ∧
          ∀ done rest, texts = done ++ rest →
            packing.level
              (Text.lines (settings.prologue ++ String.join done)) = 0) ∧
      (∃ inner, Text.lines header.text =
          ("#ifndef " ++ settings.includeGuard) :: inner ++ ["#endif", ""] ∧
        conditionals.Balanced inner) ∧
      ∀ before line after, Text.lines header.text = before ++ line :: after →
        Starts "#if" line →
          ∃! inner, ∃ closing rest, after = inner ++ closing :: rest ∧
            Starts "#endif" closing ∧ conditionals.Balanced inner := by
  obtain ⟨valid, texts, contributed, rfl⟩ :=
    (assemble_eq_ok_iff root header).mp assembled
  obtain ⟨blocks, yields, texts_eq⟩ :=
    (Description.forall₂_contributes_iff texts).mp contributed
  have lines_eq := lines_headerLines valid unbroken yields
  rw [written_headerLines, ← texts_eq] at lines_eq
  obtain ⟨inner, header_eq, balanced⟩ :=
    exists_balanced_headerLines settings blocks.flatten
  refine ⟨?_, exists_power_of_valid valid, ?_, ?_, ?_⟩
  · rw [lines_eq]
    exact sound_headerLines strict yields
  · refine ⟨texts, contributed, rfl, ?_⟩
    rintro done rest rfl
    obtain ⟨_, done_yields, rfl⟩ :=
      (Description.forall₂_contributes_iff done).mp
        (List.forall₂_take_append _ done rest contributed)
    exact level_of_done valid strict unbroken done_yields
  · refine ⟨inner, ?_, balanced⟩
    rw [lines_eq, header_eq, List.append_assoc]
    rfl
  · have whole : conditionals.Balanced
        (headerLines settings blocks.flatten ++ [""]) := by
      rw [header_eq]
      exact (Brackets.Balanced.enclose (opens_guard settings) balanced
        List.prefix_rfl).append (.of_plain (by decide))
    intro before line after split opens
    rw [lines_eq] at split
    rw [split] at whole
    exact whole.existsUnique_closing opens

/-- A description whose texts look like lines of a header. -/
def pragmaTree : FileSystem :=
  ⟨.folder "src" (.file "a_tilingdata.h" (Content.ofText (written
    ["BEGIN_TILING_DATA_DEF(#pragma pack(pop) \x7d;)",
      "TILING_DATA_FIELD_DEF(#endif, x)", "END_TILING_DATA_DEF"])) .empty)
    .empty, []⟩

def pragmaHeader : Header where
  text := written
    ["#ifndef __TIKCFW_KERNEL_TILING_H_", "#define __TIKCFW_KERNEL_TILING_H_",
      "", "#if defined(ASCENDC_CPU_DEBUG)", "#include <cstdint>",
      "#include <cstring>", "#endif", "", "#pragma pack(push, 8)",
      "struct #pragma pack(pop) \x7d; \x7b", "    #endif x = 0;", "\x7d;",
      "#pragma pack(pop)", "#endif"]
  sources := ["src/a_tilingdata.h"]

theorem strict_header_restores_packing_pragma :
    ({} : Settings).strict = true ∧ ({} : Settings).Unbroken ∧
      (assemble pragmaTree {} "src").outcome = .ok pragmaHeader ∧
      Packing.Sound 8 (Text.lines pragmaHeader.text) := by
  have unbroken : ({} : Settings).Unbroken :=
    ⟨by decide, by decide, by decide⟩
  have assembled :
      (assemble pragmaTree {} "src").outcome = .ok pragmaHeader := by
    decide +kernel
  exact ⟨rfl, unbroken, assembled,
    (strict_header_restores_packing rfl unbroken assembled).1⟩

end Header

end TilingHeader
