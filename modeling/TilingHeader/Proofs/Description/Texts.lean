import TilingHeader.Proofs.Description.Lines
import TilingHeader.Proofs.Layout.Building
import TilingHeader.Proofs.Layout.Written
import TilingHeader.Proofs.Text.Splitting

namespace TilingHeader

/-! What the texts of a description can be: whatever stands between the commas
of one line, without a line break and without blanks before it. -/

namespace Text

structure Tidy (text : String) : Prop where
  one_line : '\n' ∉ text.toList
  unindented : ∀ character ∈ text.toList.head?, isBlank character = false

end Text

theorem tidy_of_mem_splitArguments {text : List Char} (one_line : '\n' ∉ text) :
    ∀ argument ∈ splitArguments text, Text.Tidy argument := by
  intro argument listed
  obtain ⟨piece, piece_listed, rfl⟩ := List.mem_map.mp listed
  have within : Text.trim piece ⊆ text :=
    List.Subset.trans (Text.trim_subset piece)
      (Text.subset_of_mem_splitOn piece_listed)
  constructor
  · rw [String.toList_ofList]
    exact fun member => one_line (within member)
  · rw [String.toList_ofList]
    exact Text.head?_trim piece

theorem argumentText?_subset {afterWord inner : List Char}
    (found : argumentText? afterWord = some inner) : inner ⊆ afterWord := by
  have trimmed : Text.trimStart afterWord ⊆ afterWord :=
    (List.dropWhile_sublist Text.isBlank).subset
  unfold argumentText? at found
  split at found
  · rename_i rest start_eq
    obtain ⟨after, rest_eq, _⟩ := (beforeLast?_eq_some_iff _ _ _).mp found
    have within : inner ⊆ rest := rest_eq ▸ List.subset_append_left _ _
    rw [start_eq] at trimmed
    exact fun character member =>
      trimmed (List.mem_cons_of_mem _ (within member))
  · cases found

namespace Line

theorem tidy_of_arguments {line : List Char} {args : List String}
    (one_line : '\n' ∉ line) (listed : arguments? line = some args) :
    ∀ argument ∈ args, Text.Tidy argument := by
  rw [arguments?_eq] at listed
  obtain ⟨inner, found, rfl⟩ := Option.map_eq_some_iff.mp listed
  have after_subset : afterWord line ⊆ line :=
    List.Subset.trans (List.dropWhile_sublist _).subset (Text.trim_subset line)
  have inner_subset : inner ⊆ line :=
    List.Subset.trans (argumentText?_subset found) after_subset
  exact tidy_of_mem_splitArguments fun member => one_line (inner_subset member)

theorem tidy_of_directive {line : List Char × Nat} {directive : Directive}
    (one_line : '\n' ∉ line.1) (said : directive? line = some directive) :
    ∀ argument ∈ directive.args, Text.Tidy argument := by
  obtain ⟨kind, _, rfl⟩ := Option.map_eq_some_iff.mp said
  cases listed : arguments? line.1 with
  | none => exact nofun
  | some args => exact tidy_of_arguments one_line listed

end Line

namespace Directive

theorem tidy_of_scan {source : String} {directives : List Directive}
    (scanned : scan source = .ok directives) :
    ∀ directive ∈ directives, ∀ argument ∈ directive.args,
      Text.Tidy argument := by
  rw [scan_eq] at scanned
  split at scanned
  · cases scanned
  · cases scanned
    intro directive listed
    obtain ⟨line, line_listed, said⟩ := List.mem_filterMap.mp listed
    have piece : line.1 ∈ source.toList.splitOn '\n' := by
      rw [← Line.map_fst_numbered]
      exact List.mem_map_of_mem line_listed
    exact Line.tidy_of_directive (Text.not_mem_of_mem_splitOn piece) said

end Directive

theorem exists_mem_of_forall₂ {α β : Type} {relation : α → β → Prop}
    {first : List α} {second : List β}
    (related : List.Forall₂ relation first second) :
    ∀ value ∈ second, ∃ origin ∈ first, relation origin value := by
  induction related with
  | nil => exact nofun
  | @cons origin value first second here _ induction =>
      refine List.forall_mem_cons.mpr ⟨⟨origin, List.mem_cons_self, here⟩, ?_⟩
      intro later listed
      obtain ⟨other, other_listed, there⟩ := induction later listed
      exact ⟨other, List.mem_cons_of_mem _ other_listed, there⟩

namespace Description

theorem fragments_eq_ok_iff (settings : Settings) (source : String)
    (pieces : List Fragment) :
    (fragments settings source).outcome = .ok pieces ↔
      ∃ directives, Directive.scan source = .ok directives ∧
        (Fragment.build settings directives).outcome = .ok pieces :=
  Logged.outcome_bind_eq_ok_iff

theorem compile_eq_ok_iff (settings : Settings) (source text : String) :
    (compile settings source).outcome = .ok text ↔
      ∃ pieces, (fragments settings source).outcome = .ok pieces ∧
        layoutText pieces = text := by
  rw [compile, Logged.outcome_bind_eq_ok_iff]
  simp only [Logged.outcome_pure, Except.ok.injEq]

variable {settings : Settings} {source : String} {pieces : List Fragment}

theorem packed_of_fragments
    (built : (fragments settings source).outcome = .ok pieces) :
    ∀ fragment ∈ pieces, fragment.Packed settings.packAlignment := by
  obtain ⟨directives, _, built⟩ := (fragments_eq_ok_iff _ _ _).mp built
  obtain ⟨steps, _, rfl, _⟩ := Fragment.exists_steps_of_build built
  exact Fragment.packed_arrange (by simp) steps

/-- Every text that an event of a description carries stood in its source. -/
theorem tidy_of_fragments
    (built : (fragments settings source).outcome = .ok pieces) :
    ∀ event ∈ pieces.flatMap Fragment.events, ∀ text ∈ event.arguments,
      Text.Tidy text := by
  obtain ⟨directives, scanned, built⟩ := (fragments_eq_ok_iff _ _ _).mp built
  obtain ⟨steps, means, rfl, _⟩ := Fragment.exists_steps_of_build built
  rw [Fragment.events_arrange, Fragment.pending_none, List.nil_append]
  intro event listed text carried
  obtain ⟨directive, directive_listed, meant⟩ :=
    exists_mem_of_forall₂ means event listed
  exact Directive.tidy_of_scan scanned directive directive_listed text
    (meant.arguments_prefix.subset carried)

theorem structs_of_fragments (strict : settings.strict = true)
    (built : (fragments settings source).outcome = .ok pieces) :
    ∃ structs : List PackedStruct,
      (∀ body ∈ structs, body.packAlignment = settings.packAlignment) ∧
        pieces = structs.map .whole := by
  obtain ⟨directives, _, built⟩ := (fragments_eq_ok_iff _ _ _).mp built
  obtain ⟨steps, _, arranged, whole⟩ := Fragment.exists_steps_of_build built
  obtain ⟨structs, packed, pieces_eq, _⟩ :=
    (Fragment.arrange_structs_iff _ steps pieces).mp ⟨arranged, whole strict⟩
  exact ⟨structs, packed, pieces_eq⟩

end Description

end TilingHeader
