import Mathlib.Computability.RegularExpressions
import Mathlib.Data.Set.List
import TilingHeader.Proofs.Description.Agreement
import TilingHeader.Proofs.Description.Writing
import TilingHeader.Proofs.Layout.Written

namespace TilingHeader

/-! The grammar of descriptions.  Strict reading accepts the sources whose
recognised lines are proper and come in the order of the grammar, and it gives
the layout of the structs that those lines write. -/

namespace Kind

def members : RegularExpression Kind :=
  .star (.char .scalar + .char .array + .char .nested)

def block : RegularExpression Kind :=
  .char .opening * members * .char .closing

def description : RegularExpression Kind :=
  .star block

theorem mem_members_iff (kinds : List Kind) :
    kinds ∈ members.matches' ↔
      ∀ kind ∈ kinds, kind ≠ .opening ∧ kind ≠ .closing := by
  have mem_member_iff (word : List Kind) :
      word ∈ (RegularExpression.char Kind.scalar + .char .array +
          .char .nested).matches' ↔
        word = [.scalar] ∨ word = [.array] ∨ word = [.nested] := by
    simp only [RegularExpression.matches'_add, RegularExpression.matches'_char,
      Language.mem_add, or_assoc]
    rfl
  rw [members, RegularExpression.matches'_star, Language.mem_kstar]
  constructor
  · rintro ⟨words, rfl, allowed⟩ kind member
    obtain ⟨word, listed, member⟩ := List.mem_flatten.mp member
    rcases (mem_member_iff word).mp (allowed word listed) with
      rfl | rfl | rfl <;>
      · obtain rfl := List.mem_singleton.mp member
        exact ⟨nofun, nofun⟩
  · intro inside
    refine ⟨kinds.map fun kind => [kind], ?_, ?_⟩
    · rw [← List.flatMap_def, List.flatMap_singleton']
    · intro word listed
      obtain ⟨kind, member, rfl⟩ := List.mem_map.mp listed
      obtain ⟨not_opening, not_closing⟩ := inside kind member
      rw [mem_member_iff]
      cases kind <;> simp_all

theorem mem_block_iff (kinds : List Kind) :
    kinds ∈ block.matches' ↔
      ∃ inner, (∀ kind ∈ inner, kind ≠ .opening ∧ kind ≠ .closing) ∧
        kinds = .opening :: inner ++ [.closing] := by
  rw [block, RegularExpression.matches'_mul, RegularExpression.matches'_mul]
  constructor
  · intro matched
    obtain ⟨_, ⟨_, rfl, inner, inside, rfl⟩, _, rfl, rfl⟩ := matched
    exact ⟨inner, (mem_members_iff inner).mp inside, rfl⟩
  · intro shaped
    obtain ⟨inner, inside, rfl⟩ := shaped
    have inner_matches := (mem_members_iff inner).mpr inside
    exact ⟨.opening :: inner, ⟨[.opening], rfl, inner, inner_matches, rfl⟩,
      [.closing], rfl, rfl⟩

end Kind

namespace Event

theorem forall_kind_ne_iff (steps : List Event) :
    (∀ found ∈ steps.map kind, found ≠ .opening ∧ found ≠ .closing) ↔
      ∃ members : List Member, steps = members.map Event.member := by
  constructor
  · intro inside
    have ranged : steps ∈ {steps | ∀ event ∈ steps,
        event ∈ Set.range Event.member} := by
      intro event listed
      obtain ⟨not_opening, not_closing⟩ :=
        inside event.kind (List.mem_map_of_mem listed)
      cases event with
      | opening name => exact absurd rfl not_opening
      | member member => exact ⟨member, rfl⟩
      | closing => exact absurd rfl not_closing
    rw [← Set.range_list_map] at ranged
    obtain ⟨members, rfl⟩ := ranged
    exact ⟨members, rfl⟩
  · rintro ⟨members, rfl⟩ found listed
    rw [List.map_map] at listed
    obtain ⟨member, _, rfl⟩ := List.mem_map.mp listed
    cases member <;> exact ⟨nofun, nofun⟩

theorem map_kind_mem_block_iff (packAlignment : Nat) (steps : List Event) :
    steps.map kind ∈ Kind.block.matches' ↔
      ∃ body : PackedStruct, body.packAlignment = packAlignment ∧
        steps = (Fragment.whole body).events := by
  rw [Kind.mem_block_iff]
  constructor
  · intro shaped
    obtain ⟨inner, inside, kinds_eq⟩ := shaped
    obtain ⟨others, last, rfl, others_eq, last_eq⟩ :=
      List.map_eq_append_iff.mp kinds_eq
    obtain ⟨first, middle, rfl, first_kind, rfl⟩ :=
      List.map_eq_cons_iff.mp others_eq
    obtain ⟨final, rfl, closes⟩ := List.map_eq_singleton_iff.mp last_eq
    obtain ⟨members, rfl⟩ := (forall_kind_ne_iff middle).mp inside
    have final_eq := final.kind_eq_closing_iff.mp closes
    subst final_eq
    cases first with
    | opening name => exact ⟨⟨name, packAlignment, members⟩, rfl, rfl⟩
    | member member => cases member <;> cases first_kind
    | closing => cases first_kind
  · intro shaped
    obtain ⟨body, _, rfl⟩ := shaped
    refine ⟨(body.members.map Event.member).map kind,
      (forall_kind_ne_iff _).mpr ⟨body.members, rfl⟩, ?_⟩
    rw [Fragment.events, List.map_append]
    rfl

theorem map_kind_mem_description_iff (packAlignment : Nat)
    (steps : List Event) :
    steps.map kind ∈ Kind.description.matches' ↔
      ∃ structs : List PackedStruct,
        (∀ body ∈ structs, body.packAlignment = packAlignment) ∧
        steps = structs.flatMap fun body => (Fragment.whole body).events := by
  rw [Kind.description, RegularExpression.matches'_star, Language.mem_kstar]
  constructor
  · intro matched
    obtain ⟨blocks, kinds_eq, allowed⟩ := matched
    induction blocks generalizing steps with
    | nil =>
        obtain rfl := List.map_eq_nil_iff.mp kinds_eq
        exact ⟨[], nofun, rfl⟩
    | cons block rest induction =>
        obtain ⟨block_allowed, rest_allowed⟩ := List.forall_mem_cons.mp allowed
        obtain ⟨first, later, rfl, rfl, later_eq⟩ :=
          List.map_eq_append_iff.mp kinds_eq
        obtain ⟨body, packed, rfl⟩ :=
          (map_kind_mem_block_iff packAlignment first).mp block_allowed
        obtain ⟨structs, structs_packed, rfl⟩ :=
          induction later later_eq rest_allowed
        exact ⟨body :: structs,
          List.forall_mem_cons.mpr ⟨packed, structs_packed⟩, rfl⟩
  · intro described
    obtain ⟨structs, packed, rfl⟩ := described
    refine ⟨structs.map fun body => (Fragment.whole body).events.map kind,
      ?_, ?_⟩
    · rw [List.map_flatMap, List.flatMap_def]
    · intro block listed
      obtain ⟨body, member, rfl⟩ := List.mem_map.mp listed
      exact (map_kind_mem_block_iff packAlignment _).mpr
        ⟨body, packed body member, rfl⟩

end Event

namespace Fragment

theorem outcome_build_strict_iff_structs {settings : Settings}
    (strict : settings.strict = true) (directives : List Directive)
    (fragments : List Fragment) :
    (build settings directives).outcome = .ok fragments ↔
      ∃ structs : List PackedStruct,
        (∀ body ∈ structs, body.packAlignment = settings.packAlignment) ∧
        fragments = structs.map whole ∧
        (∀ directive ∈ directives, directive.Filled) ∧
        List.Forall₂ Directive.Spells directives
          (structs.flatMap fun body => (whole body).events) := by
  rw [outcome_build_strict_iff strict, build_eq_pure_iff]
  simp only [arrange_structs_iff]
  constructor
  · intro read
    obtain ⟨filled, steps, spells, structs, packed, fragments_eq, rfl⟩ := read
    exact ⟨structs, packed, fragments_eq,
      fun directive listed => filled directive listed strict, spells⟩
  · intro described
    obtain ⟨structs, packed, fragments_eq, filled, spells⟩ := described
    exact ⟨fun directive listed _ => filled directive listed, _, spells,
      structs, packed, fragments_eq, rfl⟩

end Fragment

namespace Description

theorem compile_strict_eq_ok_iff_structs {settings : Settings}
    (strict : settings.strict = true) (source text : String) :
    (compile settings source).outcome = .ok text ↔
      ∃ structs : List PackedStruct,
        (∀ body ∈ structs, body.packAlignment = settings.packAlignment) ∧
        List.Forall₂ Line.Writes (Line.recognised source)
          (structs.flatMap fun body => (Fragment.whole body).events) ∧
        text = written (structs.flatMap PackedStruct.lines) := by
  simp only [Line.forall₂_writes_recognised_iff]
  cases scanned : Directive.scan source with
  | error fault =>
      rw [compile_of_scan_error settings scanned]
      simp
  | ok directives =>
      rw [compile_of_scan_ok settings scanned, Logged.outcome_bind_eq_ok_iff]
      constructor
      · intro compiled
        obtain ⟨fragments, built, rendered⟩ := compiled
        obtain ⟨structs, packed, rfl, filled, spells⟩ :=
          (Fragment.outcome_build_strict_iff_structs strict _ _).mp built
        refine ⟨structs, packed, ⟨directives, rfl, filled, spells⟩, ?_⟩
        rw [← Fragment.layoutText_map_whole]
        exact (Except.ok.inj rendered).symm
      · rintro ⟨structs, packed, ⟨_, ⟨rfl⟩, filled, spells⟩, rfl⟩
        refine ⟨structs.map .whole, ?_, ?_⟩
        · exact (Fragment.outcome_build_strict_iff_structs strict _ _).mpr
            ⟨structs, packed, rfl, filled, spells⟩
        · rw [← Fragment.layoutText_map_whole]
          rfl

theorem compile_strict_iff_grammar {settings : Settings}
    (strict : settings.strict = true) (source : String) :
    ((∃ text, (compile settings source).outcome = .ok text) ↔
      (∀ line ∈ Line.recognised source, ∀ kind ∈ Line.kind? line,
          Line.Proper line kind) ∧
        (Line.recognised source).filterMap Line.kind? ∈
          Kind.description.matches') ∧
      (∀ text, (compile settings source).outcome = .ok text ↔
        ∃ structs : List PackedStruct,
          (∀ body ∈ structs, body.packAlignment = settings.packAlignment) ∧
          List.Forall₂ Line.Writes (Line.recognised source)
            (structs.flatMap fun body => (Fragment.whole body).events) ∧
          text = written (structs.flatMap PackedStruct.lines)) ∧
      ∀ other, Line.recognised other = Line.recognised source →
        ∀ text, (compile settings other).outcome = .ok text ↔
          (compile settings source).outcome = .ok text := by
  refine ⟨⟨?_, ?_⟩, compile_strict_eq_ok_iff_structs strict source, ?_⟩
  · intro compiled
    obtain ⟨text, accepted⟩ := compiled
    obtain ⟨structs, packed, writes, _⟩ :=
      (compile_strict_eq_ok_iff_structs strict source text).mp accepted
    refine ⟨?_, ?_⟩
    · exact (Line.exists_writes_iff
        (Line.kind_known_of_recognised source)).mp ⟨_, writes⟩
    · rw [Line.kinds_of_writes writes]
      exact (Event.map_kind_mem_description_iff settings.packAlignment _).mpr
        ⟨structs, packed, rfl⟩
  · intro conforming
    obtain ⟨proper, ordered⟩ := conforming
    obtain ⟨steps, writes⟩ := (Line.exists_writes_iff
      (Line.kind_known_of_recognised source)).mpr proper
    rw [Line.kinds_of_writes writes] at ordered
    obtain ⟨structs, packed, rfl⟩ :=
      (Event.map_kind_mem_description_iff settings.packAlignment steps).mp
        ordered
    exact ⟨_, (compile_strict_eq_ok_iff_structs strict source _).mpr
      ⟨structs, packed, writes, rfl⟩⟩
  · intro other same text
    rw [compile_strict_eq_ok_iff_structs strict,
      compile_strict_eq_ok_iff_structs strict, same]

theorem compile_strict_iff_grammar_comment :
    ({} : Settings).strict = true ∧
      (compile {} (written
          ["BEGIN_TILING_DATA_DEF(A)", "// not a directive",
            "TILING_DATA_FIELD_DEF_ARR(T, 4, x)",
            "END_TILING_DATA_DEF(,)"])).outcome =
        .ok (written
          ["#pragma pack(push, 8)", "struct A \x7b",
            "    T x[4] = \x7b\x7d;", "\x7d;", "#pragma pack(pop)"]) :=
  ⟨rfl, ((compile_strict_iff_grammar rfl (written
    ["BEGIN_TILING_DATA_DEF(A)", "TILING_DATA_FIELD_DEF_ARR(T, 4, x)",
      "END_TILING_DATA_DEF(,)"])).2.2 _ (by decide +kernel) _).mpr
        (by decide +kernel)⟩

end Description

end TilingHeader
