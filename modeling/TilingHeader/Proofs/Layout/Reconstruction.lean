import TilingHeader.Proofs.Layout.Building

namespace TilingHeader.Fragment

/-! Building loses nothing and can be undone.  The events of the fragments are
those of the directives, one for one, and fragments that stand as building
leaves them are built again from any spelling of their events. -/

theorem reconstruction (settings : Settings) :
    (∀ directives fragments,
      (build settings directives).outcome = .ok fragments →
        List.Forall₂ Directive.Means directives (fragments.flatMap events) ∧
          (∀ fragment ∈ fragments, fragment.Packed settings.packAlignment) ∧
          Placed fragments ∧
          (settings.strict = true →
            ∀ fragment ∈ fragments, fragment.IsWhole)) ∧
      ∀ fragments directives,
        (∀ fragment ∈ fragments, fragment.Packed settings.packAlignment) →
        List.Forall₂ Directive.Spells directives (fragments.flatMap events) →
          (settings.strict = false → Placed fragments →
            (build settings directives).outcome = .ok fragments) ∧
          (settings.strict = true →
            (∀ fragment ∈ fragments, fragment.IsWhole) →
            (∀ event ∈ fragments.flatMap events, "" ∉ event.arguments) →
            (build settings directives).outcome = .ok fragments) := by
  constructor
  · intro directives fragments built
    obtain ⟨steps, means, arranged, whole⟩ := exists_steps_of_build built
    have steps_eq : fragments.flatMap events = steps := by
      rw [← arranged, events_arrange, pending_none, List.nil_append]
    refine ⟨steps_eq ▸ means, ?_, ?_, whole⟩
    · rw [← arranged]
      exact packed_arrange (by simp) steps
    · rw [← arranged]
      exact placed_arrange _ none steps
  · intro fragments directives packed spells
    constructor
    · intro tolerant placed
      refine (outcome_build_tolerant_iff tolerant directives fragments).mpr
        ⟨fragments.flatMap events, ?_, arrange_events packed placed⟩
      exact spells.imp fun _ _ => Directive.Spells.means
    · intro strict whole filled
      refine (outcome_build_strict_iff strict directives fragments).mpr ?_
      refine (build_eq_pure_iff settings directives fragments).mpr
        ⟨?_, fragments.flatMap events, spells,
          arrange_events packed (placed_of_whole whole), whole⟩
      exact fun directive listed _ => filled_of_spells spells filled _ listed

theorem reconstruction_unclosed :
    (build { strict := false }
        [⟨1, .opening, "BEGIN_TILING_DATA_DEF", ["A"]⟩,
          ⟨2, .opening, "BEGIN_TILING_DATA_DEF", [""]⟩,
          ⟨2, .closing, "END_TILING_DATA_DEF", ["B", "C"]⟩]).outcome =
      .ok [.unclosed ⟨"A", 8, []⟩, .whole ⟨"", 8, []⟩] := by
  refine ((reconstruction _).2 _ _ ?_ ?_).1 rfl ?_
  · simp [Packed, body?]
  · exact .cons ⟨rfl, rfl, fun _ => rfl⟩ (.cons ⟨rfl, rfl, fun _ => rfl⟩
      (.cons ⟨rfl, rfl, fun opens => absurd rfl opens⟩ .nil))
  · simp [Placed, Adjoins, Opens]

end TilingHeader.Fragment
