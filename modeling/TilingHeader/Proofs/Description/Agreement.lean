import TilingHeader.Description
import TilingHeader.Proofs.Layout.Building

namespace TilingHeader

/-! The two modes agree on what is clean.  Strict reading gives fragments
exactly where tolerant reading gives the same ones without a notice and no
argument that counts is empty. -/

def Settings.withStrict (settings : Settings) (strict : Bool) : Settings :=
  { settings with strict := strict }

namespace Fragment

theorem build_strict_eq_ok_iff (settings : Settings)
    (directives : List Directive) (fragments : List Fragment) :
    (build (settings.withStrict true) directives).outcome = .ok fragments ↔
      build (settings.withStrict false) directives = pure fragments ∧
        ∀ directive ∈ directives, directive.Filled := by
  have strict : (settings.withStrict true).strict = true := rfl
  rw [outcome_build_strict_iff strict, build_eq_pure_iff, build_eq_pure_iff]
  constructor
  · intro read
    obtain ⟨filled, arranged⟩ := read
    exact ⟨⟨fun _ _ => nofun, arranged⟩,
      fun directive listed => filled directive listed strict⟩
  · rintro ⟨⟨_, arranged⟩, filled⟩
    exact ⟨fun directive listed _ => filled directive listed, arranged⟩

end Fragment

namespace Description

theorem compile_of_scan_error (settings : Settings) {source : String}
    {fault : Fault} (scanned : Directive.scan source = .error fault) :
    compile settings source = .fail fault := by
  rw [compile, fragments, scanned]
  rfl

theorem compile_of_scan_ok (settings : Settings) {source : String}
    {directives : List Directive}
    (scanned : Directive.scan source = .ok directives) :
    compile settings source =
      Fragment.build settings directives >>= fun pieces =>
        pure (layoutText pieces) := by
  rw [compile, fragments, scanned]
  rfl

theorem compile_strict_eq_ok_iff (settings : Settings) (source text : String) :
    (compile (settings.withStrict true) source).outcome = .ok text ↔
      compile (settings.withStrict false) source = pure text ∧
        ∀ directives, Directive.scan source = .ok directives →
          ∀ directive ∈ directives, directive.Filled := by
  cases scanned : Directive.scan source with
  | error fault =>
      rw [compile_of_scan_error _ scanned, compile_of_scan_error _ scanned]
      simp
  | ok directives =>
      rw [compile_of_scan_ok _ scanned, compile_of_scan_ok _ scanned,
        Logged.outcome_bind_eq_ok_iff, Logged.bind_eq_pure_iff]
      constructor
      · intro compiled
        obtain ⟨pieces, built, rendered⟩ := compiled
        obtain ⟨silent, filled⟩ :=
          (Fragment.build_strict_eq_ok_iff _ _ _).mp built
        refine ⟨⟨pieces, silent, ?_⟩, ?_⟩
        · exact (Logged.pure_eq_pure_iff _ _).mpr (Except.ok.inj rendered)
        · rintro _ ⟨rfl⟩
          exact filled
      · rintro ⟨⟨pieces, silent, rendered⟩, filled⟩
        refine ⟨pieces, ?_, ?_⟩
        · exact (Fragment.build_strict_eq_ok_iff _ _ _).mpr
            ⟨silent, filled directives rfl⟩
        · exact congrArg Except.ok ((Logged.pure_eq_pure_iff _ _).mp rendered)

theorem modes_agree (settings : Settings) :
    (∀ directives fragments,
      (Fragment.build (settings.withStrict true) directives).outcome =
          .ok fragments ↔
        (Fragment.build (settings.withStrict false) directives).outcome =
            .ok fragments ∧
          (Fragment.build (settings.withStrict false) directives).notices =
            [] ∧
          ∀ directive ∈ directives,
            directive.kind ≠ .closing → "" ∉ directive.args) ∧
      ∀ source,
        (∀ text,
          (compile (settings.withStrict true) source).outcome = .ok text →
            (compile (settings.withStrict false) source).outcome = .ok text ∧
              (compile (settings.withStrict false) source).notices = []) ∧
        (∀ fault,
          (compile (settings.withStrict false) source).outcome =
              .error fault →
            ∃ other, (compile (settings.withStrict true) source).outcome =
              .error other) ∧
        ∀ fault text,
          (compile (settings.withStrict true) source).outcome =
              .error fault →
            (compile (settings.withStrict false) source).outcome = .ok text →
              (compile (settings.withStrict false) source).notices ≠ [] ∨
                ∃ directives, Directive.scan source = .ok directives ∧
                  ∃ directive ∈ directives,
                    directive.kind ≠ .closing ∧ "" ∈ directive.args := by
  refine ⟨fun directives fragments => ?_, fun source => ⟨?_, ?_, ?_⟩⟩
  · rw [Fragment.build_strict_eq_ok_iff, Logged.eq_pure_iff, and_assoc,
      and_left_comm]
    rfl
  · intro text accepted
    have silent := ((compile_strict_eq_ok_iff _ _ _).mp accepted).1
    exact ((Logged.eq_pure_iff _ _).mp silent).symm
  · intro fault refused
    cases outcome : (compile (settings.withStrict true) source).outcome with
    | error other => exact ⟨other, rfl⟩
    | ok text =>
        have silent := ((compile_strict_eq_ok_iff _ _ _).mp outcome).1
        rw [silent] at refused
        cases refused
  · intro fault text refused accepted
    by_contra clean
    push Not at clean
    obtain ⟨silent, filled⟩ := clean
    have agreed : (compile (settings.withStrict true) source).outcome =
        .ok text :=
      (compile_strict_eq_ok_iff _ _ _).mpr
        ⟨(Logged.eq_pure_iff _ _).mpr ⟨silent, accepted⟩, filled⟩
    rw [refused] at agreed
    cases agreed

theorem modes_agree_clean :
    (compile (Settings.withStrict {} false)
        "BEGIN_TILING_DATA_DEF(A)\nEND_TILING_DATA_DEF").outcome =
        .ok ("#pragma pack(push, 8)\nstruct A \x7b\n" ++
          "\x7d;\n#pragma pack(pop)\n") ∧
      (compile (Settings.withStrict {} false)
        "BEGIN_TILING_DATA_DEF(A)\nEND_TILING_DATA_DEF").notices = [] :=
  ((modes_agree {}).2 _).1 _ (by decide +kernel)

end Description

end TilingHeader
