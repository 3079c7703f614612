namespace TilingHeader

/-! What a run can be told: which files are descriptions, how structs are
packed, and what stands around them in the header. -/

structure Settings where
  /-- A file whose name ends so is a description. -/
  suffix : String := "tilingdata.h"
  packAlignment : Nat := 8
  includeGuard : String := "__TIKCFW_KERNEL_TILING_H_"
  debugMacro : String := "ASCENDC_CPU_DEBUG"
  /-- Included where the debug macro is defined; none drops the block. -/
  debugIncludes : List String := ["cstdint", "cstring"]
  /-- Refuse a description whose nesting or arguments are broken. -/
  strict : Bool := true
  deriving DecidableEq, Repr

namespace Settings

inductive Defect where
  | emptySuffix
  | alignment (value : Nat)
  | emptyGuard
  | noDebugMacro
  deriving DecidableEq, Repr

def Defect.message : Defect → String
  | .emptySuffix => "suffix must not be empty"
  | .alignment value =>
      "pack-alignment must be a power of two between 1 and 16, got " ++
        value.repr
  | .emptyGuard => "include-guard must not be empty"
  | .noDebugMacro => "debug-macro must be set when debug-includes is non-empty"

def alignments : List Nat := [1, 2, 4, 8, 16]

/-- The first defect, in the order of the keys. -/
def defect? (settings : Settings) : Option Defect :=
  if settings.suffix = "" then some .emptySuffix
  else if settings.packAlignment ∉ alignments then
    some (.alignment settings.packAlignment)
  else if settings.includeGuard = "" then some .emptyGuard
  else if settings.debugIncludes ≠ [] ∧ settings.debugMacro = "" then
    some .noDebugMacro
  else none

structure Valid (settings : Settings) : Prop where
  suffix_nonempty : settings.suffix ≠ ""
  alignment_mem : settings.packAlignment ∈ alignments
  guard_nonempty : settings.includeGuard ≠ ""
  macro_nonempty : settings.debugIncludes ≠ [] → settings.debugMacro ≠ ""

theorem defect?_eq_none_iff (settings : Settings) :
    settings.defect? = none ↔ settings.Valid := by
  constructor
  · intro sound
    unfold defect? at sound
    split at sound <;> try contradiction
    split at sound <;> try contradiction
    split at sound <;> try contradiction
    split at sound <;> try contradiction
    rename_i suffix alignment guard debug
    exact ⟨suffix, Decidable.not_not.mp alignment, guard,
      fun includes empty => debug ⟨includes, empty⟩⟩
  · intro valid
    have debug : ¬(settings.debugIncludes ≠ [] ∧ settings.debugMacro = "") :=
      fun both => valid.macro_nonempty both.1 both.2
    simp only [defect?, valid.suffix_nonempty, valid.guard_nonempty, debug,
      valid.alignment_mem, not_true_eq_false, if_false]

theorem Valid.setStrict {settings : Settings} (valid : settings.Valid)
    (strict : Bool) : Valid { settings with strict := strict } :=
  ⟨valid.suffix_nonempty, valid.alignment_mem, valid.guard_nonempty,
    valid.macro_nonempty⟩

theorem valid_default : Valid {} :=
  (defect?_eq_none_iff {}).mp (by decide)

def includeText (file : String) : String :=
  "#include <" ++ file ++ ">\n"

def debugBlock (settings : Settings) : String :=
  if settings.debugIncludes = [] then ""
  else
    "#if defined(" ++ settings.debugMacro ++ ")\n" ++
      String.join (settings.debugIncludes.map includeText) ++ "#endif\n\n"

/-- All that stands before the structs. -/
def prologue (settings : Settings) : String :=
  "#ifndef " ++ settings.includeGuard ++ "\n" ++
    "#define " ++ settings.includeGuard ++ "\n\n" ++ settings.debugBlock

/-- All that stands after the structs. -/
def epilogue : String := "#endif\n"

end Settings

end TilingHeader
