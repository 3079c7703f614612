import TilingHeader.Settings
import TilingHeader.Toml.Document

namespace TilingHeader.Settings

/-! Settings from a TOML document.  Each key of the document sets the field of
its name, and the fields that are not named keep their defaults. -/

open Toml (Document Field Key Located Value)

/-- What the value of a key is to be. -/
inductive Want where
  | text
  | number
  | truth
  | sequence
  deriving DecidableEq, Repr

def Want.description : Want → String
  | .text => "a string"
  | .number => "u32"
  | .truth => "a boolean"
  | .sequence => "a sequence"

inductive Mismatch where
  | unknownKey (name : String)
  | wrongType (found : Value) (want : Want)
  /-- An integer that is negative or has more than 32 bits. -/
  | outOfRange (number : Int)

def keyNames : List String :=
  ["suffix", "pack-alignment", "include-guard", "debug-macro",
    "debug-includes", "strict"]

def Mismatch.message : Mismatch → String
  | .unknownKey name =>
      "unknown field `" ++ name ++ "`, expected one of " ++
        ", ".intercalate (keyNames.map fun known => "`" ++ known ++ "`")
  | .wrongType found want =>
      "invalid type: " ++ found.description ++ ", expected " ++ want.description
  | .outOfRange number =>
      "invalid value: integer `" ++ toString number ++ "`, expected u32"

abbrev Fitting := Except (Located Mismatch)

def misfit (value : Located Value) (want : Want) : Fitting α :=
  .error ⟨value.span, .wrongType value.content want⟩

def fitText (value : Located Value) : Fitting String :=
  match value.content with
  | .text content => .ok content
  | _ => misfit value .text

/-- Numbers below this have 32 bits. -/
def numberBound : Int := 4294967296

def fitNumber (value : Located Value) : Fitting Nat :=
  match value.content with
  | .integer number =>
      if 0 ≤ number ∧ number < numberBound then .ok number.toNat
      else .error ⟨value.span, .outOfRange number⟩
  | _ => misfit value .number

def fitTruth (value : Located Value) : Fitting Bool :=
  match value.content with
  | .boolean truth => .ok truth
  | _ => misfit value .truth

def fitTexts (value : Located Value) : Fitting (List String) :=
  match value.content with
  | .sequence items => items.mapM fitText
  | _ => misfit value .sequence

def setField (settings : Settings) (field : Field) : Fitting Settings :=
  match field.key.name with
  | "suffix" => do
      let suffix ← fitText field.value
      pure { settings with suffix }
  | "pack-alignment" => do
      let packAlignment ← fitNumber field.value
      pure { settings with packAlignment }
  | "include-guard" => do
      let includeGuard ← fitText field.value
      pure { settings with includeGuard }
  | "debug-macro" => do
      let debugMacro ← fitText field.value
      pure { settings with debugMacro }
  | "debug-includes" => do
      let debugIncludes ← fitTexts field.value
      pure { settings with debugIncludes }
  | "strict" => do
      let strict ← fitTruth field.value
      pure { settings with strict }
  | name => .error ⟨field.key.span, .unknownKey name⟩

/-- Stops at the first key that does not fit. -/
def ofDocument (document : Document) : Fitting Settings :=
  document.foldlM setField {}

def byteCount (text : List Char) : Nat :=
  (String.ofList text).utf8ByteSize

/-- Shows the line of the document that holds a place, and marks the place in
it, with a mark to a byte.  The marks start behind as many columns as there are
characters before the place, and end with the line: at as many columns as it has
bytes. -/
def report (text : String) (mismatch : Located Mismatch) : String :=
  let all := text.toList
  let before := all.take (all.length - mismatch.span.start.length)
  let line := before.count '\n'
  let column := (before.reverse.takeWhile (· ≠ '\n')).length
  let content := (all.splitOn '\n')[line]?.getD []
  let number := (line + 1).repr
  let margin := String.ofList (List.replicate (number.length + 1) ' ') ++ "|"
  let width :=
    byteCount mismatch.span.start - byteCount mismatch.span.stop
  let marks := max 1 (min width (byteCount content - column))
  "TOML parse error at line " ++ number ++ ", column " ++ (column + 1).repr ++
    "\n" ++ margin ++ "\n" ++
    number ++ " | " ++ String.ofList content ++ "\n" ++
    margin ++ String.ofList (List.replicate (column + 1) ' ') ++
    String.ofList (List.replicate marks '^') ++ "\n" ++
    mismatch.content.message ++ "\n"

end TilingHeader.Settings
