import TilingHeader.Fault
import TilingHeader.Text.Blank

namespace TilingHeader

/-! Reading the directives of a description.  A line counts when the identifier
that its trimmed text starts with resolves to a directive; the others are passed
over.  The arguments stand between the parenthesis that follows the identifier
and the last closing one of the line. -/

structure Directive where
  /-- One-based. -/
  line : Nat
  kind : Kind
  /-- The identifier as written. -/
  word : String
  args : List String
  deriving DecidableEq, Repr

def isWordCharacter (character : Char) : Bool :=
  character.isAlphanum || character == '_'

/-- All that stands before the last occurrence of `mark`. -/
def beforeLast? (mark : Char) : List Char → Option (List Char)
  | [] => none
  | character :: rest =>
      match beforeLast? mark rest with
      | some before => some (character :: before)
      | none => if character = mark then some [] else none

/-- The text of the argument list that follows the identifier of a line. -/
def argumentText? (afterWord : List Char) : Option (List Char) :=
  match Text.trimStart afterWord with
  | '(' :: rest => beforeLast? ')' rest
  | _ => none

def splitArguments (text : List Char) : List String :=
  (text.splitOn ',').map fun argument => String.ofList (Text.trim argument)

/-- What one line of a description says. -/
inductive LineReading where
  | other
  | directive (kind : Kind) (word : String) (args : List String)
  | withoutArguments (kind : Kind)
  deriving DecidableEq, Repr

def readLine (text : List Char) : LineReading :=
  let trimmed := Text.trim text
  let word := trimmed.takeWhile isWordCharacter
  match Kind.ofWord? word with
  | none => .other
  | some kind =>
      match argumentText? (trimmed.dropWhile isWordCharacter) with
      | some inner =>
          .directive kind (String.ofList word) (splitArguments inner)
      | none =>
          if kind = .closing then .directive kind (String.ofList word) []
          else .withoutArguments kind

namespace Directive

/-- The directives of the given lines, the first of which has number `line`. -/
def scanFrom (line : Nat) : List (List Char) → Except Fault (List Directive)
  | [] => .ok []
  | text :: rest =>
      match readLine text with
      | .other => scanFrom (line + 1) rest
      | .withoutArguments kind => .error ⟨line, .noArguments kind⟩
      | .directive kind word args =>
          (scanFrom (line + 1) rest).map (⟨line, kind, word, args⟩ :: ·)

def scan (source : String) : Except Fault (List Directive) :=
  scanFrom 1 (source.toList.splitOn '\n')

end Directive

end TilingHeader
