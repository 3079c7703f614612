import TilingHeader.Directive.Scan
import TilingHeader.Layout.Basic
import TilingHeader.Logged
import TilingHeader.Settings
import TilingHeader.Warning

namespace TilingHeader

/-! From directives to the fragments of a header.  Each directive is first
understood alone, as an event; then the events act on the struct that is open.
Strict reading stops at the first defect, tolerant reading notes it and goes
on, except where a directive has too few arguments. -/

namespace Kind

/-- The event of a directive, from its leading arguments in their order; `none`
if there are too few of them. -/
def event? : Kind → List String → Option Event
  | .opening, name :: _ => some (.opening name)
  | .scalar, type :: name :: _ => some (.member (.scalar type name))
  | .array, type :: length :: name :: _ =>
      some (.member (.array type length name))
  | .nested, type :: name :: _ => some (.member (.nested type name))
  | .closing, _ => some .closing
  | _, _ => none

end Kind

abbrev Reading := Logged Warning Fault

namespace Directive

/-- The one-based position of the first empty text. -/
def emptyPosition? (args : List String) : Option Nat :=
  (args.findIdx? (· == "")).map (· + 1)

def checkWord (strict : Bool) (directive : Directive) : Reading Unit :=
  if directive.word = directive.kind.keyword then pure ()
  else if strict then
    .fail ⟨directive.line, .misspelled directive.word directive.kind⟩
  else .note (.misspelled directive.line directive.word directive.kind)

def checkSurplus (strict : Bool) (directive : Directive) (expected : Nat) :
    Reading Unit :=
  if directive.args.length ≤ expected then pure ()
  else if strict then
    .fail ⟨directive.line,
      .wrongCount directive.kind expected directive.args.length⟩
  else
    .note (.surplus directive.line directive.kind expected
      (directive.args.length - expected))

def checkEmpty (strict : Bool) (directive : Directive) : Reading Unit :=
  match strict, emptyPosition? directive.args with
  | true, some position =>
      .fail ⟨directive.line, .emptyArgument directive.kind position⟩
  | _, _ => pure ()

/-- A directive understood alone. -/
def interpret (strict : Bool) (directive : Directive) : Reading Event := do
  directive.checkWord strict
  match directive.kind.arity with
  | none => pure .closing
  | some expected =>
      match directive.kind.event? directive.args with
      | none =>
          .fail ⟨directive.line,
            .wrongCount directive.kind expected directive.args.length⟩
      | some event =>
          directive.checkSurplus strict expected
          directive.checkEmpty strict
          pure event

end Directive

/-- The struct that is being defined, and the line on which it began. -/
structure OpenStruct where
  line : Nat
  body : PackedStruct
  deriving DecidableEq, Repr

namespace OpenStruct

def start (line packAlignment : Nat) (name : String) : OpenStruct :=
  ⟨line, ⟨name, packAlignment, []⟩⟩

def add (current : OpenStruct) (member : Member) : OpenStruct :=
  { current with
    body := { current.body with members := current.body.members ++ [member] } }

end OpenStruct

namespace Fragment

/-- One event: the fragment that it completes, if any, and the struct that is
open after it. -/
def step (settings : Settings) (line : Nat) :
    Option OpenStruct → Event → Reading (Option Fragment × Option OpenStruct)
  | none, .opening name =>
      pure (none, some (.start line settings.packAlignment name))
  | some current, .opening name =>
      if settings.strict then
        .fail ⟨line, .nestedOpening current.body.name⟩
      else do
        .note (.nestedOpening line current.body.name)
        pure (some (.unclosed current.body),
          some (.start line settings.packAlignment name))
  | some current, .member member => pure (none, some (current.add member))
  | none, .member member =>
      if settings.strict then .fail ⟨line, .memberOutside member.name⟩
      else do
        .note (.looseMember line member.name)
        pure (some (.loose member), none)
  | some current, .closing => pure (some (.whole current.body), none)
  | none, .closing =>
      if settings.strict then .fail ⟨line, .unmatchedClosing⟩
      else do
        .note (.strayClosing line)
        pure (some .strayClosing, none)

/-- What the end of the directives makes of the struct that is open. -/
def finish (settings : Settings) : Option OpenStruct → Reading (List Fragment)
  | none => pure []
  | some current =>
      if settings.strict then
        .fail ⟨current.line, .unclosed current.body.name⟩
      else do
        .note (.unclosed current.body.name)
        pure [.unclosed current.body]

/-- The fragments of the directives, with `current` open before the first. -/
def buildFrom (settings : Settings) (current : Option OpenStruct) :
    List Directive → Reading (List Fragment)
  | [] => finish settings current
  | directive :: rest => do
      let event ← directive.interpret settings.strict
      let (completed, next) ← step settings directive.line current event
      let others ← buildFrom settings next rest
      pure (completed.toList ++ others)

def build (settings : Settings) (directives : List Directive) :
    Reading (List Fragment) :=
  buildFrom settings none directives

end Fragment

end TilingHeader
