import TilingHeader.Directive.Kind

namespace TilingHeader

/-! What can be wrong with a description, and on which line. -/

inductive Cause where
  /-- A struct begins while the struct `name` is still open. -/
  | nestedOpening (name : String)
  | unmatchedClosing
  | memberOutside (name : String)
  /-- The text ends while the struct `name` is still open. -/
  | unclosed (name : String)
  | wrongCount (kind : Kind) (expected found : Nat)
  /-- The argument at the one-based `position` is empty. -/
  | emptyArgument (kind : Kind) (position : Nat)
  | noArguments (kind : Kind)
  /-- The word only starts with the keyword of `kind`. -/
  | misspelled (word : String) (kind : Kind)
  deriving DecidableEq, Repr

structure Fault where
  /-- One-based. -/
  line : Nat
  cause : Cause
  deriving DecidableEq, Repr

def Cause.message : Cause → String
  | .nestedOpening name =>
      "struct begins while `" ++ name ++ "` is still open"
  | .unmatchedClosing => "struct end without a matching begin"
  | .memberOutside name =>
      "field `" ++ name ++ "` declared outside of a struct"
  | .unclosed name => "struct `" ++ name ++ "` is never closed"
  | .wrongCount kind expected found =>
      kind.keyword ++ " expects " ++ expected.repr ++
        " argument(s), found " ++ found.repr
  | .emptyArgument kind position =>
      kind.keyword ++ " argument " ++ position.repr ++ " is empty"
  | .noArguments kind => kind.keyword ++ " is missing its argument list"
  | .misspelled word kind =>
      "`" ++ word ++ "` is not a directive (did you mean " ++
        kind.keyword ++ "?)"

def Fault.message (fault : Fault) : String :=
  "line " ++ fault.line.repr ++ ": " ++ fault.cause.message

end TilingHeader
