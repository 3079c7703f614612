import TilingHeader.Directive.Kind

namespace TilingHeader

/-! What tolerant reading lets pass, and says so. -/

inductive Warning where
  | misspelled (line : Nat) (word : String) (kind : Kind)
  | surplus (line : Nat) (kind : Kind) (expected extra : Nat)
  | nestedOpening (line : Nat) (name : String)
  | strayClosing (line : Nat)
  | looseMember (line : Nat) (name : String)
  | unclosed (name : String)
  deriving DecidableEq, Repr

def Warning.message : Warning → String
  | .misspelled line word kind =>
      "line " ++ line.repr ++ ": treating `" ++ word ++ "` as " ++ kind.keyword
  | .surplus line kind expected extra =>
      "line " ++ line.repr ++ ": " ++ kind.keyword ++ " takes " ++
        expected.repr ++ " argument(s), ignoring " ++ extra.repr ++ " extra"
  | .nestedOpening line name =>
      "line " ++ line.repr ++ ": struct begins inside `" ++ name ++ "`"
  | .strayClosing line =>
      "line " ++ line.repr ++ ": struct end without a matching begin"
  | .looseMember line name =>
      "line " ++ line.repr ++ ": field `" ++ name ++ "` outside of a struct"
  | .unclosed name => "struct `" ++ name ++ "` is never closed"

end TilingHeader
