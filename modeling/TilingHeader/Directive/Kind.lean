namespace TilingHeader

/-! The five directives of a description.  A word belongs to a directive when
it starts with that directive's keyword; where several do, the longest counts. -/

inductive Kind where
  | opening
  | scalar
  | array
  | nested
  | closing
  deriving DecidableEq, Repr

namespace Kind

def keyword : Kind → String
  | .opening => "BEGIN_TILING_DATA_DEF"
  | .scalar => "TILING_DATA_FIELD_DEF"
  | .array => "TILING_DATA_FIELD_DEF_ARR"
  | .nested => "TILING_DATA_FIELD_DEF_STRUCT"
  | .closing => "END_TILING_DATA_DEF"

/-- How many arguments the directive takes; `none` means any number. -/
def arity : Kind → Option Nat
  | .opening => some 1
  | .scalar => some 2
  | .array => some 3
  | .nested => some 2
  | .closing => none

/-- The order in which keywords are tried: one that extends another is tried
before it. -/
def precedence : List Kind :=
  [.opening, .array, .nested, .scalar, .closing]

theorem mem_precedence (kind : Kind) : kind ∈ precedence := by
  cases kind <;> simp [precedence]

def Begins (kind : Kind) (word : List Char) : Prop :=
  kind.keyword.toList <+: word

instance (kind : Kind) (word : List Char) : Decidable (kind.Begins word) :=
  inferInstanceAs (Decidable (_ <+: _))

def ofWord? (word : List Char) : Option Kind :=
  precedence.find? fun kind => kind.Begins word

theorem begins_of_ofWord? {word : List Char} {kind : Kind}
    (resolved : ofWord? word = some kind) : kind.Begins word := by
  simpa using List.find?_some resolved

end Kind

end TilingHeader
